/-
# Printed colors

A color is printed in lower case, two digits for each channel, those of the alpha channel only when
it is not opaque.  Of the texts of this form it is the only one that is read as the color
(`Color.PrintedForm`, `printed_spec`).  Another text that is read as the color has its digits in
upper case, short, behind no mark or several, or with the digits `ff` of an opaque alpha channel:
these are put straight by `canonicalDigits` (`canonicalDigits_of_spells`).
-/
import DialogueSheet.Proofs.Color.Reading
import DialogueSheet.Proofs.Text.Trimmed

namespace DialogueSheet

theorem hexDigit_spec {d : Nat} (h : d < 16) : HexDigit (hexDigit d) d := by
  have hlower : ∀ d < 16, HexDigit (hexDigit d) d := by decide +kernel
  exact hlower d h

/-- A digit is printed in lower case. -/
theorem HexDigit.toLower_eq {c : Char} {d : Nat} (h : HexDigit c d) : c.toLower = hexDigit d :=
  h.of_all (P := fun c d => c.toLower = hexDigit d) (by decide +kernel)

theorem HexDigit.not_blank {c : Char} {d : Nat} (h : HexDigit c d) : Text.isBlank c = false :=
  h.of_all (P := fun c _ => Text.isBlank c = false) (by decide +kernel)

namespace Color

/-! ### Printed digits -/

/-- The digits of a color as it is printed. -/
def printedDigits (c : Color) : List Char :=
  channelDigits c.red ++ channelDigits c.green ++ channelDigits c.blue ++
    if c.alpha = 255 then [] else channelDigits c.alpha

theorem toList_text (c : Color) : c.text.toList = '#' :: c.printedDigits := by
  rw [text, String.toList_ofList, printedDigits, hexChars]
  split <;> simp

theorem channelDigits_eq (channel : UInt8) :
    channelDigits channel = [hexDigit (channel.toNat / 16), hexDigit (channel.toNat % 16)] := by
  have hlt : channel.toNat / 16 < 16 := by
    have := channel.toNat_lt
    omega
  simp [channelDigits, hexDigitsOf, Nat.mod_eq_of_lt hlt]

/-- A channel is spelled by the two digits that are printed for it. -/
theorem exists_channelDigits (channel : UInt8) :
    ∃ high low, channelDigits channel = [high, low] ∧ SpellsChannel high low channel := by
  have hlt := channel.toNat_lt
  refine ⟨_, _, channelDigits_eq channel, _, _, hexDigit_spec ?_, hexDigit_spec ?_, ?_⟩ <;> omega

/-- Other digits of the channel are the printed ones in upper case. -/
theorem SpellsChannel.toLower_eq {high low : Char} {channel : UInt8}
    (h : SpellsChannel high low channel) :
    [high.toLower, low.toLower] = channelDigits channel := by
  obtain ⟨m, n, hm, hn, hchannel⟩ := h
  have hn' := hn.lt
  have hhigh : channel.toNat / 16 = m := by omega
  have hlow : channel.toNat % 16 = n := by omega
  rw [channelDigits_eq, hhigh, hlow, hm.toLower_eq, hn.toLower_eq]

theorem channelDigits_eq_ff_iff {channel : UInt8} :
    channelDigits channel = ['f', 'f'] ↔ channel = 255 := by
  constructor
  · intro h
    obtain ⟨high, low, hdigits, m, n, hm, hn, hchannel⟩ := exists_channelDigits channel
    obtain ⟨rfl, rfl⟩ : high = 'f' ∧ low = 'f' := by simpa using hdigits.symm.trans h
    have hf : HexDigit 'f' 15 := by decide +kernel
    rw [← UInt8.toNat_inj, hchannel, hm.unique hf, hn.unique hf]
    rfl
  · rintro rfl
    decide +kernel

/-- **The printed digits are digits of the color.** -/
theorem spells_printedDigits (c : Color) : Spells c.printedDigits c := by
  obtain ⟨r, r', hr, hred⟩ := exists_channelDigits c.red
  obtain ⟨g, g', hg, hgreen⟩ := exists_channelDigits c.green
  obtain ⟨b, b', hb, hblue⟩ := exists_channelDigits c.blue
  obtain ⟨a, a', ha, halpha⟩ := exists_channelDigits c.alpha
  rw [printedDigits, hr, hg, hb, ha]
  split
  · exact .rrggbb hred hgreen hblue ‹_›
  · exact .rrggbbaa hred hgreen hblue halpha

theorem length_channelDigits (channel : UInt8) : (channelDigits channel).length = 2 := by
  rw [channelDigits_eq]
  rfl

theorem length_printedDigits (c : Color) :
    c.printedDigits.length = if c.alpha = 255 then 6 else 8 := by
  rw [printedDigits]
  split <;> simp [length_channelDigits]

/-- Behind one mark, exactly the digits of a color are read as it. -/
theorem ofHex?_of_mark {text : String} {digits : List Char} {c : Color}
    (htext : text.toList = '#' :: digits) (hdigits : ∀ d ∈ digits, ∃ n, HexDigit d n) :
    ofHex? text = some c ↔ Spells digits c := by
  have htrim : (Text.trim text).toList = List.replicate 1 '#' ++ digits := by
    rw [Text.trim, String.toList_ofList, htext, Text.trimChars_of_letters]
    · rfl
    · intro d hd
      rcases List.mem_cons.1 hd with rfl | hd
      · decide +kernel
      · obtain ⟨n, hn⟩ := hdigits d hd
        exact hn.not_blank
  rw [ofHex?_eq_some_iff]
  constructor
  · rintro ⟨marks, digits', hsplit, hc⟩
    have hsame := htrim.symm.trans hsplit
    obtain rfl := marks_unique hsame hdigits hc.hexDigits
    rwa [List.append_cancel_left hsame]
  · exact fun hc => ⟨1, digits, htrim, hc⟩

/-- **What is printed is read as the color.** -/
theorem ofHex?_text (c : Color) : ofHex? c.text = some c :=
  (ofHex?_of_mark c.toList_text c.spells_printedDigits.hexDigits).2 c.spells_printedDigits

/-! ### Other spellings -/

/-- Digits that stand for themselves twice, written twice. -/
def inFull : List Char → List Char
  | [r, g, b] => [r, r, g, g, b, b]
  | [r, g, b, a] => [r, r, g, g, b, b, a, a]
  | digits => digits

/-- Digits in full and in lower case, without those of an opaque alpha channel. -/
def canonicalDigits (digits : List Char) : List Char :=
  let lower := (inFull digits).map Char.toLower
  if lower.drop 6 = ['f', 'f'] then lower.take 6 else lower

theorem canonicalDigits_of_six {digits : List Char} {c : Color} (halpha : c.alpha = 255)
    (h : (inFull digits).map Char.toLower =
      channelDigits c.red ++ channelDigits c.green ++ channelDigits c.blue) :
    canonicalDigits digits = c.printedDigits := by
  have hdrop : (channelDigits c.red ++ channelDigits c.green ++ channelDigits c.blue).drop 6 = [] :=
    List.drop_eq_nil_of_le (by simp [length_channelDigits])
  rw [canonicalDigits, h, hdrop, if_neg (List.cons_ne_nil _ _).symm, printedDigits, if_pos halpha,
    List.append_nil]

theorem canonicalDigits_of_eight {digits : List Char} {c : Color}
    (h : (inFull digits).map Char.toLower = channelDigits c.red ++ channelDigits c.green ++
      channelDigits c.blue ++ channelDigits c.alpha) :
    canonicalDigits digits = c.printedDigits := by
  have hsix :
      (channelDigits c.red ++ channelDigits c.green ++ channelDigits c.blue).length = 6 := by
    simp [length_channelDigits]
  rw [canonicalDigits, h, List.drop_left' hsix, List.take_left' hsix, printedDigits]
  by_cases halpha : c.alpha = 255
  · rw [if_pos (channelDigits_eq_ff_iff.2 halpha), if_pos halpha, List.append_nil]
  · rw [if_neg (mt channelDigits_eq_ff_iff.1 halpha), if_neg halpha]

/-- **Digits of a color are printed in full and in lower case.** -/
theorem canonicalDigits_of_spells {digits : List Char} {c : Color} (h : Spells digits c) :
    canonicalDigits digits = c.printedDigits := by
  cases h with
  | rgb hred hgreen hblue halpha =>
    refine canonicalDigits_of_six halpha ?_
    rw [← hred.toLower_eq, ← hgreen.toLower_eq, ← hblue.toLower_eq]
    rfl
  | rgba hred hgreen hblue halpha =>
    refine canonicalDigits_of_eight ?_
    rw [← hred.toLower_eq, ← hgreen.toLower_eq, ← hblue.toLower_eq, ← halpha.toLower_eq]
    rfl
  | rrggbb hred hgreen hblue halpha =>
    refine canonicalDigits_of_six halpha ?_
    rw [← hred.toLower_eq, ← hgreen.toLower_eq, ← hblue.toLower_eq]
    rfl
  | rrggbbaa hred hgreen hblue halpha =>
    refine canonicalDigits_of_eight ?_
    rw [← hred.toLower_eq, ← hgreen.toLower_eq, ← hblue.toLower_eq, ← halpha.toLower_eq]
    rfl

/-! ### The printed form -/

/-- A mark and six digits, or eight when the color is not opaque. -/
def LongForm (c : Color) (text : String) : Prop :=
  ∃ digits, text.toList = '#' :: digits ∧ (∀ d ∈ digits, ∃ n, HexDigit d n) ∧
    (digits.length = 6 ∨ c.alpha ≠ 255 ∧ digits.length = 8)

/-- The long form in lower case. -/
structure PrintedForm (c : Color) (text : String) : Prop where
  long : LongForm c text
  lower : ∀ d ∈ text.toList, d.toLower = d

/-- In the long form, the digits of a color are the printed ones but for their case. -/
theorem map_toLower_of_long {digits : List Char} {c : Color} (h : Spells digits c)
    (hlength : digits.length = 6 ∨ c.alpha ≠ 255 ∧ digits.length = 8) :
    digits.map Char.toLower = c.printedDigits := by
  have hfull : inFull digits = digits := by
    unfold inFull
    split <;> simp_all
  have hcanonical := canonicalDigits_of_spells h
  rw [canonicalDigits, hfull] at hcanonical
  rcases hlength with hsix | ⟨halpha, height⟩
  · have hdrop : (digits.map Char.toLower).drop 6 = [] := List.drop_eq_nil_of_le (by simp [hsix])
    rwa [hdrop, if_neg (List.cons_ne_nil _ _).symm] at hcanonical
  · split at hcanonical
    · -- eight digits are printed then, not six
      have hcount := congrArg List.length hcanonical
      rw [length_printedDigits, if_neg halpha, List.length_take, List.length_map, height] at hcount
      cases hcount
    · exact hcanonical

theorem printedForm_text (c : Color) : PrintedForm c c.text := by
  have hlength : c.printedDigits.length = 6 ∨ c.alpha ≠ 255 ∧ c.printedDigits.length = 8 := by
    rw [length_printedDigits]
    by_cases halpha : c.alpha = 255
    · exact .inl (if_pos halpha)
    · exact .inr ⟨halpha, if_neg halpha⟩
  have hlower : c.printedDigits.map Char.toLower = c.printedDigits.map id := by
    rw [map_toLower_of_long c.spells_printedDigits hlength, List.map_id]
  have hlong : LongForm c c.text :=
    ⟨c.printedDigits, c.toList_text, c.spells_printedDigits.hexDigits, hlength⟩
  refine ⟨hlong, fun d hd => ?_⟩
  rw [toList_text] at hd
  rcases List.mem_cons.1 hd with rfl | hd
  · rfl
  · exact List.map_inj_left.1 hlower d hd

theorem map_toLower_of_longForm {c : Color} {text : String} (hform : LongForm c text)
    (h : ofHex? text = some c) : text.toList.map Char.toLower = c.text.toList := by
  obtain ⟨digits, htext, hdigits, hlength⟩ := hform
  have hc : Spells digits c := (ofHex?_of_mark htext hdigits).1 h
  rw [htext, List.map_cons, map_toLower_of_long hc hlength, toList_text]
  rfl

/-- **Printing and reading are inverse.**  A color is read from what is printed for it, and from no
other text of the printed form; one of the long form has some of its letters in upper case.
Whatever else is read as the color, its digits in full and in lower case are printed. -/
theorem printed_spec :
    (∀ c, ofHex? c.text = some c) ∧
    ∀ s c, ofHex? s = some c →
      (∀ t, PrintedForm c t ∧ ofHex? t = some c ↔ t = c.text) ∧
      (∀ t, LongForm c t → ofHex? t = some c → t.toList.map Char.toLower = c.text.toList) ∧
      ∃ marks digits, (Text.trim s).toList = List.replicate marks '#' ++ digits ∧
        c.text.toList = '#' :: canonicalDigits digits := by
  refine ⟨ofHex?_text, fun s c hs => ⟨fun t => ?_, fun t => map_toLower_of_longForm, ?_⟩⟩
  · constructor
    · rintro ⟨hform, ht⟩
      have hlower : t.toList.map Char.toLower = t.toList := by
        rw [List.map_congr_left hform.lower, List.map_id']
      rw [← String.toList_inj, ← map_toLower_of_longForm hform.long ht, hlower]
    · rintro rfl
      exact ⟨printedForm_text c, ofHex?_text c⟩
  · obtain ⟨marks, digits, hsplit, hc⟩ := ofHex?_eq_some_iff.1 hs
    exact ⟨marks, digits, hsplit, by rw [toList_text, canonicalDigits_of_spells hc]⟩

/-- A short text in either case, and the one that is printed for its color. -/
theorem printed_spec_of_short :
    let c : Color := ⟨0x44, 0xaa, 0xcc, 0x88⟩
    ofHex? "\u3000##4aC8" = some c ∧
      (∀ t, PrintedForm c t ∧ ofHex? t = some c ↔ t = "#44aacc88") ∧
      "#44AAcc88".toList.map Char.toLower = "#44aacc88".toList := by
  intro c
  have hread : ofHex? "\u3000##4aC8" = some c := by decide +kernel
  have htext : c.text = "#44aacc88" := by decide +kernel
  have hvalues : "44AAcc88".toList.mapM hexValue? = some [4, 4, 10, 10, 12, 12, 8, 8] := by
    decide +kernel
  have hlong : LongForm c "#44AAcc88" :=
    ⟨"44AAcc88".toList, rfl, hexDigits_of_mapM hvalues, .inr ⟨by decide, rfl⟩⟩
  obtain ⟨honly, hcase, -⟩ := printed_spec.2 _ c hread
  rw [htext] at honly hcase
  exact ⟨hread, honly, hcase _ hlong (by decide +kernel)⟩

end Color
end DialogueSheet
