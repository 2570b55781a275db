/-
# Texts that are read as colors

Sixteen digits, in lower or upper case, spell the channels of a color (`Color.Spells`).

| digits | channels |
| --- | --- |
| three, four | one digit each, read as if it stood twice |
| six, eight | two digits each |

With three or six digits the color is opaque.  A text is a color when digits of a color are left
of it without the blanks around it and the marks `#` in front of them (`ofHex?_eq_some_iff`).  One
mark at most belongs to the notation of a color (`Color.Notates`), but any number of them is passed
over, so a text of digits behind two marks is read as a color and notates none
(`ofHex?_notates_iff`, `ofHex?_two_marks`).
-/
import DialogueSheet.Color
import DialogueSheet.Proofs.Json.Rows

namespace DialogueSheet

/-- A hexadecimal digit of a value, in lower or upper case. -/
def HexDigit (c : Char) (d : Nat) : Prop :=
  "0123456789abcdef".toList[d]? = some c ∨ "0123456789ABCDEF".toList[d]? = some c

instance (c : Char) (d : Nat) : Decidable (HexDigit c d) :=
  inferInstanceAs (Decidable (_ ∨ _))

theorem HexDigit.lt {c : Char} {d : Nat} (h : HexDigit c d) : d < 16 := by
  rcases h with h | h
  · exact (List.getElem?_eq_some_iff.1 h).1
  · exact (List.getElem?_eq_some_iff.1 h).1

/-- What holds of the sixteen digits, in either case, holds of every digit. -/
theorem HexDigit.of_all {P : Char → Nat → Prop}
    (hall : ∀ digits ∈ ["0123456789abcdef", "0123456789ABCDEF"], ∀ p ∈ digits.toList.zipIdx,
      P p.1 p.2) {c : Char} {d : Nat} (h : HexDigit c d) : P c d := by
  rcases h with h | h
  · exact hall _ (by simp) (c, d) (List.mk_mem_zipIdx_iff_getElem?.2 h)
  · exact hall _ (by simp) (c, d) (List.mk_mem_zipIdx_iff_getElem?.2 h)

theorem hexDigit_of_range {first c : Char} (offset count : Nat)
    (hdigits : ∀ k < count, HexDigit (Char.ofNat (first.toNat + k)) (k + offset))
    (hfirst : first.toNat ≤ c.toNat) (hlast : c.toNat < first.toNat + count) :
    HexDigit c (c.toNat - first.toNat + offset) := by
  have h := hdigits (c.toNat - first.toNat) (by omega)
  rwa [Nat.add_sub_cancel' hfirst, Char.ofNat_toNat] at h

/-- **The digits are those characters that have a value.** -/
theorem hexValue?_eq_some_iff {c : Char} {d : Nat} : hexValue? c = some d ↔ HexDigit c d := by
  constructor
  · intro h
    unfold hexValue? at h
    split at h
    · rename_i hrange
      rw [← Option.some.inj h]
      exact hexDigit_of_range 0 10 (by decide +kernel) hrange.1 (Nat.lt_succ_of_le hrange.2)
    · split at h
      · rename_i hrange
        rw [← Option.some.inj h]
        exact hexDigit_of_range 10 6 (by decide +kernel) hrange.1 (Nat.lt_succ_of_le hrange.2)
      · split at h
        · rename_i hrange
          rw [← Option.some.inj h]
          exact hexDigit_of_range 10 6 (by decide +kernel) hrange.1 (Nat.lt_succ_of_le hrange.2)
        · cases h
  · exact HexDigit.of_all (P := fun c d => hexValue? c = some d) (by decide +kernel)

theorem mapM_hexValue?_iff {digits : List Char} {values : List Nat} :
    digits.mapM hexValue? = some values ↔ List.Forall₂ HexDigit digits values := by
  simp only [mapM_eq_some_iff, hexValue?_eq_some_iff]

theorem hexDigits_of_mapM {digits : List Char} {values : List Nat}
    (h : digits.mapM hexValue? = some values) : ∀ d ∈ digits, ∃ n, HexDigit d n := by
  intro d hd
  cases hvalue : hexValue? d with
  | some n => exact ⟨n, hexValue?_eq_some_iff.1 hvalue⟩
  | none => cases h.symm.trans (mapM_eq_none hd hvalue)

theorem HexDigit.unique {c : Char} {d e : Nat} (hd : HexDigit c d) (he : HexDigit c e) : d = e :=
  Option.some.inj ((hexValue?_eq_some_iff.2 hd).symm.trans (hexValue?_eq_some_iff.2 he))

/-- A digit is one byte long. -/
theorem HexDigit.utf8Size_eq {c : Char} {d : Nat} (h : HexDigit c d) : c.utf8Size = 1 :=
  h.of_all (P := fun c _ => c.utf8Size = 1) (by decide +kernel)

/-- A mark is no digit. -/
theorem HexDigit.ne_mark {c : Char} {d : Nat} (h : HexDigit c d) : c ≠ '#' :=
  h.of_all (P := fun c _ => c ≠ '#') (by decide +kernel)

namespace Color

/-! ### Digits of channels -/

/-- Two digits of a channel, the high one first. -/
def SpellsChannel (high low : Char) (channel : UInt8) : Prop :=
  ∃ m n, HexDigit high m ∧ HexDigit low n ∧ channel.toNat = 16 * m + n

/-- The digits of a color. -/
inductive Spells : List Char → Color → Prop where
  | rgb {r g b : Char} {c : Color} (hred : SpellsChannel r r c.red)
      (hgreen : SpellsChannel g g c.green) (hblue : SpellsChannel b b c.blue)
      (halpha : c.alpha = 255) : Spells [r, g, b] c
  | rgba {r g b a : Char} {c : Color} (hred : SpellsChannel r r c.red)
      (hgreen : SpellsChannel g g c.green) (hblue : SpellsChannel b b c.blue)
      (halpha : SpellsChannel a a c.alpha) : Spells [r, g, b, a] c
  | rrggbb {r r' g g' b b' : Char} {c : Color} (hred : SpellsChannel r r' c.red)
      (hgreen : SpellsChannel g g' c.green) (hblue : SpellsChannel b b' c.blue)
      (halpha : c.alpha = 255) : Spells [r, r', g, g', b, b'] c
  | rrggbbaa {r r' g g' b b' a a' : Char} {c : Color} (hred : SpellsChannel r r' c.red)
      (hgreen : SpellsChannel g g' c.green) (hblue : SpellsChannel b b' c.blue)
      (halpha : SpellsChannel a a' c.alpha) : Spells [r, r', g, g', b, b', a, a'] c

theorem toNat_longChannel {high low : Char} {m n : Nat} (hm : HexDigit high m)
    (hn : HexDigit low n) : (longChannel m n).toNat = 16 * m + n := by
  have hm := hm.lt
  have hn := hn.lt
  rw [longChannel, UInt8.toNat_ofNat']
  omega

theorem shortChannel_eq (d : Nat) : shortChannel d = longChannel d d := by
  rw [shortChannel, longChannel, Nat.mul_succ]

theorem spellsChannel_iff {high low : Char} {channel : UInt8} :
    SpellsChannel high low channel ↔
      ∃ m n, HexDigit high m ∧ HexDigit low n ∧ channel = longChannel m n := by
  constructor
  · rintro ⟨m, n, hm, hn, hchannel⟩
    exact ⟨m, n, hm, hn, UInt8.toNat_inj.1 (hchannel.trans (toNat_longChannel hm hn).symm)⟩
  · rintro ⟨m, n, hm, hn, rfl⟩
    exact ⟨m, n, hm, hn, toNat_longChannel hm hn⟩

/-- A digit may stand for itself twice. -/
theorem spellsChannel_twice_iff {digit : Char} {channel : UInt8} :
    SpellsChannel digit digit channel ↔ ∃ d, HexDigit digit d ∧ channel = shortChannel d := by
  rw [spellsChannel_iff]
  constructor
  · rintro ⟨m, n, hm, hn, hchannel⟩
    obtain rfl := hm.unique hn
    exact ⟨m, hm, hchannel.trans (shortChannel_eq m).symm⟩
  · rintro ⟨d, hd, hchannel⟩
    exact ⟨d, d, hd, hd, hchannel.trans (shortChannel_eq d)⟩

/-! ### Digits of colors -/

/-- The digits of a color have values, and these are read as it. -/
theorem Spells.exists_values {digits : List Char} {c : Color} (h : Spells digits c) :
    ∃ values, List.Forall₂ HexDigit digits values ∧ ofDigits? values = some c := by
  have htwice := fun digit channel => (@spellsChannel_twice_iff digit channel).1
  have htwo := fun high low channel => (@spellsChannel_iff high low channel).1
  cases h with
  | rgb hred hgreen hblue halpha =>
    obtain ⟨r, hr, hred⟩ := htwice _ _ hred
    obtain ⟨g, hg, hgreen⟩ := htwice _ _ hgreen
    obtain ⟨b, hb, hblue⟩ := htwice _ _ hblue
    exact ⟨[r, g, b], by simp [hr, hg, hb],
      by rw [ofDigits?, opaqueOf, ← hred, ← hgreen, ← hblue, ← halpha]⟩
  | rgba hred hgreen hblue halpha =>
    obtain ⟨r, hr, hred⟩ := htwice _ _ hred
    obtain ⟨g, hg, hgreen⟩ := htwice _ _ hgreen
    obtain ⟨b, hb, hblue⟩ := htwice _ _ hblue
    obtain ⟨a, ha, halpha⟩ := htwice _ _ halpha
    exact ⟨[r, g, b, a], by simp [hr, hg, hb, ha],
      by rw [ofDigits?, ← hred, ← hgreen, ← hblue, ← halpha]⟩
  | rrggbb hred hgreen hblue halpha =>
    obtain ⟨r, r', hr, hr', hred⟩ := htwo _ _ _ hred
    obtain ⟨g, g', hg, hg', hgreen⟩ := htwo _ _ _ hgreen
    obtain ⟨b, b', hb, hb', hblue⟩ := htwo _ _ _ hblue
    exact ⟨[r, r', g, g', b, b'], by simp [hr, hr', hg, hg', hb, hb'],
      by rw [ofDigits?, opaqueOf, ← hred, ← hgreen, ← hblue, ← halpha]⟩
  | rrggbbaa hred hgreen hblue halpha =>
    obtain ⟨r, r', hr, hr', hred⟩ := htwo _ _ _ hred
    obtain ⟨g, g', hg, hg', hgreen⟩ := htwo _ _ _ hgreen
    obtain ⟨b, b', hb, hb', hblue⟩ := htwo _ _ _ hblue
    obtain ⟨a, a', ha, ha', halpha⟩ := htwo _ _ _ halpha
    exact ⟨[r, r', g, g', b, b', a, a'], by simp [hr, hr', hg, hg', hb, hb', ha, ha'],
      by rw [ofDigits?, ← hred, ← hgreen, ← hblue, ← halpha]⟩

/-- Values that are read as a color are the values of digits of it. -/
theorem spells_of_ofDigits? {digits : List Char} {values : List Nat} {c : Color}
    (hvalues : List.Forall₂ HexDigit digits values) (hc : ofDigits? values = some c) :
    Spells digits c := by
  have htwice : ∀ {digit d}, HexDigit digit d → SpellsChannel digit digit (shortChannel d) :=
    fun hd => spellsChannel_twice_iff.2 ⟨_, hd, rfl⟩
  have htwo : ∀ {high low m n}, HexDigit high m → HexDigit low n →
      SpellsChannel high low (longChannel m n) :=
    fun hm hn => spellsChannel_iff.2 ⟨_, _, hm, hn, rfl⟩
  unfold ofDigits? at hc
  split at hc
  · obtain _ | ⟨hr, _ | ⟨hg, _ | ⟨hb, _ | _⟩⟩⟩ := hvalues
    obtain rfl := Option.some.inj hc
    exact .rgb (htwice hr) (htwice hg) (htwice hb) rfl
  · obtain _ | ⟨hr, _ | ⟨hg, _ | ⟨hb, _ | ⟨ha, _ | _⟩⟩⟩⟩ := hvalues
    obtain rfl := Option.some.inj hc
    exact .rgba (htwice hr) (htwice hg) (htwice hb) (htwice ha)
  · obtain _ | ⟨hr, _ | ⟨hr', _ | ⟨hg, _ | ⟨hg', _ | ⟨hb, _ | ⟨hb', _ | _⟩⟩⟩⟩⟩⟩ := hvalues
    obtain rfl := Option.some.inj hc
    exact .rrggbb (htwo hr hr') (htwo hg hg') (htwo hb hb') rfl
  · obtain _ | ⟨hr, _ | ⟨hr', _ | ⟨hg, _ | ⟨hg', _ | ⟨hb, _ | ⟨hb', halpha⟩⟩⟩⟩⟩⟩ := hvalues
    obtain _ | ⟨ha, _ | ⟨ha', _ | _⟩⟩ := halpha
    obtain rfl := Option.some.inj hc
    exact .rrggbbaa (htwo hr hr') (htwo hg hg') (htwo hb hb') (htwo ha ha')
  · cases hc

/-- **The digits of a color are those whose values are read as it.** -/
theorem spells_iff {digits : List Char} {c : Color} : Spells digits c ↔
    ∃ values, List.Forall₂ HexDigit digits values ∧ ofDigits? values = some c :=
  ⟨Spells.exists_values, fun ⟨_, hvalues, hc⟩ => spells_of_ofDigits? hvalues hc⟩

theorem Spells.hexDigits {digits : List Char} {c : Color} (h : Spells digits c) :
    ∀ d ∈ digits, ∃ n, HexDigit d n := by
  obtain ⟨values, hvalues, -⟩ := h.exists_values
  exact hexDigits_of_mapM (mapM_hexValue?_iff.2 hvalues)

/-! ### Marks in front of the digits -/

theorem dropWhile_mark_of_hexDigits {digits : List Char} (h : ∀ d ∈ digits, ∃ n, HexDigit d n)
    (marks : Nat) : (List.replicate marks '#' ++ digits).dropWhile (· == '#') = digits := by
  rw [List.dropWhile_append_of_pos (by simp +contextual [List.mem_replicate])]
  cases digits with
  | nil => rfl
  | cons d rest =>
    obtain ⟨n, hn⟩ := h d List.mem_cons_self
    exact List.dropWhile_cons_of_neg (by simpa using hn.ne_mark)

/-- **A text is read as a color exactly when it has the digits of the color behind any number of
marks**, without the blanks around it. -/
theorem ofHex?_eq_some_iff {text : String} {c : Color} : ofHex? text = some c ↔
    ∃ marks digits, (Text.trim text).toList = List.replicate marks '#' ++ digits ∧
      Spells digits c := by
  have htrim : (Text.trim text).toList = Text.trimChars text.toList := String.toList_ofList
  have hread : ofHex? text = some c ↔
      Spells ((Text.trimChars text.toList).dropWhile (· == '#')) c := by
    simp only [ofHex?, Option.bind_eq_bind, Option.bind_eq_some_iff, mapM_hexValue?_iff,
      spells_iff]
  rw [hread, htrim]
  constructor
  · intro h
    have hmarks : (Text.trimChars text.toList).takeWhile (· == '#') = List.replicate
        ((Text.trimChars text.toList).takeWhile (· == '#')).length '#' :=
      List.eq_replicate_of_mem fun d hd =>
        LawfulBEq.eq_of_beq (List.all_eq_true.1 List.all_takeWhile d hd)
    refine ⟨((Text.trimChars text.toList).takeWhile (· == '#')).length, _, ?_, h⟩
    rw [← hmarks, List.takeWhile_append_dropWhile]
  · rintro ⟨marks, digits, hsplit, h⟩
    rwa [hsplit, dropWhile_mark_of_hexDigits h.hexDigits]

theorem marks_unique {marks marks' : Nat} {digits digits' : List Char}
    (h : List.replicate marks '#' ++ digits = List.replicate marks' '#' ++ digits')
    (hdigits : ∀ d ∈ digits, ∃ n, HexDigit d n) (hdigits' : ∀ d ∈ digits', ∃ n, HexDigit d n) :
    marks = marks' := by
  have hsame : digits = digits' := by
    rw [← dropWhile_mark_of_hexDigits hdigits marks, h, dropWhile_mark_of_hexDigits hdigits']
  have hlength := congrArg List.length h
  simp only [hsame, List.length_append, List.length_replicate] at hlength
  omega

/-- A run of digits has as many bytes as digits, so that it may be cut at any byte. -/
theorem utf8ByteSize_of_hexDigits {digits : List Char} (h : ∀ d ∈ digits, ∃ n, HexDigit d n) :
    (String.ofList digits).utf8ByteSize = digits.length := by
  induction digits with
  | nil => rfl
  | cons d rest ih =>
    obtain ⟨n, hn⟩ := h d List.mem_cons_self
    rw [String.ofList_cons, String.utf8ByteSize_append, String.utf8ByteSize_singleton,
      ih fun e he => h e (List.mem_cons_of_mem _ he), hn.utf8Size_eq, List.length_cons,
      Nat.add_comm]

/-! ### The notation of colors -/

/-- A text notates a color: without the blanks around it, it is the digits of the color with one
mark at most in front of them. -/
def Notates (text : String) (c : Color) : Prop :=
  ∃ marks digits, marks ≤ 1 ∧ (Text.trim text).toList = List.replicate marks '#' ++ digits ∧
    Spells digits c

/-- **What is read as a color is what notates it, unless digits of a color stand behind two marks
or more**: such a text is read too.  Where digits are cut into channels, they are one byte each. -/
theorem ofHex?_notates_iff (text : String) :
    (∀ c, ofHex? text = some c ↔
      ∃ marks digits, (Text.trim text).toList = List.replicate marks '#' ++ digits ∧
        Spells digits c) ∧
    ((∀ c, ofHex? text = some c ↔ Notates text c) ↔
      ¬∃ marks digits c, 2 ≤ marks ∧
        (Text.trim text).toList = List.replicate marks '#' ++ digits ∧ Spells digits c) ∧
    ∀ marks digits, (Text.trim text).toList = List.replicate marks '#' ++ digits →
      (∀ d ∈ digits, ∃ n, HexDigit d n) →
        (String.ofList digits).utf8ByteSize = digits.length := by
  refine ⟨fun c => ofHex?_eq_some_iff, ?_, fun _ _ _ h => utf8ByteSize_of_hexDigits h⟩
  constructor
  · rintro hagree ⟨marks, digits, c, htwo, hsplit, hc⟩
    obtain ⟨marks', digits', hone, hsplit', hc'⟩ :=
      (hagree c).1 (ofHex?_eq_some_iff.2 ⟨marks, digits, hsplit, hc⟩)
    have hmarks := marks_unique (hsplit.symm.trans hsplit') hc.hexDigits hc'.hexDigits
    omega
  · intro hnone c
    rw [ofHex?_eq_some_iff]
    constructor
    · rintro ⟨marks, digits, hsplit, hc⟩
      have hone : marks ≤ 1 := by
        by_contra htwo
        exact hnone ⟨marks, digits, c, by omega, hsplit, hc⟩
      exact ⟨marks, digits, hone, hsplit, hc⟩
    · rintro ⟨marks, digits, -, hsplit, hc⟩
      exact ⟨marks, digits, hsplit, hc⟩

/-- White behind two marks is read, and it is the notation of no color. -/
theorem ofHex?_two_marks :
    ofHex? "##fff" = some white ∧ ∀ c, ¬Notates "##fff" c := by
  refine ⟨by decide +kernel, ?_⟩
  rintro c ⟨marks, digits, hone, hsplit, hc⟩
  have htrim : (Text.trim "##fff").toList = List.replicate 2 '#' ++ ['f', 'f', 'f'] := by
    decide +kernel
  have hvalues : ['f', 'f', 'f'].mapM hexValue? = some [15, 15, 15] := by decide +kernel
  have hmarks := marks_unique (htrim.symm.trans hsplit) (hexDigits_of_mapM hvalues)
    hc.hexDigits
  omega

end Color
end DialogueSheet
