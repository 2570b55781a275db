/-
# What the placeholders of a description show

`Shows` says for a single piece which spans stand in its place: a stretch of plain text stands for
itself, a number for the values of its parameter, and an effect for its name in the table of
terms.  A description shows what its pieces show, one behind the other, and the pieces are those
of the description alone, so what is put in for one is not searched for others
(`richSpans_expanded`).
-/
import DialogueSheet.Proofs.Markup.Placeholders
import DialogueSheet.Proofs.Script.Numbered

namespace DialogueSheet

/-- The table of a language has a text for a value under a key. -/
def Localization.HasText (l : Localization) (key value : String) (language : Language)
    (text : String) : Prop :=
  ∃ table entries, l.tables.lookup language = some table ∧ table.lookup key = some entries ∧
    entries.lookup value = some text

/-- The digits `0` to `9` count a parameter, from 1 on, that has the values. -/
def CountsParameter (parameters : List (List String)) (digits : List Char)
    (values : List String) : Prop :=
  (∀ c ∈ digits, c.isDigit = true) ∧ 1 ≤ natOfDigits digits ∧
    parameters[natOfDigits digits - 1]? = some values

/-- Under which key the name of an effect is looked up. -/
inductive NameKey (name : List Char) : Char → String → Prop where
  | buff : NameKey name 'b' ("Buff_" ++ String.ofList name)
  | debuff : NameKey name 'd' ("Debuff_" ++ String.ofList name)
  | control : NameKey name 'c' ("CC_" ++ String.ofList name)
  | special : NameKey name 's' ("Special_" ++ String.ofList name)

variable (parameters : List (List String)) (level : Nat) (base : Color) (language : Language)
  (localization : Localization)

/-- What stands in the place of a piece. -/
inductive Shows : Piece Placeholder → List Span → Prop where
  | plain (chars : List Char) : Shows (.plain chars) [⟨String.ofList chars, base⟩]
  | values {digits : List Char} {values : List String}
      (hcounts : CountsParameter parameters digits values)
      (hjoined : String.intercalate "/" (values.take level) ≠ "") :
      Shows (.mark (.parameter digits))
        [⟨String.intercalate "/" (values.take level), parameterColor⟩]
  | nothing {digits : List Char}
      (hempty : ∀ values, CountsParameter parameters digits values →
        String.intercalate "/" (values.take level) = "") :
      Shows (.mark (.parameter digits)) []
  | name {kind : Char} {name : List Char} {key text : String} (hkey : NameKey name kind key)
      (htext : localization.HasText "BuffName" key language text) (hne : text ≠ "") :
      Shows (.mark (.effect kind name)) [⟨text, effectColor⟩]
  | key {kind : Char} {name : List Char} {key : String} (hkey : NameKey name kind key)
      (hnone : ∀ text, localization.HasText "BuffName" key language text → text = "") :
      Shows (.mark (.effect kind name)) [⟨key, effectColor⟩]

variable {parameters level base language localization}

/-! ### Parameters -/

theorem parameterText_of_counts {digits : List Char} {values : List String}
    (h : CountsParameter parameters digits values) :
    parameterText parameters level digits = String.intercalate "/" (values.take level) := by
  obtain ⟨hdigits, hpos, hvalues⟩ := h
  have hall : (digits.all fun c => (digitValue? c).isSome) = true := by
    simpa [isSome_digitValue?] using hdigits
  obtain ⟨n, hn⟩ := Nat.exists_eq_add_of_le' hpos
  rw [hn, Nat.add_sub_cancel] at hvalues
  simp [parameterText, asciiNumber?, hall, hn, hvalues]

theorem exists_counts_of_parameterText_ne {digits : List Char}
    (h : parameterText parameters level digits ≠ "") :
    ∃ values, CountsParameter parameters digits values := by
  unfold parameterText asciiNumber? at h
  split at h
  · rename_i n hnumber
    split at hnumber
    · rename_i hall
      have hn : natOfDigits digits = n + 1 := Option.some.inj hnumber
      cases hvalues : parameters[n]? with
      | none => simp [hvalues] at h
      | some values =>
        refine ⟨values, by simpa [isSome_digitValue?] using hall, by omega, ?_⟩
        rw [hn, Nat.add_sub_cancel, hvalues]
    · cases hnumber
  · exact absurd rfl h

theorem shows_parameter_iff {digits : List Char} {spans : List Span} :
    Shows parameters level base language localization (.mark (.parameter digits)) spans ↔
      spans = Piece.spans parameters level base language localization
        (.mark (.parameter digits)) := by
  simp only [Piece.spans]
  constructor
  · intro h
    cases h with
    | values hcounts hjoined => rw [parameterText_of_counts hcounts, if_neg hjoined]
    | nothing hempty =>
      rw [if_pos]
      by_contra hne
      obtain ⟨values, hcounts⟩ := exists_counts_of_parameterText_ne hne
      exact hne ((parameterText_of_counts hcounts).trans (hempty values hcounts))
  · rintro rfl
    split
    · rename_i hempty
      exact .nothing fun values hcounts => (parameterText_of_counts hcounts).symm.trans hempty
    · rename_i hne
      obtain ⟨values, hcounts⟩ := exists_counts_of_parameterText_ne hne
      rw [parameterText_of_counts hcounts] at hne ⊢
      exact .values hcounts hne

/-! ### Effects -/

theorem nameKey_iff {kind : Char} {name : List Char} (hkind : kind ∈ ['b', 'd', 'c', 's'])
    {key : String} : NameKey name kind key ↔ key = effectKey kind name := by
  simp only [List.mem_cons, List.not_mem_nil, or_false] at hkind
  constructor
  · rintro (_ | _ | _ | _) <;> rfl
  · rintro rfl
    rcases hkind with rfl | rfl | rfl | rfl
    exacts [.buff, .debuff, .control, .special]

theorem effectKey_ne_empty {kind : Char} {name : List Char} (h : name ≠ []) :
    effectKey kind name ≠ "" := by
  rw [effectKey, Ne, ← String.toList_eq_nil_iff, String.toList_append, String.toList_ofList,
    List.append_eq_nil_iff]
  exact fun hnil => h hnil.2

theorem hasText_iff {key value text : String} :
    localization.HasText key value language text ↔
      (localization.tables.lookup language >>= List.lookup key >>= List.lookup value) =
        some text := by
  simp only [Localization.HasText, Option.bind_eq_bind, Option.bind_eq_some_iff]
  exact ⟨fun ⟨table, entries, htable, hentries, htext⟩ =>
      ⟨entries, ⟨table, htable, hentries⟩, htext⟩,
    fun ⟨entries, ⟨table, htable, hentries⟩, htext⟩ => ⟨table, entries, htable, hentries, htext⟩⟩

theorem localize_of_hasText {key value text : String} (hkey : key ≠ Localization.labelKey)
    (h : localization.HasText key value language text) :
    localization.localize key value language = if text = "" then value else text := by
  rw [Localization.localize, if_neg hkey, hasText_iff.1 h]

theorem localize_of_not_hasText {key value : String} (hkey : key ≠ Localization.labelKey)
    (h : ∀ text, ¬localization.HasText key value language text) :
    localization.localize key value language = value := by
  have hnone : (localization.tables.lookup language >>= List.lookup key >>= List.lookup value) =
      none := Option.eq_none_iff_forall_ne_some.2 fun text htext => h text (hasText_iff.2 htext)
  rw [Localization.localize, if_neg hkey, hnone]

/-- A text that is there and not empty is shown, or else the value. -/
theorem localize_eq_iff {key value shown : String} (hkey : key ≠ Localization.labelKey) :
    localization.localize key value language = shown ↔
      (localization.HasText key value language shown ∧ shown ≠ "") ∨
        (∀ text, localization.HasText key value language text → text = "") ∧ shown = value := by
  by_cases hhas : ∃ text, localization.HasText key value language text
  · obtain ⟨text, htext⟩ := hhas
    have hunique : ∀ {other}, localization.HasText key value language other ↔ other = text := by
      intro other
      rw [hasText_iff, hasText_iff.1 htext, Option.some.injEq, eq_comm]
    simp only [localize_of_hasText hkey htext, hunique, forall_eq]
    split <;> grind
  · have hnone := not_exists.1 hhas
    simp only [localize_of_not_hasText hkey hnone]
    grind

theorem shows_effect_iff {kind : Char} {name : List Char} (hkind : kind ∈ ['b', 'd', 'c', 's'])
    {spans : List Span} :
    Shows parameters level base language localization (.mark (.effect kind name)) spans ↔
      spans = Piece.spans parameters level base language localization
        (.mark (.effect kind name)) := by
  have hlabel : "BuffName" ≠ Localization.labelKey := by decide
  simp only [Piece.spans]
  constructor
  · intro h
    cases h with
    | name hkey htext hne =>
      rw [← (nameKey_iff hkind).1 hkey, (localize_eq_iff hlabel).2 (.inl ⟨htext, hne⟩)]
    | key hkey hnone =>
      rw [← (nameKey_iff hkind).1 hkey, (localize_eq_iff hlabel).2 (.inr ⟨hnone, rfl⟩)]
  · rintro rfl
    have hkey : NameKey name kind (effectKey kind name) := (nameKey_iff hkind).2 rfl
    obtain ⟨shown, hlocalized⟩ :
        ∃ shown, localization.localize "BuffName" (effectKey kind name) language = shown := ⟨_, rfl⟩
    rw [hlocalized]
    rcases (localize_eq_iff hlabel).1 hlocalized with ⟨htext, hne⟩ | ⟨hnone, rfl⟩
    · exact .name hkey htext hne
    · exact .key hkey hnone

/-! ### Whole descriptions -/

theorem shows_iff {piece : Piece Placeholder} (hp : ∀ p, piece = .mark p → p.WellFormed)
    {spans : List Span} :
    Shows parameters level base language localization piece spans ↔
      spans = Piece.spans parameters level base language localization piece := by
  match piece, hp with
  | .plain chars, _ =>
    constructor
    · rintro (_ | _)
      rfl
    · rintro rfl
      exact .plain chars
  | .mark (.parameter digits), _ => exact shows_parameter_iff
  | .mark (.effect kind name), hp => exact shows_effect_iff (hp _ rfl).1

/-- Pieces show what each of them shows. -/
theorem forall₂_shows_iff {pieces : List (Piece Placeholder)}
    (hp : ∀ p, .mark p ∈ pieces → p.WellFormed) {groups : List (List Span)} :
    List.Forall₂ (Shows parameters level base language localization) pieces groups ↔
      groups = pieces.map (Piece.spans parameters level base language localization) := by
  induction pieces generalizing groups with
  | nil => simp
  | cons piece pieces ih =>
    have hpiece : ∀ p, piece = .mark p → p.WellFormed := by
      rintro p rfl
      exact hp p List.mem_cons_self
    have hrest := @ih fun p h => hp p (List.mem_cons_of_mem _ h)
    simp only [List.forall₂_cons_left_iff, shows_iff hpiece, hrest, List.map_cons]
    exact ⟨fun ⟨_, _, h, hs, hg⟩ => by rw [hg, h, hs], fun h => ⟨_, _, rfl, rfl, h⟩⟩

/-- Nothing is shown without a text. -/
theorem text_ne_empty_of_shows {piece : Piece Placeholder} {spans : List Span}
    (hplain : piece ≠ .plain []) (hp : ∀ p, piece = .mark p → p.WellFormed)
    (h : Shows parameters level base language localization piece spans) :
    ∀ span ∈ spans, span.text ≠ "" := by
  intro span hspan
  cases h with
  | plain chars =>
    obtain rfl := List.mem_singleton.1 hspan
    rw [Ne, ← String.toList_eq_nil_iff, String.toList_ofList]
    exact fun hnil => hplain (by rw [hnil])
  | values _ hjoined =>
    obtain rfl := List.mem_singleton.1 hspan
    exact hjoined
  | nothing => cases hspan
  | name _ _ hne =>
    obtain rfl := List.mem_singleton.1 hspan
    exact hne
  | key hkey _ =>
    obtain rfl := List.mem_singleton.1 hspan
    obtain ⟨hkind, hname, -⟩ := hp _ rfl
    rw [(nameKey_iff hkind).1 hkey]
    exact effectKey_ne_empty hname

/-- **A description shows its pieces.**  There is one cut of the text at its leftmost
placeholders, whatever they stand for; it spells the text, and the spans are what its pieces show,
in order, and no others. -/
theorem richSpans_expanded (text : String) :
    ∃ pieces,
      (∀ other, Cut Placeholder.read? text.toList other ↔ other = pieces) ∧
      (∀ s p length, Placeholder.read? s = some (p, length) ↔
        p.WellFormed ∧ length = p.written.length ∧ p.written <+: s) ∧
      pieces.flatMap Placeholder.spelling = text.toList ∧
      ∀ parameters level base language localization,
        (∀ spans, spans = richSpans text parameters level base language localization ↔
          ∃ groups, List.Forall₂ (Shows parameters level base language localization) pieces groups ∧
            spans = groups.flatten) ∧
        ∀ span ∈ richSpans text parameters level base language localization, span.text ≠ "" := by
  have hcut := (cut_iff Placeholder.proper_read? (s := text.toList)).2 rfl
  obtain ⟨hwhole, hmarks, hstretches⟩ := Placeholder.of_cut hcut
  refine ⟨piecesOf Placeholder.read? 0 text.toList, fun _ => cut_iff Placeholder.proper_read?,
    fun _ _ _ => Placeholder.read?_eq_some_iff, hwhole, ?_⟩
  intro parameters level base language localization
  refine ⟨fun spans => ?_, fun span hspan => ?_⟩
  · simp only [forall₂_shows_iff hmarks, exists_eq_left, richSpans, List.flatMap_def]
  · obtain ⟨piece, hpiece, hspan⟩ := List.mem_flatMap.1 hspan
    have hp : ∀ p, piece = .mark p → p.WellFormed := by
      rintro p rfl
      exact hmarks p hpiece
    refine text_ne_empty_of_shows ?_ hp ((shows_iff hp).2 rfl) span hspan
    rintro rfl
    exact hstretches hpiece

/-- A value that is spelled like an effect is shown as it is. -/
example : richSpans "a<?1>" [["<b:X>"]] 1 Color.black .en ⟨[]⟩ =
    [⟨"a", Color.black⟩, ⟨"<b:X>", parameterColor⟩] := by decide +kernel

end DialogueSheet
