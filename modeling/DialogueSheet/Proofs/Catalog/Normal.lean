/-
# Names that are compared as one

The normal form of a name is trimmed, folded character by character, and its own normal form
(`normalizeName_normalizeName`).  A search knows a query by its normal form alone.  That is plain
for the first pass; the second one is built from the query as it was given, but `水` is folded to
itself and no other character is folded to it, so the query and its normal form name the same
variant (`map_themedVariant?_normalizeName`).  Hence queries that are spelled differently, in case,
in the width of parentheses or in the blanks around them, find the same (`findByName_normal`).
-/
import DialogueSheet.Proofs.Catalog.Search
import DialogueSheet.Proofs.Text.Lowered
import DialogueSheet.Proofs.Text.Trimmed
import Mathlib.Logic.Relation

namespace DialogueSheet

/-- A character as it is compared. -/
def folded (c : Char) : List Char := Text.lower (asciiParenthesis c)

/-- One step between two spellings of a name. -/
inductive Respelled : String → String → Prop where
  | blanks {before behind : List Char} (hbefore : ∀ c ∈ before, Text.isBlank c = true)
      (hbehind : ∀ c ∈ behind, Text.isBlank c = true) (name : List Char) :
      Respelled (String.ofList (before ++ name ++ behind)) (String.ofList name)
  | letterCase {name other : List Char} (h : name.flatMap Text.lower = other.flatMap Text.lower) :
      Respelled (String.ofList name) (String.ofList other)
  | opening (before behind : List Char) :
      Respelled (String.ofList (before ++ '（' :: behind)) (String.ofList (before ++ '(' :: behind))
  | closing (before behind : List Char) :
      Respelled (String.ofList (before ++ '）' :: behind)) (String.ofList (before ++ ')' :: behind))

/-! ### Folding -/

theorem caseless_signs : ∀ c ∈ ['（', '）', '(', ')', '水'], Text.Caseless c := by
  simp only [List.forall_mem_cons, List.not_mem_nil, false_implies, implies_true]
  decide +kernel

theorem asciiParenthesis_ne (c : Char) :
    asciiParenthesis c ≠ '（' ∧ asciiParenthesis c ≠ '）' := by
  unfold asciiParenthesis
  split
  · decide
  · split
    · decide
    · exact ⟨‹c ≠ '（'›, ‹c ≠ '）'›⟩

/-- No full-width parenthesis is left, and none comes from lower case. -/
theorem asciiParenthesis_of_mem_folded {c d : Char} (h : d ∈ folded c) :
    asciiParenthesis d = d := by
  have hopen : d ≠ '（' := by
    rintro rfl
    exact (asciiParenthesis_ne c).1 (Text.eq_of_mem_lower (caseless_signs _ (by simp)) h).symm
  have hclose : d ≠ '）' := by
    rintro rfl
    exact (asciiParenthesis_ne c).2 (Text.eq_of_mem_lower (caseless_signs _ (by simp)) h).symm
  rw [asciiParenthesis, if_neg hopen, if_neg hclose]

theorem folded_ne_nil (c : Char) : folded c ≠ [] := Text.lower_ne_nil _

theorem folded_folded (c : Char) : (folded c).flatMap folded = folded c := by
  calc (folded c).flatMap folded
      = (folded c).flatMap Text.lower :=
        List.flatMap_congr fun d hd => by rw [folded, asciiParenthesis_of_mem_folded hd]
    _ = folded c := Text.lower_lower _

theorem isBlank_asciiParenthesis (c : Char) :
    Text.isBlank (asciiParenthesis c) = Text.isBlank c := by
  unfold asciiParenthesis
  split
  · rename_i h
    rw [h]
    decide
  · split
    · rename_i h
      rw [h]
      decide
    · rfl

theorem isBlank_of_mem_folded {c d : Char} (h : d ∈ folded c) :
    Text.isBlank d = Text.isBlank c :=
  (Text.isBlank_of_mem_lower h).trans (isBlank_asciiParenthesis c)

theorem normalChars_eq_flatMap (name : List Char) :
    normalChars name = (Text.trimChars name).flatMap folded := by
  rw [normalChars, List.flatMap_map]
  rfl

/-- A name is folded before or after it is trimmed. -/
theorem normalChars_eq_trimChars (name : List Char) :
    normalChars name = Text.trimChars (name.flatMap folded) := by
  rw [Text.trimChars_flatMap folded_ne_nil fun _ _ => isBlank_of_mem_folded,
    normalChars_eq_flatMap]

/-- What is folded already may be folded again. -/
theorem normalChars_flatMap_append (name behind : List Char) :
    normalChars (name.flatMap folded ++ behind) = normalChars (name ++ behind) := by
  have hagain : (name.flatMap folded).flatMap folded = name.flatMap folded := by
    rw [List.flatMap_assoc]
    exact List.flatMap_congr fun c _ => folded_folded c
  rw [normalChars_eq_trimChars, normalChars_eq_trimChars, List.flatMap_append, List.flatMap_append,
    hagain]

theorem trimChars_normalChars (name : List Char) :
    Text.trimChars (normalChars name) = normalChars name := by
  rw [normalChars_eq_trimChars, Text.trimChars_trimChars]

theorem normalChars_trimChars (name : List Char) :
    normalChars (Text.trimChars name) = normalChars name := by
  rw [normalChars_eq_flatMap, Text.trimChars_trimChars, ← normalChars_eq_flatMap]

theorem normalChars_normalChars (name : List Char) :
    normalChars (normalChars name) = normalChars name := by
  have hfolded := normalChars_flatMap_append (Text.trimChars name) []
  rw [List.append_nil, List.append_nil, ← normalChars_eq_flatMap] at hfolded
  rw [hfolded, normalChars_trimChars]

theorem toList_normalizeName (name : String) :
    (normalizeName name).toList = normalChars name.toList := String.toList_ofList

/-- **The normal form of a name is its own normal form.** -/
theorem normalizeName_normalizeName (name : String) :
    normalizeName (normalizeName name) = normalizeName name := by
  rw [normalizeName, toList_normalizeName, normalChars_normalChars]
  rfl

/-! ### The second pass -/

/-- Only `水` is folded to what begins with `水`. -/
theorem folded_eq_cons_iff {c : Char} {rest : List Char} :
    folded c = '水' :: rest ↔ c = '水' ∧ rest = [] := by
  have hsign : folded '水' = ['水'] := Text.lower_of_caseless (by decide +kernel)
  constructor
  · intro h
    have hmem : '水' ∈ folded c := by
      rw [h]
      exact List.mem_cons_self
    have hsame : '水' = asciiParenthesis c := Text.eq_of_mem_lower (caseless_signs _ (by simp)) hmem
    obtain rfl : c = '水' := by
      unfold asciiParenthesis at hsame
      split at hsame
      · exact absurd hsame (by decide)
      · split at hsame
        · exact absurd hsame (by decide)
        · exact hsame.symm
    rw [hsign] at h
    exact ⟨rfl, (List.cons.inj h).2.symm⟩
  · rintro ⟨rfl, rfl⟩
    exact hsign

/-- A text begins with `水` and goes on exactly when it does so folded. -/
theorem flatMap_folded_eq_cons_iff {name behind : List Char} :
    name.flatMap folded = '水' :: behind ↔
      ∃ rest, name = '水' :: rest ∧ behind = rest.flatMap folded := by
  constructor
  · intro h
    cases name with
    | nil => cases h
    | cons c rest =>
      obtain ⟨d, ds, hd⟩ := List.exists_cons_of_ne_nil (folded_ne_nil c)
      rw [List.flatMap_cons, hd, List.cons_append] at h
      obtain ⟨rfl, rfl⟩ := List.cons.inj h
      obtain ⟨rfl, rfl⟩ := folded_eq_cons_iff.1 hd
      exact ⟨rest, rfl, rfl⟩
  · rintro ⟨rest, rfl, rfl⟩
    rw [List.flatMap_cons, folded_eq_cons_iff.2 ⟨rfl, rfl⟩]
    rfl

theorem themedVariant?_eq_some_iff {query themed : String} :
    themedVariant? query = some themed ↔ ∃ rest, Text.trimChars query.toList = '水' :: rest ∧
      rest ≠ [] ∧ themed = String.ofList (rest ++ "(泳装)".toList) := by
  unfold themedVariant?
  split
  · rename_i c rest htrim
    constructor
    · intro h
      exact ⟨c :: rest, htrim, List.cons_ne_nil c rest, (Option.some.inj h).symm⟩
    · rintro ⟨tail, htail, -, rfl⟩
      obtain rfl := (List.cons.inj (htrim.symm.trans htail)).2
      rfl
  · rename_i hother
    simp only [reduceCtorEq, false_iff]
    rintro ⟨rest, htrim, hne, -⟩
    obtain ⟨c, tail, rfl⟩ := List.exists_cons_of_ne_nil hne
    exact hother c tail htrim

/-- **A query and its normal form name the same variant**, up to its normal form. -/
theorem map_themedVariant?_normalizeName (query : String) :
    (themedVariant? (normalizeName query)).map normalizeName =
      (themedVariant? query).map normalizeName := by
  have htrim : Text.trimChars (normalizeName query).toList =
      (Text.trimChars query.toList).flatMap folded := by
    rw [toList_normalizeName, trimChars_normalChars, normalChars_eq_flatMap]
  have hsame : ∀ rest : List Char,
      normalizeName (String.ofList (rest.flatMap folded ++ "(泳装)".toList)) =
        normalizeName (String.ofList (rest ++ "(泳装)".toList)) := by
    intro rest
    simp only [normalizeName, String.toList_ofList, normalChars_flatMap_append]
  have hnil : ∀ rest : List Char, rest.flatMap folded ≠ [] ↔ rest ≠ [] := by
    intro rest
    cases rest with
    | nil => simp
    | cons c rest => simp [folded_ne_nil]
  refine Option.ext fun normal => ?_
  simp only [Option.map_eq_some_iff, themedVariant?_eq_some_iff, htrim, flatMap_folded_eq_cons_iff]
  constructor
  · rintro ⟨_, ⟨_, ⟨rest, hquery, rfl⟩, hne, rfl⟩, rfl⟩
    exact ⟨_, ⟨rest, hquery, (hnil rest).1 hne, rfl⟩, (hsame rest).symm⟩
  · rintro ⟨_, ⟨rest, hquery, hne, rfl⟩, rfl⟩
    exact ⟨_, ⟨_, ⟨rest, hquery, rfl⟩, (hnil rest).2 hne, rfl⟩, hsame rest⟩

namespace Catalog

theorem search_congr {query other : String} (c : Catalog) (given : List Student)
    (h : normalizeName query = normalizeName other) :
    c.search query given = c.search other given := by
  rw [search, search, (Student.normalChars_eq_iff query other).2 h]

/-- **Queries of one normal form find the same.** -/
theorem findByName_congr {query other : String} (c : Catalog) (given : List Student)
    (h : normalizeName query = normalizeName other) :
    c.findByName query given = c.findByName other given := by
  have hthemed : (themedVariant? query).map normalizeName =
      (themedVariant? other).map normalizeName := by
    rw [← map_themedVariant?_normalizeName query, h, map_themedVariant?_normalizeName]
  have hfirst := search_congr c given h
  unfold findByName
  rw [hfirst]
  cases hquery : themedVariant? query with
  | none =>
    have hother : themedVariant? other = none := by
      rw [hquery] at hthemed
      simpa using hthemed.symm
    rw [hother]
  | some themed =>
    rw [hquery] at hthemed
    obtain ⟨themed', hother, hnormal⟩ := Option.map_eq_some_iff.1 hthemed.symm
    rw [hother]
    cases hempty : (c.search other given).isEmpty with
    | true => simp only [hempty, search_congr c given hnormal]
    | false => simp only [hempty]

end Catalog

/-! ### Other spellings -/

/-- A name may be put in lower case before it is compared. -/
theorem normalChars_flatMap_lower (name : List Char) :
    normalChars (name.flatMap Text.lower) = normalChars name := by
  have hlowered : ∀ c, (Text.lower c).flatMap folded = folded c := by
    intro c
    by_cases hwide : c = '（' ∨ c = '）'
    · rw [Text.lower_of_caseless (caseless_signs c (by simpa using hwide.imp id Or.inl)),
        List.flatMap_singleton]
    · have hnarrow : folded c = Text.lower c := by
        rw [folded, asciiParenthesis, if_neg fun h => hwide (.inl h),
          if_neg fun h => hwide (.inr h)]
      rw [← hnarrow, folded_folded]
  rw [normalChars_eq_trimChars, normalChars_eq_trimChars, List.flatMap_assoc]
  exact congrArg Text.trimChars (List.flatMap_congr fun c _ => hlowered c)

/-- The width of a parenthesis does not count. -/
theorem normalChars_narrowed {wide narrow : Char} (h : folded wide = folded narrow)
    (before behind : List Char) :
    normalChars (before ++ wide :: behind) = normalChars (before ++ narrow :: behind) := by
  simp only [normalChars_eq_trimChars, List.flatMap_append, List.flatMap_cons, h]

theorem normalizeName_of_respelled {name other : String} (h : Respelled name other) :
    normalizeName name = normalizeName other := by
  rw [← Student.normalChars_eq_iff]
  cases h with
  | blanks hbefore hbehind name =>
    rw [String.toList_ofList, String.toList_ofList, ← normalChars_trimChars,
      Text.trimChars_append hbefore hbehind, normalChars_trimChars]
  | @letterCase name other h =>
    rw [String.toList_ofList, String.toList_ofList, ← normalChars_flatMap_lower name, h,
      normalChars_flatMap_lower]
  | opening before behind =>
    have hopen : folded '（' = folded '(' := by decide +kernel
    rw [String.toList_ofList, String.toList_ofList, normalChars_narrowed hopen]
  | closing before behind =>
    have hclose : folded '）' = folded ')' := by decide +kernel
    rw [String.toList_ofList, String.toList_ofList, normalChars_narrowed hclose]

namespace Catalog

/-- **A search sees a query only through its normal form**: queries that are one name in different
spellings find the same, also when what is found is the variant that they name. -/
theorem findByName_normal (c : Catalog) (given : List Student) :
    (∀ query, c.findByName query given = c.findByName (normalizeName query) given) ∧
      ∀ query other, Relation.EqvGen Respelled query other →
        c.findByName query given = c.findByName other given := by
  constructor
  · exact fun query => findByName_congr c given (normalizeName_normalizeName query).symm
  · intro query other h
    have hsame : normalizeName query = normalizeName other := by
      induction h with
      | rel query other h => exact normalizeName_of_respelled h
      | refl query => rfl
      | symm query other _ ih => exact ih.symm
      | trans query middle other _ _ ih ih' => exact ih.trans ih'
    exact findByName_congr c given hsame

/-- A swimsuit variant is found by its short name in capitals, behind a blank and with a full-width
parenthesis. -/
theorem findByName_normal_of_variant :
    let c := Catalog.ofRecords [{ id := 3, name := "Aru" }, { id := 4, name := "Aru (X（泳装）" }]
    Relation.EqvGen Respelled "\u3000水ARU （X" "水aru (x" ∧
      (c.findByName "水aru (x" []).map Student.id = [4] ∧
      c.findByName "\u3000水ARU （X" [] = c.findByName "水aru (x" [] := by
  intro c
  have hblank : Respelled "\u3000水ARU （X" "水ARU （X" :=
    @Respelled.blanks ['\u3000'] [] (List.forall_mem_singleton.2 rfl) (List.forall_mem_nil _)
      "水ARU （X".toList
  have hlower : Respelled "水ARU （X" "水aru （x" :=
    @Respelled.letterCase "水ARU （X".toList "水aru （x".toList (by decide +kernel)
  have hnarrow : Respelled "水aru （x" "水aru (x" := .opening "水aru ".toList ['x']
  have hspelled : Relation.EqvGen Respelled "\u3000水ARU （X" "水aru (x" :=
    .trans _ _ _ (.rel _ _ hblank) (.trans _ _ _ (.rel _ _ hlower) (.rel _ _ hnarrow))
  exact ⟨hspelled, by decide +kernel, (findByName_normal c []).2 _ _ hspelled⟩

end Catalog
end DialogueSheet
