/-
# The rule of the search

A query is compared with every searched record: the candidates, the registered
students and the rows of the tables in the order of languages.

| a record of | stands for |
| --- | --- |
| the candidates, the registered students | itself |
| the Chinese table | itself |
| another table | the first Chinese row with its id, or itself when there is none |

A record bears the query when a name, path name or developer name reads as the query
does; it mentions the query when one of its six names holds it.  The first record that
bears the query is the whole answer.  When none does, the answer is what the records
that mention it stand for, thinned of repetitions (`foundBy_hits`).  Only a query
that nobody mentions is read as `水X`, and then `X(泳装)` is searched for by the same
rule (`findByName_foundBy`).
-/
import DialogueSheet.Proofs.Catalog.Thinned
import DialogueSheet.Catalog.Catalog
import Mathlib.Data.List.Basic

namespace DialogueSheet

theorem exists_first {α : Type} {p : α → Prop} [DecidablePred p] {l : List α}
    (h : ∃ a ∈ l, p a) :
    ∃ before a after, l = before ++ a :: after ∧ (∀ b ∈ before, ¬p b) ∧ p a := by
  have hsome : (l.find? fun a => decide (p a)).isSome := by
    simpa [List.find?_isSome] using h
  obtain ⟨a, ha⟩ := Option.isSome_iff_exists.1 hsome
  obtain ⟨hp, before, after, hl, hbefore⟩ := List.find?_eq_some_iff_append.1 ha
  exact ⟨before, a, after, hl, fun b hb => by simpa using hbefore b hb, by simpa using hp⟩

namespace Student

/-- A name, path name or developer name of the student reads as the query does. -/
def Bears (s : Student) (query : String) : Prop :=
  ∃ n ∈ [s.name, s.pathName, s.devName], n ≠ "" ∧ normalizeName n = normalizeName query

/-- One of the six names of the student holds the query. -/
def Mentions (s : Student) (query : String) : Prop :=
  ∃ n ∈ [s.name, s.pathName, s.devName, s.familyName, s.personalName, s.voice],
    n ≠ "" ∧ (normalizeName query).toList <:+: (normalizeName n).toList

/-- Two students of one name, or of one id that is not zero. -/
def Clashes (a b : Student) : Prop := a.name = b.name ∨ (a.id ≠ 0 ∧ a.id = b.id)

theorem Bears.mentions {s : Student} {query : String} (h : s.Bears query) : s.Mentions query := by
  obtain ⟨n, hn, hne, heq⟩ := h
  have hmem : n ∈ [s.name, s.pathName, s.devName, s.familyName, s.personalName, s.voice] :=
    List.mem_append_left [s.familyName, s.personalName, s.voice] hn
  have hinfix : (normalizeName query).toList <:+: (normalizeName n).toList :=
    ⟨[], [], by rw [heq, List.nil_append, List.append_nil]⟩
  exact ⟨n, hmem, hne, hinfix⟩

theorem normalChars_eq_iff (a b : String) :
    normalChars a.toList = normalChars b.toList ↔ normalizeName a = normalizeName b := by
  simp only [normalizeName, String.ofList_inj]

theorem mem_nonEmpty {n : String} {names : List String} :
    n ∈ nonEmpty names ↔ n ∈ names ∧ n ≠ "" := by
  simp [nonEmpty]

end Student

namespace Catalog

theorem isExact_iff (query : String) (s : Student) :
    isExact (normalChars query.toList) s = true ↔ s.Bears query := by
  simp only [isExact, Student.exactNames, List.any_eq_true, decide_eq_true_eq,
    Student.mem_nonEmpty, Student.normalChars_eq_iff, Student.Bears, and_assoc]

theorem isExact_eq_false {query : String} {s : Student} (h : ¬s.Bears query) :
    isExact (normalChars query.toList) s = false :=
  Bool.eq_false_iff.2 fun hexact => h ((isExact_iff query s).1 hexact)

theorem isPartial_iff (query : String) (s : Student) :
    isPartial (normalChars query.toList) s = true ↔ s.Mentions query := by
  simp only [isPartial, Student.searchNames, List.any_eq_true, Text.occursIn_iff,
    Student.mem_nonEmpty, Student.Mentions, and_assoc, normalizeName, String.toList_ofList]

theorem repeats_iff (a b : Student) : repeats a b = true ↔ a.Clashes b := by
  simp only [repeats, Student.Clashes, Bool.or_eq_true, Bool.and_eq_true, decide_eq_true_eq]
  tauto

instance (s : Student) (query : String) : Decidable (s.Bears query) :=
  decidable_of_iff _ (isExact_iff query s)

instance (s : Student) (query : String) : Decidable (s.Mentions query) :=
  decidable_of_iff _ (isPartial_iff query s)

/-! ### What is searched -/

/-- The record that a row in the table of a language stands for. -/
def standIn (c : Catalog) (language : Language) (row : Student) : Student :=
  if language = .cn then row else ((c.table .cn).find? (·.id = row.id)).getD row

theorem primary_eq_standIn {c : Catalog} {language : Language} {row : Student}
    (h : row ∈ c.table language) : c.primary row = c.standIn language row := by
  have htag : row.language = some language := c.tagged language row h
  simp [primary, standIn, findById?, htag]

/-- A record that stands for itself. -/
def Candidate.self (s : Student) : Candidate := ⟨s, s⟩

/-- The rows of the tables in their order, each with the record that it stands for. -/
def rows (c : Catalog) : List Candidate :=
  [Language.cn, .jp, .en, .tw, .kr, .th, .vi].flatMap fun l =>
    (c.table l).map fun row => ⟨row, c.standIn l row⟩

/-- The records that are compared with a query, in their order. -/
def searched (c : Catalog) (given : List Student) : List Candidate :=
  given.map Candidate.self ++ c.extras.map Candidate.self ++ c.rows

theorem candidates_eq_searched (c : Catalog) (given : List Student) :
    c.candidates given = c.searched given := by
  have hrows : ∀ l, (c.table l).map (fun s => (⟨s, c.primary s⟩ : Candidate)) =
      (c.table l).map fun row => ⟨row, c.standIn l row⟩ := fun l =>
    List.map_congr_left fun row h => by rw [primary_eq_standIn h]
  simp only [candidates, searched, rows, hrows, Language.all, List.map_append]
  rfl

/-! ### One pass over the searched records -/

/-- The answer to a query by the rule: what the first record that bears the query
stands for, or else what those that mention it stand for, thinned of repetitions. -/
structure FoundBy (ks : List Candidate) (query : String) (found : List Student) : Prop where
  exact : ∀ before k after, ks = before ++ k :: after → (∀ j ∈ before, ¬j.record.Bears query) →
    k.record.Bears query → found = [k.shown]
  parts : (∀ k ∈ ks, ¬k.record.Bears query) →
    Thinned Student.Clashes [] ((ks.filter (·.record.Mentions query)).map Candidate.shown) found

theorem hitsAmong_exact {needle : List Char} {k : Candidate} {after : List Candidate} :
    ∀ {before : List Candidate}, (∀ j ∈ before, isExact needle j.record = false) →
      isExact needle k.record = true → hitsAmong needle (before ++ k :: after) = .exact k.shown
  | [], _, hk => by simp [hitsAmong, hk]
  | j :: before, hbefore, hk => by
      have hj : isExact needle j.record = false := hbefore j List.mem_cons_self
      have hrest : hitsAmong needle (before ++ k :: after) = .exact k.shown :=
        hitsAmong_exact (fun i hi => hbefore i (List.mem_cons_of_mem _ hi)) hk
      simp [hitsAmong, hj, hrest]

theorem hitsAmong_several {needle : List Char} {ks : List Candidate}
    (h : ∀ k ∈ ks, isExact needle k.record = false) :
    hitsAmong needle ks =
      .several ((ks.filter fun k => isPartial needle k.record).map Candidate.shown) := by
  induction ks with
  | nil => rfl
  | cons k ks ih =>
    have hk : isExact needle k.record = false := h k List.mem_cons_self
    have hrest := ih fun j hj => h j (List.mem_cons_of_mem _ hj)
    cases hp : isPartial needle k.record <;> simp [hitsAmong, hk, hp, hrest]

/-- **The thinned hits are the answer by the rule.** -/
theorem foundBy_hits (ks : List Candidate) (query : String) :
    FoundBy ks query (distinct (hitsAmong (normalChars query.toList) ks).students) where
  exact before k after hks hbefore hk := by
    rw [hks, hitsAmong_exact (fun j hj => isExact_eq_false (hbefore j hj))
      ((isExact_iff query k.record).2 hk)]
    rfl
  parts hnone := by
    have hfilter : ks.filter (fun k => isPartial (normalChars query.toList) k.record) =
        ks.filter (·.record.Mentions query) :=
      List.filter_congr fun k _ => by
        rw [← Bool.coe_iff_coe, decide_eq_true_iff, isPartial_iff]
    rw [hitsAmong_several fun k hk => isExact_eq_false (hnone k hk), hfilter]
    exact thinned_thin repeats_iff _

theorem hits_eq_nil_iff (ks : List Candidate) (query : String) :
    (hitsAmong (normalChars query.toList) ks).students = [] ↔
      ∀ k ∈ ks, ¬k.record.Mentions query := by
  by_cases hbearer : ∃ k ∈ ks, k.record.Bears query
  · obtain ⟨before, k, after, rfl, hbefore, hk⟩ := exists_first hbearer
    rw [hitsAmong_exact (fun j hj => isExact_eq_false (hbefore j hj))
      ((isExact_iff query k.record).2 hk)]
    constructor
    · intro h
      simp [Hits.students] at h
    · intro h
      exact absurd hk.mentions (h k (by simp))
  · rw [hitsAmong_several fun k hk => isExact_eq_false fun h => hbearer ⟨k, hk, h⟩]
    simp [Hits.students, ← isPartial_iff]

/-! ### The answer to a query -/

theorem search_eq (c : Catalog) (query : String) (given : List Student) :
    c.search query given =
      (hitsAmong (normalChars query.toList) (c.searched given)).students := by
  rw [search, candidates_eq_searched]

theorem themedVariant?_eq_some {query x : String} (hx : x ≠ "")
    (h : Text.trim query = "水" ++ x) : themedVariant? query = some (x ++ "(泳装)") := by
  have hchars : Text.trimChars query.toList = '水' :: x.toList := by
    have htrim : (Text.trim query).toList = Text.trimChars query.toList := String.toList_ofList
    rw [← htrim, h, String.toList_append]
    rfl
  obtain ⟨c, rest, hcons⟩ := List.exists_cons_of_ne_nil (mt String.toList_eq_nil_iff.1 hx)
  have hjoin : String.ofList (c :: rest ++ "(泳装)".toList) = x ++ "(泳装)" := by
    rw [String.ofList_append, ← hcons, String.ofList_toList, String.ofList_toList]
  simp only [themedVariant?, hchars, hcons, hjoin]

theorem themedVariant?_eq_none {query : String}
    (h : ∀ x, x ≠ "" → Text.trim query ≠ "水" ++ x) : themedVariant? query = none := by
  unfold themedVariant?
  split
  · rename_i c rest hchars
    have hrest : String.ofList (c :: rest) ≠ "" := by simp
    have htrim : Text.trim query = "水" ++ String.ofList (c :: rest) := by
      rw [Text.trim, hchars, ← List.singleton_append, String.ofList_append]
    exact absurd htrim (h _ hrest)
  · rfl

theorem findByName_of_mentioned {c : Catalog} {given : List Student} {query : String}
    (h : ∃ k ∈ c.searched given, k.record.Mentions query) :
    c.findByName query given =
      distinct (hitsAmong (normalChars query.toList) (c.searched given)).students := by
  have hne : (hitsAmong (normalChars query.toList) (c.searched given)).students.isEmpty
      = false := by
    rw [List.isEmpty_eq_false_iff, Ne, hits_eq_nil_iff]
    simpa using h
  simp only [findByName, search_eq, hne]

theorem findByName_of_unmentioned {c : Catalog} {given : List Student} {query : String}
    (h : ∀ k ∈ c.searched given, ¬k.record.Mentions query) :
    c.findByName query given = match themedVariant? query with
      | some themed =>
        distinct (hitsAmong (normalChars themed.toList) (c.searched given)).students
      | none => [] := by
  have hnil : c.search query given = [] := by rw [search_eq, hits_eq_nil_iff]; exact h
  cases hthemed : themedVariant? query with
  | none => simp [findByName, hnil, hthemed, distinct, thin]
  | some themed => simp [findByName, hnil, hthemed, search_eq]

/-- **No two students found are of one name or of one id that is not zero.** -/
theorem pairwise_findByName (c : Catalog) (query : String) (given : List Student) :
    (c.findByName query given).Pairwise fun a b => ¬a.Clashes b := by
  have hdistinct : ∀ found : List Student, (distinct found).Pairwise fun a b => ¬a.Clashes b :=
    fun found => (pairwise_thin .nil found).imp fun h hclash => by
      rw [(repeats_iff _ _).2 hclash] at h
      exact Bool.noConfusion h
  simp only [findByName]
  split <;> exact hdistinct _

/-- **The answer to a query is found by the rule**, and by the rule for `X(泳装)` only
when the query is a `水X` that nobody mentions.  Whoever mentions a query that nobody
bears is represented among those found by a student of the same name or the same id. -/
theorem findByName_foundBy (c : Catalog) (given : List Student) (query : String) :
    ((∃ k ∈ c.searched given, k.record.Mentions query) →
      FoundBy (c.searched given) query (c.findByName query given)) ∧
    ((∀ k ∈ c.searched given, ¬k.record.Mentions query) →
      (∀ x, x ≠ "" → Text.trim query = "水" ++ x →
        FoundBy (c.searched given) (x ++ "(泳装)") (c.findByName query given) ∧
        ((∀ k ∈ c.searched given, ¬k.record.Mentions (x ++ "(泳装)")) →
          c.findByName query given = [])) ∧
      ((∀ x, x ≠ "" → Text.trim query ≠ "水" ++ x) → c.findByName query given = [])) ∧
    (c.findByName query given).Pairwise (fun a b => ¬a.Clashes b) ∧
    ((∀ k ∈ c.searched given, ¬k.record.Bears query) →
      ∀ k ∈ c.searched given, k.record.Mentions query →
        ∃ s ∈ c.findByName query given, s.Clashes k.shown) := by
  refine ⟨fun h => ?_, fun h => ⟨fun x hx htrim => ⟨?_, fun hnone => ?_⟩, fun hplain => ?_⟩,
    pairwise_findByName c query given, fun hnone k hk hmentions => ?_⟩
  · rw [findByName_of_mentioned h]
    exact foundBy_hits _ _
  · rw [findByName_of_unmentioned h, themedVariant?_eq_some hx htrim]
    exact foundBy_hits _ _
  · rw [findByName_of_unmentioned h, themedVariant?_eq_some hx htrim]
    simp only [(hits_eq_nil_iff _ _).2 hnone]
    rfl
  · rw [findByName_of_unmentioned h, themedVariant?_eq_none hplain]
  · rw [findByName_of_mentioned ⟨k, hk, hmentions⟩]
    have hthinned := (foundBy_hits (c.searched given) query).parts hnone
    have hfound : k.shown ∈
        ((c.searched given).filter (·.record.Mentions query)).map Candidate.shown :=
      List.mem_map_of_mem (List.mem_filter.2 ⟨hk, decide_eq_true hmentions⟩)
    simpa using Thinned.represented (R := Student.Clashes) (fun _ => Or.inl rfl) hthinned hfound

/-- A Chinese row stands for itself even when an earlier Chinese row has its id: not
every row stands for the first Chinese row with its id. -/
theorem findByName_ne_first_row :
    ¬∀ (c : Catalog) (given : List Student) (query : String) (before : List Candidate)
      (k : Candidate) (after : List Candidate),
      given.map Candidate.self ++ c.extras.map Candidate.self
        ++ [Language.cn, .jp, .en, .tw, .kr, .th, .vi].flatMap (fun l => (c.table l).map fun row =>
          ⟨row, ((c.table .cn).find? (·.id = row.id)).getD row⟩) = before ++ k :: after →
      (∀ j ∈ before, ¬j.record.Bears query) → k.record.Bears query →
      c.findByName query given = [k.shown] := by
  intro h
  let first : Student := { id := 1, name := "A" }
  let second : Student := { id := 1, name := "B" }
  let shown := Student.inLanguage .cn first
  have hfound : (ofRecords [first, second]).findByName "B" [] = [shown] :=
    h (ofRecords [first, second]) [] "B" [⟨shown, shown⟩] ⟨Student.inLanguage .cn second, shown⟩ []
      (by rfl) (by decide +kernel) (by decide +kernel)
  revert hfound
  decide +kernel

end Catalog
end DialogueSheet
