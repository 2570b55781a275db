/-
# Finding a student again

A script keeps a reference to the student that a name found: the id, the name and the
language of the record.  The reference is resolved when the sheet is drawn.

| the student came from | its reference resolves to |
| --- | --- |
| a table | that very row, when no table holds an id twice |
| the candidates of the caller | the first candidate of its id and name |
| the registered students | itself, unless an earlier one bears its name |

`resolveAmong_ref` settles the first two.  A registered student has no table to be
looked up in, so its name is searched for once more, and the search may end at
another student whose path name or developer name reads the same
(`resolve_extra_iff`, `resolve_extra_lost`).
-/
import DialogueSheet.Proofs.Catalog.Search
import DialogueSheet.Proofs.Json.Rows
import Mathlib.Data.List.Pairwise

namespace DialogueSheet

namespace Catalog

/-! ### Where the students found come from -/

theorem mem_rows {c : Catalog} {k : Candidate} :
    k ∈ c.rows ↔ ∃ l, ∃ row ∈ c.table l, ⟨row, c.standIn l row⟩ = k := by
  have hall : ∀ l : Language, l ∈ [Language.cn, .jp, .en, .tw, .kr, .th, .vi] := by
    intro l
    cases l <;> simp
  simp only [rows, List.mem_flatMap, List.mem_map, hall, true_and]

theorem exists_of_mem_hits {needle : List Char} {ks : List Candidate} {s : Student}
    (h : s ∈ (hitsAmong needle ks).students) : ∃ k ∈ ks, k.shown = s := by
  induction ks with
  | nil => simp [hitsAmong, Hits.students] at h
  | cons k ks ih =>
    have hlater : s ∈ (hitsAmong needle ks).students → ∃ j ∈ k :: ks, j.shown = s := fun hs => by
      obtain ⟨j, hj, hshown⟩ := ih hs
      exact ⟨j, List.mem_cons_of_mem _ hj, hshown⟩
    rw [hitsAmong] at h
    split at h
    · exact ⟨k, List.mem_cons_self, (List.mem_singleton.1 h).symm⟩
    · cases hrest : hitsAmong needle ks with
      | exact t =>
        rw [hrest] at h hlater
        exact hlater h
      | several found =>
        rw [hrest] at h hlater
        simp only [Hits.students] at h hlater
        split at h
        · rcases List.mem_cons.1 h with rfl | h
          · exact ⟨k, List.mem_cons_self, rfl⟩
          · exact hlater h
        · exact hlater h

/-- Every student found is what a searched record stands for. -/
theorem exists_of_mem_findByName {c : Catalog} {given : List Student} {query : String}
    {r : Student} (h : r ∈ c.findByName query given) : ∃ k ∈ c.searched given, k.shown = r := by
  have hdistinct : ∀ q, r ∈ distinct (c.search q given) → ∃ k ∈ c.searched given, k.shown = r := by
    intro q hr
    rw [search_eq] at hr
    exact exists_of_mem_hits ((thinned_thin repeats_iff _).sublist.subset hr)
  simp only [findByName] at h
  split at h <;> exact hdistinct _ h

/-- What a row stands for is a row of some table. -/
theorem exists_standIn_mem_table {c : Catalog} {l : Language} {row : Student}
    (h : row ∈ c.table l) : ∃ l', c.standIn l row ∈ c.table l' := by
  unfold standIn
  split
  · exact ⟨l, h⟩
  · cases hfirst : (c.table .cn).find? (·.id = row.id) with
    | none => exact ⟨l, h⟩
    | some first => exact ⟨.cn, List.mem_of_find?_eq_some hfirst⟩

/-! ### Rows of the tables -/

theorem resolve_ref_of_mem_table {c : Catalog} (hids : ∀ l, ((c.table l).map Student.id).Nodup)
    {l : Language} {r : Student} (hr : r ∈ c.table l) : c.resolve r.ref = some r := by
  have htag : r.language = some l := c.tagged l r hr
  have hrow : c.findById? r.id l = some r := find?_key_eq_some (hids l) hr
  simp [resolve, rowOf?, Student.ref, htag, hrow]

/-- **A student found among candidates or rows is found again.**  Every student found
comes from the candidates, the registered students or a table.  From the first and the
last, its reference resolves to a record of its id and name, and to that very row when
no candidate has this id and name. -/
theorem resolveAmong_ref {c : Catalog} (hids : ∀ l, ((c.table l).map Student.id).Nodup)
    {given : List Student} {query : String} {r : Student} (hr : r ∈ c.findByName query given) :
    (r ∈ given ∨ r ∈ c.extras ∨ ∃ l, ∃ row ∈ c.table l, c.standIn l row = r) ∧
    ((r ∈ given ∨ ∃ l, ∃ row ∈ c.table l, c.standIn l row = r) →
      (∃ s, c.resolveAmong r.ref given = some s ∧ s.id = r.id ∧ s.name = r.name) ∧
      ((∀ k ∈ given, ¬(k.id = r.id ∧ k.name = r.name)) →
        c.resolveAmong r.ref given = some r)) := by
  constructor
  · obtain ⟨k, hk, rfl⟩ := exists_of_mem_findByName hr
    rcases List.mem_append.1 hk with hk | hk
    · rcases List.mem_append.1 hk with hk | hk
      · obtain ⟨s, hs, rfl⟩ := List.mem_map.1 hk
        exact Or.inl hs
      · obtain ⟨s, hs, rfl⟩ := List.mem_map.1 hk
        exact Or.inr (Or.inl hs)
    · obtain ⟨l, row, hrow, rfl⟩ := mem_rows.1 hk
      exact Or.inr (Or.inr ⟨l, row, hrow, rfl⟩)
  · intro hfrom
    cases hgiven : given.find? (fun s => s.id = r.id && s.name = r.name) with
    | some s =>
      have hs : s.id = r.id ∧ s.name = r.name := by simpa using List.find?_some hgiven
      refine ⟨⟨s, ?_, hs⟩, fun hnone => absurd hs (hnone s (List.mem_of_find?_eq_some hgiven))⟩
      rw [resolveAmong, Student.ref, hgiven]
      rfl
    | none =>
      have hnone : ∀ k ∈ given, ¬(k.id = r.id ∧ k.name = r.name) := by
        simpa using List.find?_eq_none.1 hgiven
      obtain ⟨l, row, hrow, rfl⟩ := hfrom.resolve_left fun h => hnone r h ⟨rfl, rfl⟩
      obtain ⟨l', hmem⟩ := exists_standIn_mem_table hrow
      have hresolve : c.resolveAmong (c.standIn l row).ref given = some (c.standIn l row) := by
        rw [resolveAmong, Student.ref, hgiven]
        exact resolve_ref_of_mem_table hids hmem
      exact ⟨⟨_, hresolve, rfl, rfl⟩, fun _ => hresolve⟩

/-- Two tables share an id, a candidate shares the id of a row but not its name, and the
query is the Japanese name of a student whose Chinese row is shown. -/
theorem resolveAmong_ref_shared_id :
    let row : Student := { id := 3, name := "星野", language := some .cn }
    let c := ofRecords [row, { id := 3, name := "ホシノ", language := some .jp }]
    let given : List Student := [{ id := 3, name := "Hoshino" }]
    (∀ l, ((c.table l).map Student.id).Nodup) ∧ row ∈ c.findByName "ホシノ" given ∧
      c.resolveAmong row.ref given = some row := by
  intro row c given
  have hids : ∀ l, ((c.table l).map Student.id).Nodup := by
    intro l
    cases l <;> decide +kernel
  have hrow : row ∈ c.findByName "ホシノ" given := by decide +kernel
  have hfrom : ∃ l, ∃ s ∈ c.table l, c.standIn l s = row :=
    ⟨.cn, row, by decide +kernel, by decide +kernel⟩
  exact ⟨hids, hrow, ((resolveAmong_ref hids hrow).2 (Or.inr hfrom)).2 (by decide +kernel)⟩

/-! ### Registered students -/

/-- The row of the id of a reference, in its language or in Chinese, has its name. -/
def HasRow (c : Catalog) (ref : StudentRef) : Prop :=
  ∃ l ∈ [ref.language, .cn], ∃ s, c.findById? ref.id l = some s ∧ s.name = ref.name

theorem filter_name_eq_some {found : Option Student} {name : String} {s : Student} :
    found.filter (·.name = name) = some s ↔ found = some s ∧ s.name = name := by
  simp [Option.filter_eq_some_iff]

theorem id_of_findById? {c : Catalog} {id : Nat} {l : Language} {s : Student}
    (h : c.findById? id l = some s) : s.id = id := by
  simpa using List.find?_some h

theorem of_rowOf?_eq_some {c : Catalog} {ref : StudentRef} {s : Student}
    (h : c.rowOf? ref = some s) : c.HasRow ref ∧ s.id = ref.id ∧ s.name = ref.name := by
  simp only [rowOf?, Option.orElse_eq_orElse, Option.orElse_eq_or, Option.or_eq_some_iff,
    filter_name_eq_some] at h
  rcases h with ⟨hrow, hname⟩ | ⟨-, hrow, hname⟩
  · exact ⟨⟨ref.language, by simp, s, hrow, hname⟩, id_of_findById? hrow, hname⟩
  · exact ⟨⟨.cn, by simp, s, hrow, hname⟩, id_of_findById? hrow, hname⟩

theorem exists_rowOf? {c : Catalog} {ref : StudentRef} (h : c.HasRow ref) :
    ∃ s, c.rowOf? ref = some s := by
  obtain ⟨l, hl, s, hs⟩ := h
  have hrow := filter_name_eq_some.2 hs
  cases hown : (c.findById? ref.id ref.language).filter (·.name = ref.name) with
  | some t => exact ⟨t, by simp [rowOf?, hown]⟩
  | none =>
    have hcn : l = .cn := by
      rcases List.mem_cons.1 hl with rfl | hl
      · rw [hown] at hrow
        cases hrow
      · exact List.mem_singleton.1 hl
    rw [hcn] at hrow
    exact ⟨s, by simp [rowOf?, hown, hrow]⟩

/-- Of students no two of whom clash, at most one has a given name. -/
theorem find?_name_eq_some {found : List Student} (h : found.Pairwise fun a b => ¬a.Clashes b)
    {name : String} {s : Student} :
    found.find? (·.name = name) = some s ↔ s ∈ found ∧ s.name = name := by
  have hunique : found.Pairwise fun a b =>
      ¬(decide (a.name = name) = true ∧ decide (b.name = name) = true) := by
    refine h.imp fun {a b} hfree hnames => hfree (Or.inl ?_)
    rw [of_decide_eq_true hnames.1, of_decide_eq_true hnames.2]
  rw [find?_eq_some_iff_mem hunique, decide_eq_true_iff]

/-- A reference resolves to a student of its id and name exactly when such a row is
there or a search for its name finds such a student. -/
theorem resolve_iff (c : Catalog) (ref : StudentRef) :
    (∃ s, c.resolve ref = some s ∧ s.id = ref.id ∧ s.name = ref.name) ↔
      c.HasRow ref ∨ ∃ s ∈ c.findByName ref.name [], s.id = ref.id ∧ s.name = ref.name := by
  have hunique := pairwise_findByName c ref.name []
  unfold resolve
  cases hrow : c.rowOf? ref with
  | some s =>
    obtain ⟨hhas, hs⟩ := of_rowOf?_eq_some hrow
    exact ⟨fun _ => Or.inl hhas, fun _ => ⟨s, rfl, hs⟩⟩
  | none =>
    constructor
    · rintro ⟨s, hs, hid, hname⟩
      exact Or.inr ⟨s, ((find?_name_eq_some hunique).1 hs).1, hid, hname⟩
    · rintro (hhas | ⟨s, hs, hid, hname⟩)
      · obtain ⟨s, hs⟩ := exists_rowOf? hhas
        simp [hs] at hrow
      · exact ⟨s, (find?_name_eq_some hunique).2 ⟨hs, hname⟩, hid, hname⟩

theorem eq_of_extras {c : Catalog} {a b : Student} (ha : a ∈ c.extras) (hb : b ∈ c.extras)
    (hid : a.id = b.id) (hname : a.name = b.name) : a = b := by
  have hsymm : Std.Symm fun a b : Student => a.sameIdentity b = false := ⟨fun a b h => by
    simp only [Student.sameIdentity, Bool.and_eq_false_iff, decide_eq_false_iff_not] at h ⊢
    exact h.imp Ne.symm Ne.symm⟩
  by_contra hne
  have htwins := c.noTwins.forall ha hb hne
  simp [Student.sameIdentity, hid, hname] at htwins

theorem bears_own_name {r : Student} (h : r.name ≠ "") : r.Bears r.name :=
  ⟨r.name, List.mem_cons_self, h, rfl⟩

/-- A search for a name that a registered student bears ends at the first who bears it. -/
theorem findByName_of_extra_bears {c : Catalog} {before after : List Student} {e : Student}
    {query : String} (hextras : c.extras = before ++ e :: after)
    (hbefore : ∀ b ∈ before, ¬b.Bears query) (he : e.Bears query) :
    c.findByName query [] = [e] := by
  have hsearched : c.searched [] =
      before.map Candidate.self ++ .self e :: (after.map Candidate.self ++ c.rows) := by
    simp [searched, hextras]
  have hmentioned : ∃ k ∈ c.searched [], k.record.Mentions query :=
    ⟨.self e, by simp [hsearched], he.mentions⟩
  have hfirst : ∀ j ∈ before.map Candidate.self, ¬j.record.Bears query := by
    intro j hj
    obtain ⟨b, hb, rfl⟩ := List.mem_map.1 hj
    exact hbefore b hb
  rw [findByName_of_mentioned hmentioned]
  exact (foundBy_hits (c.searched []) query).exact _ _ _ hsearched hfirst he

/-- **When a registered student is found again.**  Its reference resolves to a student of
its id and name exactly when a row of this id has this name, or a search for the name
finds such a student.  For a name that is not empty, the search does so exactly when no
student registered before bears the name. -/
theorem resolve_extra_iff {c : Catalog} {r : Student} (hr : r ∈ c.extras) :
    ((∃ s, c.resolve r.ref = some s ∧ s.id = r.id ∧ s.name = r.name) ↔
      c.HasRow r.ref ∨ ∃ s ∈ c.findByName r.name [], s.id = r.id ∧ s.name = r.name) ∧
    (r.name ≠ "" → ((∃ s ∈ c.findByName r.name [], s.id = r.id ∧ s.name = r.name) ↔
      ∃ before after, c.extras = before ++ r :: after ∧ ∀ e ∈ before, ¬e.Bears r.name)) := by
  refine ⟨resolve_iff c r.ref, fun hname => ⟨?_, ?_⟩⟩
  · rintro ⟨s, hs, hid, hsname⟩
    have hbearer : ∃ e ∈ c.extras, e.Bears r.name := ⟨r, hr, bears_own_name hname⟩
    obtain ⟨before, e, after, hextras, hbefore, he⟩ := exists_first hbearer
    rw [findByName_of_extra_bears hextras hbefore he, List.mem_singleton] at hs
    have hmem : e ∈ c.extras := by simp [hextras]
    obtain rfl : e = r := eq_of_extras hmem hr (hs ▸ hid) (hs ▸ hsname)
    exact ⟨before, after, hextras, hbefore⟩
  · rintro ⟨before, after, hextras, hbefore⟩
    rw [findByName_of_extra_bears hextras hbefore (bears_own_name hname)]
    exact ⟨r, List.mem_singleton_self r, rfl, rfl⟩

/-- The hypothesis is satisfiable, and the first of two registered students of one name
is found again. -/
theorem resolve_extra_first :
    let first : Student := { id := 1, name := "Sora" }
    let second : Student := { id := 2, name := "Sora", devName := "sora_casual" }
    let c := (ofRecords []).register [first, second]
    first ∈ c.extras ∧
      ∃ s, c.resolve first.ref = some s ∧ s.id = first.id ∧ s.name = first.name := by
  intro first second c
  have hfirst : first ∈ c.extras := by decide +kernel
  have hextras : c.extras = [] ++ first :: [second] := by decide +kernel
  obtain ⟨hresolve, hsearch⟩ := resolve_extra_iff hfirst
  have hfound := (hsearch (by decide)).2 ⟨[], [second], hextras, by simp⟩
  exact ⟨hfirst, hresolve.2 (Or.inr hfound)⟩

/-- The second of two registered students of one name is found by its developer name, and
its reference resolves to the first. -/
theorem resolve_extra_lost :
    ¬∀ (c : Catalog) (query : String) (r : Student), r ∈ c.extras →
      r ∈ c.findByName query [] →
        ∃ s, c.resolve r.ref = some s ∧ s.id = r.id ∧ s.name = r.name := by
  intro h
  let first : Student := { id := 1, name := "Sora" }
  let second : Student := { id := 2, name := "Sora", devName := "sora_casual" }
  let c := (ofRecords []).register [first, second]
  obtain ⟨s, hs, hid, -⟩ := h c "sora_casual" second (by decide +kernel) (by decide +kernel)
  have hother : c.resolve second.ref = some first := by decide +kernel
  obtain rfl : first = s := Option.some.inj (hother.symm.trans hs)
  exact absurd hid (by decide)

end Catalog
end DialogueSheet
