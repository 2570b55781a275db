/-
# Who is registered

Students are registered in batches, with searches and lookups between them.  A record counts when
no record before it, of its own batch or an earlier one, has its id and name; the others are passed
over, whatever their other fields say.  So the registered students are the newcomers among all
records in a row (`Catalog.extras_after`), and how the records are cut into batches does not
matter.  Records of a known id and name may stand between them (`Repeats`): what is registered is
the same (`Repeats.newcomers_eq`), hence everything that is answered later (`registered_once`).
-/
import DialogueSheet.Proofs.Catalog.Loading
import Mathlib.Data.List.Induction

namespace DialogueSheet

/-- The id and name, by which registered students are told apart. -/
def Student.identity (s : Student) : Nat × String := (s.id, s.name)

/-- The records of an id and name that no earlier record has, in their order. -/
def newcomers (records : List Student) : List Student :=
  (records.zipIdx.filter fun p =>
    p.1.identity ∉ (records.take p.2).map Student.identity).map Prod.fst

/-- The records `more` are the records `records` with others put in, each of which has the id and
name of a record before it; the records `before` stand before them all. -/
inductive Repeats : (before records more : List Student) → Prop where
  | nil {before : List Student} : Repeats before [] []
  | same {before records more : List Student} (s : Student)
      (h : Repeats (before ++ [s]) records more) : Repeats before (s :: records) (s :: more)
  | again {before records more : List Student} {s : Student}
      (hknown : ∃ k ∈ before, k.id = s.id ∧ k.name = s.name) (h : Repeats before records more) :
      Repeats before records (s :: more)

/-! ### Newcomers -/

theorem sameIdentity_iff (a b : Student) : a.sameIdentity b = true ↔ a.identity = b.identity := by
  simp [Student.sameIdentity, Student.identity]

theorem newcomers_concat (records : List Student) (s : Student) :
    newcomers (records ++ [s]) =
      if s.identity ∈ records.map Student.identity then newcomers records
      else newcomers records ++ [s] := by
  have hold : records.zipIdx.filter (fun p =>
      p.1.identity ∉ ((records ++ [s]).take p.2).map Student.identity) =
        records.zipIdx.filter fun p =>
          p.1.identity ∉ (records.take p.2).map Student.identity := by
    refine List.filter_congr fun p hp => ?_
    have hlt : p.2 < records.length := by simpa using List.snd_lt_add_of_mem_zipIdx hp
    rw [List.take_append_of_le_length (Nat.le_of_lt hlt)]
  rw [newcomers, List.zipIdx_append, List.filter_append, hold, List.map_append]
  by_cases hs : s.identity ∈ records.map Student.identity
  · simp [hs, newcomers]
  · simp [hs, newcomers]

theorem mem_map_identity_newcomers (records : List Student) (key : Nat × String) :
    key ∈ (newcomers records).map Student.identity ↔ key ∈ records.map Student.identity := by
  induction records using List.reverseRecOn with
  | nil => rfl
  | append_singleton records s ih =>
    rw [newcomers_concat]
    split
    · rename_i hs
      rw [ih, List.map_append, List.mem_append]
      refine ⟨Or.inl, fun h => h.elim id fun hkey => ?_⟩
      rw [List.mem_singleton.1 hkey]
      exact hs
    · simp only [List.map_append, List.mem_append, ih]

/-- Newcomers stay, and one more record joins them when it is new. -/
theorem keep_newcomers (records : List Student) (s : Student) :
    keep Student.sameIdentity (newcomers records) s = newcomers (records ++ [s]) := by
  have hany : (newcomers records).any (Student.sameIdentity · s) = true ↔
      s.identity ∈ records.map Student.identity := by
    rw [← mem_map_identity_newcomers, List.any_eq_true, List.mem_map]
    simp only [sameIdentity_iff]
  rw [newcomers_concat, keep]
  simp only [hany]

/-- **Thinning by id and name keeps the newcomers.** -/
theorem newcomers_append (records later : List Student) :
    newcomers (records ++ later) = thin Student.sameIdentity (newcomers records) later := by
  induction later generalizing records with
  | nil => rw [List.append_nil]; rfl
  | cons s later ih =>
    calc newcomers (records ++ s :: later)
        = newcomers ((records ++ [s]) ++ later) := by rw [List.append_assoc]; rfl
      _ = thin Student.sameIdentity (keep Student.sameIdentity (newcomers records) s) later := by
        rw [ih, keep_newcomers]
      _ = thin Student.sameIdentity (newcomers records) (s :: later) := rfl

theorem newcomers_eq_self {records : List Student}
    (h : records.Pairwise fun a b => a.sameIdentity b = false) : newcomers records = records := by
  induction records using List.reverseRecOn with
  | nil => rfl
  | append_singleton records s ih =>
    obtain ⟨hrecords, -, hs⟩ := List.pairwise_append.1 h
    have hnew : s.identity ∉ records.map Student.identity := by
      rintro hmem
      obtain ⟨k, hk, hsame⟩ := List.mem_map.1 hmem
      have hclash := (sameIdentity_iff k s).2 hsame
      rw [hs k hk s (List.mem_singleton_self s)] at hclash
      cases hclash
    rw [newcomers_concat, if_neg hnew, ih hrecords]

theorem newcomers_newcomers_append (records later : List Student) :
    newcomers (newcomers records ++ later) = newcomers (records ++ later) := by
  have htwins : (newcomers records).Pairwise fun a b => a.sameIdentity b = false := by
    rw [← List.nil_append records, newcomers_append]
    exact pairwise_thin .nil records
  rw [newcomers_append, newcomers_eq_self htwins, ← newcomers_append]

namespace Repeats

theorem refl (before records : List Student) : Repeats before records records := by
  induction records generalizing before with
  | nil => exact .nil
  | cons s records ih => exact .same s (ih _)

/-- **Records of a known id and name bring no newcomer.** -/
theorem newcomers_eq {before records more : List Student} (h : Repeats before records more) :
    newcomers (before ++ more) = newcomers (before ++ records) := by
  induction h with
  | nil => rfl
  | same s _ ih => simpa using ih
  | @again before records more s hknown _ ih =>
    obtain ⟨k, hk, hid, hname⟩ := hknown
    have hmem : s.identity ∈ before.map Student.identity :=
      List.mem_map.2 ⟨k, hk, Prod.ext hid hname⟩
    have hsplit : before ++ s :: more = (before ++ [s]) ++ more := by simp
    rw [hsplit, newcomers_append, newcomers_concat, if_pos hmem, ← newcomers_append, ih]

end Repeats

/-! ### Runs of calls -/

/-- The records that a call registers. -/
def CatalogCall.registered : CatalogCall → List Student
  | .register batch => batch
  | _ => []

/-- The records that calls register, one batch behind the other. -/
def registrations (calls : List CatalogCall) : List Student :=
  calls.flatMap CatalogCall.registered

namespace Catalog

/-- The catalog after calls. -/
def after : Catalog → List CatalogCall → Catalog
  | e, [] => e
  | e, call :: rest => after (e.answer call).1 rest

theorem extras_answer (e : Catalog) (call : CatalogCall) :
    (e.answer call).1.extras = newcomers (e.extras ++ call.registered) := by
  rw [newcomers_append, newcomers_eq_self e.noTwins]
  cases call <;> rfl

theorem extras_after (e : Catalog) (calls : List CatalogCall) :
    (e.after calls).extras = newcomers (e.extras ++ registrations calls) := by
  induction calls generalizing e with
  | nil => simpa [registrations, after] using (newcomers_eq_self e.noTwins).symm
  | cons call rest ih =>
    rw [after, ih, extras_answer, newcomers_newcomers_append, List.append_assoc]
    rfl

theorem tables_after (e : Catalog) (calls : List CatalogCall) :
    (e.after calls).tables = e.tables := by
  induction calls generalizing e with
  | nil => rfl
  | cons call rest ih =>
    rw [after, ih]
    cases call <;> rfl

/-- Calls that register the same students leave the same catalog. -/
theorem after_congr {e : Catalog} {calls calls' : List CatalogCall}
    (h : newcomers (e.extras ++ registrations calls) =
      newcomers (e.extras ++ registrations calls')) : e.after calls = e.after calls' := by
  have hext : ∀ a b : Catalog, a.tables = b.tables → a.extras = b.extras → a = b := by
    rintro ⟨_, _, _, _⟩ ⟨_, _, _, _⟩ rfl rfl
    rfl
  refine hext _ _ ?_ ?_
  · rw [tables_after, tables_after]
  · rw [extras_after, extras_after, h]

end Catalog

namespace LazyCatalog

variable {files : Files} {root : AssetRoot}

/-- The catalog after calls. -/
def after (files : Files) (root : AssetRoot) : LazyCatalog → List CatalogCall → LazyCatalog
  | c, [] => c
  | c, call :: rest => after files root (answer files root call c).2 rest

/-- A catalog goes on mirroring another one that is asked the same. -/
theorem mirrors_after {c : LazyCatalog} {e : Catalog} (he : TablesOf files root e)
    (hc : c.Mirrors e) (calls : List CatalogCall) :
    (c.after files root calls).Mirrors (e.after calls) := by
  induction calls generalizing c e with
  | nil => exact hc
  | cons call rest ih =>
    exact ih (fun l => (e.table_answer call l).trans (he l)) (answer_spec he call hc).2

theorem tablesOf_after {e : Catalog} (he : TablesOf files root e) (calls : List CatalogCall) :
    TablesOf files root (e.after calls) := fun language => by
  rw [Catalog.table, Catalog.tables_after]
  exact he language

end LazyCatalog

/-! ### All together -/

/-- What a catalog makes of the records that are registered with it when it has those of `known`
already: `extras` are the registered students after calls, `answers` what later calls are
answered. -/
structure RegistersOnce (known : List Student) (extras : List CatalogCall → List Student)
    (answers : (calls later : List CatalogCall) → List CatalogAnswer) : Prop where
  /-- Registered are the first records of their id and name, in the order of all records. -/
  firsts : ∀ calls, extras calls = newcomers (known ++ registrations calls)
  /-- It does not matter in which batches the records come. -/
  batches : ∀ calls calls', registrations calls = registrations calls' →
    ∀ later, answers calls later = answers calls' later
  /-- Nor does it matter whether records of a known id and name are registered once more. -/
  again : ∀ calls calls', Repeats known (registrations calls) (registrations calls') →
    ∀ later, answers calls' later = answers calls later

theorem RegistersOnce.of_newcomers {known : List Student} {extras : List CatalogCall → List Student}
    {answers : (calls later : List CatalogCall) → List CatalogAnswer}
    (hextras : ∀ calls, extras calls = newcomers (known ++ registrations calls))
    (hanswers : ∀ calls calls', newcomers (known ++ registrations calls) =
      newcomers (known ++ registrations calls') →
        ∀ later, answers calls later = answers calls' later) :
    RegistersOnce known extras answers where
  firsts := hextras
  batches calls calls' h := hanswers calls calls' (by rw [h])
  again calls calls' h := hanswers calls' calls h.newcomers_eq

namespace Catalog

/-- **A student is registered once**, by the first record of the id and name, with a catalog whose
tables are given and with one that reads them when they are asked for. -/
theorem registered_once :
    (∀ c : Catalog, RegistersOnce c.extras (fun calls => (c.after calls).extras)
      fun calls later => (c.after calls).answers later) ∧
    ∀ files root, RegistersOnce [] (fun calls => (LazyCatalog.start.after files root calls).extras)
      fun calls later => (LazyCatalog.start.after files root calls).answers files root later := by
  constructor
  · intro c
    refine .of_newcomers c.extras_after fun calls calls' h later => ?_
    rw [after_congr h]
  · intro files root
    have htables := LazyCatalog.tablesOf_load files root
    have hafter := LazyCatalog.tablesOf_after htables
    have hmirrors := LazyCatalog.mirrors_after htables (LazyCatalog.start_mirrors files root)
    refine .of_newcomers (fun calls => ?_) fun calls calls' h later => ?_
    · calc (LazyCatalog.start.after files root calls).extras
          = ((load files root).after calls).extras := (hmirrors calls).extras
        _ = newcomers ([] ++ registrations calls) := extras_after _ calls
    · calc (LazyCatalog.start.after files root calls).answers files root later
          = ((load files root).after calls).answers later :=
            LazyCatalog.answers_eq (hafter calls) (hmirrors calls) later
        _ = ((load files root).after calls').answers later := by rw [after_congr h]
        _ = (LazyCatalog.start.after files root calls').answers files root later :=
            (LazyCatalog.answers_eq (hafter calls') (hmirrors calls') later).symm

/-- A record is registered again with a developer name, in its own batch and in a later one: nobody
bears that name.  A record of the same name and another id is somebody else. -/
theorem registered_once_of_changed :
    let c := Catalog.ofRecords [{ id := 3, name := "Aru" }]
    let arona : Student := { name := "Arona" }
    let plana : Student := { name := "Plana" }
    let changed : Student := { arona with devName := "a2" }
    let other : Student := { arona with id := 1 }
    let calls : List CatalogCall :=
      [.register [arona], .findByName "aro" [], .register [plana, other]]
    let calls' : List CatalogCall :=
      [.register [arona, changed], .register [plana, changed, other, plana]]
    let later : List CatalogCall := [.findByName "a2" [], .findByName "ar" []]
    Repeats c.extras (registrations calls) (registrations calls') ∧
      (c.after calls').extras = [arona, plana, other] ∧
      (c.after calls').answers later = (c.after calls).answers later ∧
      (c.after calls).answers later =
        [.students [], .students [arona, { id := 3, name := "Aru", language := some .cn }]] := by
  intro c arona plana changed other calls calls' later
  have hrepeats : Repeats c.extras (registrations calls) (registrations calls') :=
    .same arona (.again ⟨arona, by simp, rfl, rfl⟩ (.same plana (.again ⟨arona, by simp, rfl, rfl⟩
      (.same other (.again ⟨plana, by simp, rfl, rfl⟩ .nil)))))
  refine ⟨hrepeats, ?_, (registered_once.1 c).again calls calls' hrepeats later, by decide +kernel⟩
  exact ((registered_once.1 c).firsts calls').trans (by decide +kernel)

end Catalog
end DialogueSheet
