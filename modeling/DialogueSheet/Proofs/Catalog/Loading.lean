/-
# Tables that are read when they are asked for

A lazy catalog reads a table when a call first comes to it, and one call may read several.  It
still answers as a catalog does whose tables are all there.  It mirrors that catalog when the same
students are registered and the tables that it has read are those of the other
(`LazyCatalog.Mirrors`).  An operation gives what it gives on the other and leaves a mirror of it
(`Gives`); so does one that is made of such operations (`Gives.bind`), whatever is read in the
middle of it.  A run of calls follows by induction (`answers_eq`).

A table counts with all its rows or with none of them (`HoldsRows`), so the other catalog is that
of the rows of all tables that can be read (`ofRecords_eq_load`).
-/
import DialogueSheet.Catalog.Lazy
import DialogueSheet.Proofs.Json.Rows

namespace DialogueSheet

/-! ### The hits of one group after another -/

namespace Catalog

/-- Hits behind students that were found before. -/
def Hits.behind (found : List Student) : Hits → Hits
  | .exact s => .exact s
  | .several later => .several (found ++ later)

theorem Hits.behind_nil (hits : Hits) : hits.behind [] = hits := by cases hits <;> rfl

theorem Hits.behind_behind (first second : List Student) (hits : Hits) :
    (hits.behind second).behind first = hits.behind (first ++ second) := by
  cases hits with
  | exact s => rfl
  | several later => simp [behind]

theorem hitsAmong_cons {needle : List Char} {k : Candidate}
    (h : isExact needle k.record = false) (rest : List Candidate) :
    hitsAmong needle (k :: rest) = (hitsAmong needle rest).behind
      (if isPartial needle k.record then [k.shown] else []) := by
  rw [hitsAmong, h]
  cases hitsAmong needle rest with
  | exact s => rfl
  | several found => cases isPartial needle k.record <;> rfl

theorem hitsAmong_append (needle : List Char) (first second : List Candidate) :
    hitsAmong needle (first ++ second) =
      match hitsAmong needle first with
      | .exact s => .exact s
      | .several found => (hitsAmong needle second).behind found := by
  induction first with
  | nil => exact (Hits.behind_nil _).symm
  | cons k rest ih =>
    rw [List.cons_append]
    cases h : isExact needle k.record with
    | true => simp [hitsAmong, h]
    | false =>
      rw [hitsAmong_cons h, hitsAmong_cons h, ih]
      cases hitsAmong needle rest with
      | exact s => rfl
      | several found => exact Hits.behind_behind _ _ _

end Catalog

namespace LazyCatalog

variable {α β : Type} {files : Files} {root : AssetRoot} {e : Catalog}

/-- What a lazy catalog has read and registered is what another catalog has. -/
structure Mirrors (c : LazyCatalog) (e : Catalog) : Prop where
  extras : c.extras = e.extras
  read : ∀ language rows, c.read.lookup language = some rows → rows = e.table language

/-- An operation of a lazy catalog gives what it gives on another one. -/
def Gives (e : Catalog) (m : StateM LazyCatalog α) (a : α) : Prop :=
  ∀ c : LazyCatalog, c.Mirrors e → (m c).1 = a ∧ LazyCatalog.Mirrors (m c).2 e

namespace Gives

protected theorem pure (a : α) : Gives e (pure a) a := fun _ hc => ⟨rfl, hc⟩

theorem bind {m : StateM LazyCatalog α} {a : α} {f : α → StateM LazyCatalog β} {b : β}
    (hm : Gives e m a) (hf : Gives e (f a) b) : Gives e (m >>= f) b := by
  intro c hc
  obtain ⟨ha, hafter⟩ := hm c hc
  have hbind : (m >>= f) c = f (m c).1 (m c).2 := rfl
  rw [hbind, ha]
  exact hf _ hafter

theorem of_get {f : LazyCatalog → StateM LazyCatalog α} {a : α}
    (h : ∀ c : LazyCatalog, c.Mirrors e → Gives e (f c) a) : Gives e (get >>= f) a :=
  fun c hc => h c hc c hc

theorem map {m : StateM LazyCatalog α} {a : α} (hm : Gives e m a) (f : α → β) :
    Gives e (do let x ← m; return f x) (f a) := hm.bind (.pure _)

end Gives

/-! ### Lookups and searches -/

/-- The tables of a catalog are those of the data files. -/
def TablesOf (files : Files) (root : AssetRoot) (e : Catalog) : Prop :=
  ∀ language, e.table language = fileTable files root language

theorem records_of_read {c : LazyCatalog} {language : Language} {rows : List Student}
    (h : c.read.lookup language = some rows) : records files root language c = (rows, c) := by
  change (records files root language).run c = pure (rows, c)
  simp [records, h]

theorem records_of_unread {c : LazyCatalog} {language : Language}
    (h : c.read.lookup language = none) :
    records files root language c = (fileTable files root language,
      { c with read := (language, fileTable files root language) :: c.read }) := by
  change (records files root language).run c = pure _
  simp [records, h]

theorem records_gives (he : TablesOf files root e) (language : Language) :
    Gives e (records files root language) (e.table language) := by
  intro c hc
  cases hread : c.read.lookup language with
  | some rows =>
    rw [records_of_read hread]
    exact ⟨hc.read language rows hread, hc⟩
  | none =>
    rw [records_of_unread hread]
    refine ⟨(he language).symm, hc.extras, fun other rows hrows => ?_⟩
    rw [List.lookup_cons] at hrows
    split at hrows
    · rename_i hother
      rw [← Option.some.inj hrows, LawfulBEq.eq_of_beq hother, he]
    · exact hc.read other rows hrows

theorem findById?_gives (he : TablesOf files root e) (id : Nat) (language : Language) :
    Gives e (findById? files root id language) (e.findById? id language) :=
  (records_gives he language).map _

theorem primary_gives (he : TablesOf files root e) (s : Student) :
    Gives e (primary files root s) (e.primary s) := by
  unfold primary Catalog.primary
  split
  · exact .pure s
  · exact (findById?_gives he s.id .cn).map _

theorem scan_gives {needle : List Char} {shown : Student → StateM LazyCatalog Student}
    {shownIn : Student → Student} (hshown : ∀ s, Gives e (shown s) (shownIn s))
    (found group : List Student) :
    Gives e (scan needle shown found group)
      ((Catalog.hitsAmong needle (group.map fun s => ⟨s, shownIn s⟩)).behind found) := by
  induction group generalizing found with
  | nil =>
    rw [scan, List.map_nil, Catalog.hitsAmong, Catalog.Hits.behind, List.append_nil]
    exact .pure _
  | cons s rest ih =>
    rw [scan, List.map_cons]
    cases hexact : Catalog.isExact needle s with
    | true =>
      simp only [Catalog.hitsAmong, hexact, if_true]
      exact (hshown s).map _
    | false =>
      rw [Catalog.hitsAmong_cons hexact, Catalog.Hits.behind_behind, if_neg Bool.false_ne_true]
      cases Catalog.isPartial needle s with
      | true => exact (hshown s).bind (ih _)
      | false => simpa using ih found

theorem scanTables_gives (he : TablesOf files root e) (needle : List Char) (found : List Student)
    (languages : List Language) :
    Gives e (scanTables files root needle found languages)
      ((Catalog.hitsAmong needle (languages.flatMap fun l =>
        (e.table l).map fun s => ⟨s, e.primary s⟩)).behind found) := by
  induction languages generalizing found with
  | nil =>
    rw [scanTables, List.flatMap_nil, Catalog.hitsAmong, Catalog.Hits.behind, List.append_nil]
    exact .pure _
  | cons language rest ih =>
    rw [scanTables, List.flatMap_cons, Catalog.hitsAmong_append]
    refine (records_gives he language).bind ((scan_gives (primary_gives he) _ _).bind ?_)
    cases Catalog.hitsAmong needle ((e.table language).map fun s => ⟨s, e.primary s⟩) with
    | exact s => exact .pure _
    | several later =>
      have hrest := ih (found ++ later)
      rw [← Catalog.Hits.behind_behind] at hrest
      exact hrest

theorem search_gives (he : TablesOf files root e) (query : String) (given : List Student) :
    Gives e (search files root query given) (e.search query given) := by
  refine .of_get fun c hc => (scan_gives (fun s => .pure s) [] _).bind ?_
  rw [Catalog.search, Catalog.candidates, Catalog.hitsAmong_append, hc.extras,
    Catalog.Hits.behind_nil]
  cases Catalog.hitsAmong (normalChars query.toList)
    ((given ++ e.extras).map fun s => ⟨s, s⟩) with
  | exact s => exact .pure _
  | several found => exact (scanTables_gives he _ _ _).map _

theorem findByName_gives (he : TablesOf files root e) (query : String) (given : List Student) :
    Gives e (findByName files root query given) (e.findByName query given) := by
  refine (search_gives he query given).bind ?_
  rw [Catalog.findByName]
  cases (e.search query given).isEmpty with
  | false => exact .pure _
  | true =>
    cases themedVariant? query with
    | none => exact .pure _
    | some themed => exact (search_gives he themed given).map _

theorem rowOf?_gives (he : TablesOf files root e) (ref : StudentRef) (language : Language) :
    Gives e (rowOf? files root ref language)
      ((e.findById? ref.id language).filter (·.name = ref.name)) :=
  (findById?_gives he ref.id language).map _

theorem resolve_gives (he : TablesOf files root e) (ref : StudentRef) :
    Gives e (resolve files root ref) (e.resolve ref) := by
  refine (rowOf?_gives he ref ref.language).bind ?_
  rw [Catalog.resolve, Catalog.rowOf?]
  dsimp only
  cases (e.findById? ref.id ref.language).filter (·.name = ref.name) with
  | some s => exact .pure _
  | none =>
    refine (rowOf?_gives he ref .cn).bind ?_
    cases (e.findById? ref.id .cn).filter (·.name = ref.name) with
    | some s => exact .pure _
    | none => exact (findByName_gives he ref.name []).map _

theorem resolveAmong_gives (he : TablesOf files root e) (ref : StudentRef)
    (given : List Student) :
    Gives e (resolveAmong files root ref given) (e.resolveAmong ref given) := by
  rw [resolveAmong, Catalog.resolveAmong]
  cases given.find? fun s => s.id = ref.id && s.name = ref.name with
  | some s => exact .pure _
  | none => exact resolve_gives he ref

end LazyCatalog

/-! ### One call after another -/

/-- What is asked of a catalog. -/
inductive CatalogCall where
  | register (records : List Student)
  | records (language : Language)
  | findById (id : Nat) (language : Language)
  | findByName (query : String) (given : List Student)
  | resolve (ref : StudentRef)
  | resolveAmong (ref : StudentRef) (given : List Student)

/-- What a catalog answers. -/
inductive CatalogAnswer where
  | registered
  | student (s : Option Student)
  | students (found : List Student)
deriving DecidableEq

namespace Catalog

/-- The catalog after a call, and the answer. -/
def answer (e : Catalog) : CatalogCall → Catalog × CatalogAnswer
  | .register records => (e.register records, .registered)
  | .records language => (e, .students (e.table language))
  | .findById id language => (e, .student (e.findById? id language))
  | .findByName query given => (e, .students (e.findByName query given))
  | .resolve ref => (e, .student (e.resolve ref))
  | .resolveAmong ref given => (e, .student (e.resolveAmong ref given))

/-- The answers to calls one after the other. -/
def answers : Catalog → List CatalogCall → List CatalogAnswer
  | _, [] => []
  | e, call :: rest => (e.answer call).2 :: answers (e.answer call).1 rest

theorem table_answer (e : Catalog) (call : CatalogCall) (language : Language) :
    (e.answer call).1.table language = e.table language := by
  cases call <;> rfl

/-- A call is answered out of the same tables, whatever was registered before it. -/
theorem getElem?_answers (e : Catalog) {calls : List CatalogCall} {i : Nat} {call : CatalogCall}
    (h : calls[i]? = some call) :
    ∃ e' : Catalog, (∀ l, e'.table l = e.table l) ∧
      (e.answers calls)[i]? = some (e'.answer call).2 := by
  induction calls generalizing e i with
  | nil => simp at h
  | cons first rest ih =>
    cases i with
    | zero =>
      obtain rfl : first = call := by simpa using h
      exact ⟨e, fun _ => rfl, rfl⟩
    | succ i =>
      obtain ⟨e', htables, hanswer⟩ := ih (e.answer first).1 (by simpa using h)
      exact ⟨e', fun l => (htables l).trans (e.table_answer first l), hanswer⟩

end Catalog

namespace LazyCatalog

variable (files : Files) (root : AssetRoot)

/-- The answer to a call. -/
def answer : CatalogCall → StateM LazyCatalog CatalogAnswer
  | .register records => do
    register records
    return .registered
  | .records language => do
    let rows ← records files root language
    return .students rows
  | .findById id language => do
    let row? ← findById? files root id language
    return .student row?
  | .findByName query given => do
    let found ← findByName files root query given
    return .students found
  | .resolve ref => do
    let s? ← resolve files root ref
    return .student s?
  | .resolveAmong ref given => do
    let s? ← resolveAmong files root ref given
    return .student s?

/-- The answers to calls one after the other. -/
def answers : LazyCatalog → List CatalogCall → List CatalogAnswer
  | _, [] => []
  | c, call :: rest =>
    let (a, c) := answer files root call c
    a :: answers c rest

variable {files root} {e : Catalog}

theorem Mirrors.register {c : LazyCatalog} (hc : c.Mirrors e) (records : List Student) :
    LazyCatalog.Mirrors (register records c).2 (e.register records) where
  extras := congrArg (thin Student.sameIdentity · records) hc.extras
  read := hc.read

/-- A call has the answer that it has on a mirrored catalog, and leaves a mirror of that. -/
theorem answer_spec (he : TablesOf files root e) (call : CatalogCall) {c : LazyCatalog}
    (hc : c.Mirrors e) :
    (answer files root call c).1 = (e.answer call).2 ∧
      LazyCatalog.Mirrors (answer files root call c).2 (e.answer call).1 := by
  cases call with
  | register records => exact ⟨rfl, hc.register records⟩
  | records language => exact (records_gives he language).map _ c hc
  | findById id language => exact (findById?_gives he id language).map _ c hc
  | findByName query given => exact (findByName_gives he query given).map _ c hc
  | resolve ref => exact (resolve_gives he ref).map _ c hc
  | resolveAmong ref given => exact (resolveAmong_gives he ref given).map _ c hc

/-- **A lazy catalog answers all calls as one does that has the same tables.** -/
theorem answers_eq (he : TablesOf files root e) {c : LazyCatalog} (hc : c.Mirrors e)
    (calls : List CatalogCall) : c.answers files root calls = e.answers calls := by
  induction calls generalizing c e with
  | nil => rfl
  | cons call rest ih =>
    obtain ⟨ha, hafter⟩ := answer_spec he call hc
    have hrest := ih (fun l => (e.table_answer call l).trans (he l)) hafter
    exact congrArg₂ List.cons ha hrest

/-! ### The rows of the tables -/

/-- The table of a language reads and parses, and these are all its rows. -/
def ReadsAs (files : Files) (root : AssetRoot) (language : Language) (rows : List Student) :
    Prop :=
  ∃ text json, files.readText? (root.dataFile language "students") = some text ∧
    Json.parse? text = some json ∧
      List.Forall₂ (fun row s => Student.ofJson? row = some s) json.rows rows

/-- The table of a language is missing, malformed, or has a bad row. -/
def Unreadable (files : Files) (root : AssetRoot) (language : Language) : Prop :=
  files.readText? (root.dataFile language "students") = none ∨
    ∃ text, files.readText? (root.dataFile language "students") = some text ∧
      (Json.parse? text = none ∨
        ∃ json, Json.parse? text = some json ∧ ∃ row ∈ json.rows, Student.ofJson? row = none)

/-- These are the rows of the table of a language: all of them, or none when it is unreadable. -/
def HoldsRows (files : Files) (root : AssetRoot) (language : Language) (rows : List Student) :
    Prop :=
  ReadsAs files root language rows ∨ Unreadable files root language ∧ rows = []

variable {language : Language} {rows : List Student}

theorem ReadsAs.tableRows_eq (h : ReadsAs files root language rows) :
    tableRows files root language "students" Student.ofJson? = rows := by
  obtain ⟨text, json, hread, hparse, hrows⟩ := h
  simp [tableRows, hread, hparse, Json.rowsOf?_eq_some_iff.2 hrows]

theorem Unreadable.tableRows_eq (h : Unreadable files root language) :
    tableRows files root language "students" Student.ofJson? = [] := by
  rcases h with hread | ⟨text, hread, hparse | ⟨json, hparse, row, hrow, hbad⟩⟩
  · simp [tableRows, hread]
  · simp [tableRows, hread, hparse]
  · have hrows : json.rowsOf? Student.ofJson? = none := mapM_eq_none hrow hbad
    simp [tableRows, hread, hparse, hrows]

theorem ReadsAs.not_unreadable (h : ReadsAs files root language rows) :
    ¬Unreadable files root language := by
  obtain ⟨text, json, hread, hparse, hrows⟩ := h
  rintro (hnone | ⟨text', hread', hnone | ⟨json', hparse', row, hrow, hbad⟩⟩)
  · cases hread.symm.trans hnone
  · obtain rfl := Option.some.inj (hread.symm.trans hread')
    cases hparse.symm.trans hnone
  · obtain rfl := Option.some.inj (hread.symm.trans hread')
    obtain rfl := Option.some.inj (hparse.symm.trans hparse')
    cases (mapM_eq_some_iff.2 hrows).symm.trans (mapM_eq_none hrow hbad)

theorem readsAs_or_unreadable (files : Files) (root : AssetRoot) (language : Language) :
    (∃ rows, ReadsAs files root language rows) ∨ Unreadable files root language := by
  cases hread : files.readText? (root.dataFile language "students") with
  | none => exact .inr (.inl hread)
  | some text =>
    cases hparse : Json.parse? text with
    | none => exact .inr (.inr ⟨text, hread, .inl hparse⟩)
    | some json =>
      by_cases hrows : ∀ row ∈ json.rows, ∃ s, Student.ofJson? row = some s
      · obtain ⟨rows, hrows⟩ := exists_mapM_eq_some hrows
        exact .inl ⟨rows, text, json, hread, hparse, mapM_eq_some_iff.1 hrows⟩
      · push Not at hrows
        obtain ⟨row, hrow, hbad⟩ := hrows
        exact .inr (.inr ⟨text, hread, .inr ⟨json, hparse, row, hrow,
          Option.eq_none_iff_forall_ne_some.2 hbad⟩⟩)

theorem holdsRows_iff : HoldsRows files root language rows ↔
    tableRows files root language "students" Student.ofJson? = rows := by
  constructor
  · rintro (h | ⟨h, rfl⟩)
    · exact h.tableRows_eq
    · exact h.tableRows_eq
  · rintro rfl
    rcases readsAs_or_unreadable files root language with ⟨rows, h⟩ | h
    · exact .inl (h.tableRows_eq ▸ h)
    · exact .inr ⟨h, h.tableRows_eq⟩

/-! ### The catalog of the rows -/

theorem ofTables_congr {f g : Language → List Student}
    (h : ∀ l, (f l).map (Student.inLanguage l) = (g l).map (Student.inLanguage l)) :
    Catalog.ofTables f = Catalog.ofTables g := by
  simp only [Catalog.ofTables, h]

theorem flatMap_of_nodup {order : List Language} (hnodup : order.Nodup) (hmem : language ∈ order)
    (group : List Student) :
    (order.flatMap fun l => if l = language then group else []) = group := by
  induction order with
  | nil => cases hmem
  | cons l rest ih =>
    obtain ⟨hnot, hrest⟩ := List.nodup_cons.1 hnodup
    rw [List.flatMap_cons]
    by_cases hl : l = language
    · subst hl
      have hnone : (rest.flatMap fun l' => if l' = l then group else []) = [] :=
        List.flatMap_eq_nil_iff.2 fun l' hl' => if_neg (ne_of_mem_of_not_mem hl' hnot)
      rw [if_pos rfl, hnone, List.append_nil]
    · rw [if_neg hl, List.nil_append]
      exact ih hrest ((List.mem_cons.1 hmem).resolve_left (Ne.symm hl))

/-- The rows of all tables, in any order of the tables, make the catalog of the data files. -/
theorem ofRecords_eq_load {order : List Language} (horder : order.Perm Language.all) :
    Catalog.ofRecords (order.flatMap (fileTable files root)) = Catalog.load files root := by
  refine ofTables_congr fun l => ?_
  have hgroup : ∀ l', (fileTable files root l').filter (fun s => s.language.getD .cn = l) =
      if l' = l then fileTable files root l else [] := by
    intro l'
    by_cases hl : l' = l
    · subst hl
      simp [fileTable, Student.inLanguage]
    · simp [fileTable, Student.inLanguage, hl]
  have hnodup : order.Nodup := horder.nodup_iff.2 (by decide)
  have hmem : l ∈ order := horder.mem_iff.2 (by cases l <;> decide)
  rw [List.filter_flatMap]
  simp only [hgroup, flatMap_of_nodup hnodup hmem]
  simp [fileTable, Student.inLanguage, Function.comp_def]

theorem tablesOf_load (files : Files) (root : AssetRoot) :
    TablesOf files root (Catalog.load files root) := by
  intro l
  rw [Catalog.table, Catalog.load, Catalog.ofTables, Catalog.lookup_all]
  rfl

theorem start_mirrors (files : Files) (root : AssetRoot) :
    start.Mirrors (Catalog.load files root) where
  extras := rfl
  read _ _ h := by cases h

/-! ### All together -/

theorem answers_eq_load (files : Files) (root : AssetRoot) (calls : List CatalogCall) :
    start.answers files root calls = (Catalog.load files root).answers calls :=
  answers_eq (tablesOf_load files root) (start_mirrors files root) calls

/-- The catalog of the data files depends on the rows of their tables alone. -/
theorem load_congr {files' : Files} {root' : AssetRoot}
    (h : ∀ l rows, HoldsRows files root l rows → HoldsRows files' root' l rows) :
    Catalog.load files root = Catalog.load files' root' := by
  refine ofTables_congr fun l => ?_
  rw [holdsRows_iff.1 (h l _ (holdsRows_iff.2 rfl))]

/-- How a catalog of data files answers while the files stay as they are. -/
structure AnswersAsLoaded (files : Files) (root : AssetRoot) : Prop where
  /-- A table is read as a whole, or it is missing, malformed or has a bad row. -/
  readable : ∀ language, (∃ rows, ReadsAs files root language rows) ↔
    ¬Unreadable files root language
  rows : ∀ language, ∃! rows, HoldsRows files root language rows
  /-- The answers are those of a catalog that is given the rows of all tables, each with the
  language of its table; the order of the tables does not matter. -/
  answers : ∀ rows : Language → List Student, (∀ l, HoldsRows files root l (rows l)) →
    ∀ order : List Language, order.Perm Language.all → ∀ calls,
      start.answers files root calls =
        (Catalog.ofRecords (order.flatMap fun l => (rows l).map (Student.inLanguage l))).answers
          calls
  /-- They are also those of the catalog that reads all its tables in advance. -/
  loaded : ∀ calls, start.answers files root calls = (Catalog.load files root).answers calls
  /-- An unreadable table changes nothing: there might as well be none, or one without rows. -/
  unreadable : ∀ language, Unreadable files root language →
    ∀ (files' : Files) (root' : AssetRoot), HoldsRows files' root' language [] →
      (∀ l ≠ language, ∀ rows, HoldsRows files root l rows → HoldsRows files' root' l rows) →
        ∀ calls, start.answers files root calls = start.answers files' root' calls
  /-- A table and its ids are looked up in the file of its language alone. -/
  records : ∀ language rows, HoldsRows files root language rows →
    ∀ (calls : List CatalogCall) (i : Nat),
    (calls[i]? = some (.records language) →
      (start.answers files root calls)[i]? =
        some (.students (rows.map (Student.inLanguage language)))) ∧
    ∀ id, calls[i]? = some (.findById id language) →
      (start.answers files root calls)[i]? =
        some (.student ((rows.map (Student.inLanguage language)).find? (·.id = id)))

/-- **A catalog of data files answers as one of the rows in them.** -/
theorem answers_asLoaded (files : Files) (root : AssetRoot) : AnswersAsLoaded files root where
  readable l := by
    constructor
    · rintro ⟨rows, h⟩
      exact h.not_unreadable
    · exact (readsAs_or_unreadable files root l).resolve_right
  rows l := ⟨_, holdsRows_iff.2 rfl, fun rows h => (holdsRows_iff.1 h).symm⟩
  answers rows h order horder calls := by
    have htable : (fun l => (rows l).map (Student.inLanguage l)) = fileTable files root := by
      funext l
      rw [fileTable, holdsRows_iff.1 (h l)]
    rw [answers_eq_load, htable, ofRecords_eq_load horder]
  loaded := answers_eq_load files root
  unreadable language h files' root' hempty hothers calls := by
    have hload : Catalog.load files root = Catalog.load files' root' := by
      refine load_congr fun l rows hrows => ?_
      by_cases hl : l = language
      · subst hl
        rw [holdsRows_iff] at hrows
        rwa [← hrows, h.tableRows_eq]
      · exact hothers l hl rows hrows
    rw [answers_eq_load, answers_eq_load, hload]
  records language rows h calls i := by
    rw [answers_eq_load]
    have htable : (Catalog.load files root).table language =
        rows.map (Student.inLanguage language) := by
      rw [tablesOf_load, fileTable, holdsRows_iff.1 h]
    constructor
    · intro hcall
      obtain ⟨e, htables, hanswer⟩ := (Catalog.load files root).getElem?_answers hcall
      rw [hanswer, ← htable, ← htables]
      rfl
    · intro id hcall
      obtain ⟨e, htables, hanswer⟩ := (Catalog.load files root).getElem?_answers hcall
      rw [hanswer, ← htable, ← htables]
      rfl

/-! ### A table with a bad row -/

/-- Two students, keyed by their ids. -/
def keyedRows : String :=
  "\x7b\"1\":\x7b\"Id\":1,\"Name\":\"Aru\"\x7d,\"2\":\x7b\"Id\":2,\"Name\":\"Arona\"\x7d\x7d"

/-- A student, and a row whose id is no number. -/
def badRows : String :=
  "[\x7b\"Id\":1,\"Name\":\"A\"\x7d,\x7b\"Id\":\"2\",\"Name\":\"Ar\"\x7d]"

/-- A student of the id of another. -/
def otherRows : String := "[\x7b\"Id\":2,\"Name\":\"Ari\"\x7d]"

/-- A Chinese table stored by ids, a Japanese one with a bad row, and a Korean one. -/
def studentFiles : Files := ⟨[(["r"], .directory), (["r", "data"], .directory),
  (["r", "data", "cn"], .directory), (["r", "data", "jp"], .directory),
  (["r", "data", "kr"], .directory),
  (["r", "data", "cn", "students.json"], .file (.text keyedRows)),
  (["r", "data", "jp", "students.json"], .file (.text badRows)),
  (["r", "data", "kr", "students.json"], .file (.text otherRows))], []⟩

/-- The rows that read. -/
def studentRows : Language → List Student
  | .cn => [{ id := 1, name := "Aru" }, { id := 2, name := "Arona" }]
  | .kr => [{ id := 2, name := "Ari" }]
  | _ => []

/-- Searches before and after somebody is registered, and lookups. -/
def studentCalls : List CatalogCall :=
  [.findByName "ari" [], .register [{ name := "Ari" }], .findByName "ar" [],
    .resolve ⟨2, "Ari", .kr⟩, .records .jp, .findById 2 .kr]

/-- The good row of the bad table is not found; the Korean row stands for the Chinese one of its
id in a search, and for itself in a lookup. -/
theorem answers_asLoaded_of_bad_row :
    let aru : Student := { id := 1, name := "Aru", language := some .cn }
    let arona : Student := { id := 2, name := "Arona", language := some .cn }
    let ari : Student := { id := 2, name := "Ari", language := some .kr }
    (∀ l, HoldsRows studentFiles ⟨"r"⟩ l (studentRows l)) ∧
      Unreadable studentFiles ⟨"r"⟩ .jp ∧
      start.answers studentFiles ⟨"r"⟩ studentCalls =
        (Catalog.ofRecords (Language.all.flatMap fun l =>
          (studentRows l).map (Student.inLanguage l))).answers studentCalls ∧
      start.answers studentFiles ⟨"r"⟩ studentCalls =
        [.students [arona], .registered, .students [{ name := "Ari" }, aru, arona],
          .student (some ari), .students [], .student (some ari)] := by
  intro aru arona ari
  have hrows : ∀ l, HoldsRows studentFiles ⟨"r"⟩ l (studentRows l) := by
    intro l
    rw [holdsRows_iff]
    cases l <;> decide +kernel
  have hread : studentFiles.readText? (AssetRoot.dataFile ⟨"r"⟩ .jp "students") = some badRows := by
    decide +kernel
  have hbad : (Json.parse? badRows).map (·.rows.any fun row => (Student.ofJson? row).isNone) =
      some true := by
    decide +kernel
  obtain ⟨json, hparse, hany⟩ := Option.map_eq_some_iff.1 hbad
  obtain ⟨row, hrow, hnone⟩ := List.any_eq_true.1 hany
  have hunreadable : Unreadable studentFiles ⟨"r"⟩ .jp :=
    .inr ⟨badRows, hread, .inr ⟨json, hparse, row, hrow, Option.isNone_iff_eq_none.1 hnone⟩⟩
  exact ⟨hrows, hunreadable,
    (answers_asLoaded studentFiles ⟨"r"⟩).answers studentRows hrows _ (.refl _) studentCalls,
    by decide +kernel⟩

end LazyCatalog
end DialogueSheet
