/-
# The catalog of students

A catalog has a table of students for each language, and students registered
besides.  A search looks at the candidates of the caller, then at the registered
students, then at the tables in the order of languages; a row of a table stands
for the first Chinese row with its id, if there is one.

| the query is | found is |
| --- | --- |
| an exact name of a student | what the first such student stands for |
| a part of names | what the students with such names stand for, without repetitions |
| neither, but `水X` | the same for `X(泳装)` |
-/
import DialogueSheet.Catalog.Name
import DialogueSheet.Catalog.Thinning
import DialogueSheet.Items.Tables

namespace DialogueSheet

/-- A reference to a student. -/
structure StudentRef where
  id : Nat
  name : String
  language : Language
deriving DecidableEq

/-- The reference to a record; a record of no table counts as Chinese. -/
def Student.ref (s : Student) : StudentRef := ⟨s.id, s.name, s.language.getD .cn⟩

/-- Whether two records are of one id and name. -/
def Student.sameIdentity (a b : Student) : Bool := a.id = b.id && a.name = b.name

/-- A record with the language of its table. -/
def Student.inLanguage (language : Language) (s : Student) : Student :=
  { s with language := some language }

/-- A catalog of students. -/
structure Catalog where
  tables : List (Language × List Student)
  extras : List Student
  /-- A row has the language of its table. -/
  tagged : ∀ language, ∀ s ∈ (tables.lookup language).getD [], s.language = some language
  /-- No two registered students are of one id and name. -/
  noTwins : extras.Pairwise fun a b => a.sameIdentity b = false

namespace Catalog

theorem lookup_all {α : Type} (f : Language → α) (language : Language) :
    (Language.all.map fun l => (l, f l)).lookup language = some (f language) := by
  cases language <;> rfl

/-- The catalog with the given rows in its tables. -/
def ofTables (rows : Language → List Student) : Catalog where
  tables := Language.all.map fun l => (l, (rows l).map (Student.inLanguage l))
  extras := []
  tagged language s hs := by
    rw [lookup_all, Option.getD_some] at hs
    obtain ⟨row, -, rfl⟩ := List.mem_map.1 hs
    rfl
  noTwins := .nil

/-- The table of a language. -/
def table (c : Catalog) (language : Language) : List Student :=
  (c.tables.lookup language).getD []

/-- The catalog of given records, each in the table of its language, or in the
Chinese one when it has none. -/
def ofRecords (records : List Student) : Catalog :=
  ofTables fun l => records.filter fun s => s.language.getD .cn = l

/-- The catalog of the data files. -/
def load (files : Files) (root : AssetRoot) : Catalog :=
  ofTables fun l => tableRows files root l "students" Student.ofJson?

/-- The catalog with more registered students, without those of an id and name
that is registered before. -/
def register (c : Catalog) (records : List Student) : Catalog :=
  { c with
    extras := thin Student.sameIdentity c.extras records
    noTwins := pairwise_thin c.noTwins records }

/-- The first row of a table with an id. -/
def findById? (c : Catalog) (id : Nat) (language : Language) : Option Student :=
  (c.table language).find? (·.id = id)

/-- What a row of a table stands for. -/
def primary (c : Catalog) (s : Student) : Student :=
  if s.language = some .cn then s else (c.findById? s.id .cn).getD s

/-- A record that a search looks at, and the record it stands for. -/
structure Candidate where
  record : Student
  shown : Student

/-- The records that a search looks at, in their order. -/
def candidates (c : Catalog) (given : List Student) : List Candidate :=
  (given ++ c.extras).map (fun s => ⟨s, s⟩)
    ++ Language.all.flatMap fun l => (c.table l).map fun s => ⟨s, c.primary s⟩

/-- Whether one of the exact names is the needle. -/
def isExact (needle : List Char) (s : Student) : Bool :=
  s.exactNames.any fun n => normalChars n.toList = needle

/-- Whether one of the names contains the needle. -/
def isPartial (needle : List Char) (s : Student) : Bool :=
  s.searchNames.any fun n => Text.occursIn needle (normalChars n.toList)

/-- What a search comes to: one exact match, or the partial ones. -/
inductive Hits where
  | exact (s : Student)
  | several (found : List Student)

/-- The hits of a needle among candidates; the first exact match ends the search. -/
def hitsAmong (needle : List Char) : List Candidate → Hits
  | [] => .several []
  | k :: rest =>
    if isExact needle k.record then .exact k.shown
    else
      match hitsAmong needle rest with
      | .exact s => .exact s
      | .several found =>
        .several (if isPartial needle k.record then k.shown :: found else found)

/-- The students that hits stand for. -/
def Hits.students : Hits → List Student
  | .exact s => [s]
  | .several found => found

/-- The students that a query finds, repetitions included. -/
def search (c : Catalog) (query : String) (given : List Student) : List Student :=
  (hitsAmong (normalChars query.toList) (c.candidates given)).students

/-- Whether a student repeats a kept one: by its name or by an id that is not zero. -/
def repeats (kept s : Student) : Bool := (kept.id ≠ 0 && kept.id = s.id) || kept.name = s.name

/-- The students without those that repeat an earlier one. -/
def distinct (found : List Student) : List Student := thin repeats [] found

/-- The students that a query names. -/
def findByName (c : Catalog) (query : String) (given : List Student) : List Student :=
  let found := c.search query given
  match found.isEmpty, themedVariant? query with
  | true, some themed => distinct (c.search themed given)
  | _, _ => distinct found

/-- The row of the id of a reference, in its language or else in Chinese, if its name
agrees. -/
def rowOf? (c : Catalog) (ref : StudentRef) : Option Student :=
  let byId (l : Language) := (c.findById? ref.id l).filter (·.name = ref.name)
  byId ref.language <|> byId .cn

/-- The student of a reference: its row, or else the one of its very name that a search
for this name finds. -/
def resolve (c : Catalog) (ref : StudentRef) : Option Student :=
  c.rowOf? ref <|> (c.findByName ref.name []).find? (·.name = ref.name)

/-- The student of a reference, looked for among candidates first. -/
def resolveAmong (c : Catalog) (ref : StudentRef) (given : List Student) : Option Student :=
  (given.find? fun s => s.id = ref.id && s.name = ref.name) <|> c.resolve ref

end Catalog
end DialogueSheet
