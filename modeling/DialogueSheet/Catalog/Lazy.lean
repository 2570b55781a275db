/-
# A catalog that reads its tables when they are asked for

The table of a language is read from its file when a lookup or a search first comes to
it, and kept.  A search reads no table behind the one in which it ends; the Chinese
row that a row stands for is looked up in the middle of another table.
-/
import DialogueSheet.Catalog.Catalog

namespace DialogueSheet

/-- The tables that have been read, and the registered students. -/
structure LazyCatalog where
  read : List (Language × List Student)
  extras : List Student

namespace LazyCatalog

/-- Nothing is read, and nobody is registered. -/
def start : LazyCatalog := ⟨[], []⟩

variable (files : Files) (root : AssetRoot)

/-- The table of a language in its file. -/
def fileTable (language : Language) : List Student :=
  (tableRows files root language "students" Student.ofJson?).map (Student.inLanguage language)

/-- The table of a language, out of its file when it is first asked for. -/
def records (language : Language) : StateM LazyCatalog (List Student) := do
  let c ← get
  match c.read.lookup language with
  | some rows => return rows
  | none =>
    let rows := fileTable files root language
    set { c with read := (language, rows) :: c.read }
    return rows

/-- Registers students, without those of an id and name that is registered before. -/
def register (records : List Student) : StateM LazyCatalog Unit :=
  modify fun c => { c with extras := thin Student.sameIdentity c.extras records }

/-- The first row of a table with an id. -/
def findById? (id : Nat) (language : Language) : StateM LazyCatalog (Option Student) := do
  let rows ← records files root language
  return rows.find? (·.id = id)

/-- What a row of a table stands for. -/
def primary (s : Student) : StateM LazyCatalog Student :=
  if s.language = some .cn then return s
  else do
    let row? ← findById? files root s.id .cn
    return row?.getD s

/-- The hits of a needle among the records of a group, behind those found before. -/
def scan (needle : List Char) (shown : Student → StateM LazyCatalog Student) :
    List Student → List Student → StateM LazyCatalog Catalog.Hits
  | found, [] => return .several found
  | found, s :: rest =>
    if Catalog.isExact needle s then do
      let s ← shown s
      return .exact s
    else if Catalog.isPartial needle s then do
      let s ← shown s
      scan needle shown (found ++ [s]) rest
    else scan needle shown found rest

/-- The hits of a needle in the tables of languages, behind those found before. -/
def scanTables (needle : List Char) :
    List Student → List Language → StateM LazyCatalog Catalog.Hits
  | found, [] => return .several found
  | found, language :: rest => do
    let rows ← records files root language
    match ← scan needle (primary files root) found rows with
    | .exact s => return .exact s
    | .several found => scanTables needle found rest

/-- The students that a query finds, repetitions included. -/
def search (query : String) (given : List Student) : StateM LazyCatalog (List Student) := do
  let needle := normalChars query.toList
  let c ← get
  match ← scan needle pure [] (given ++ c.extras) with
  | .exact s => return [s]
  | .several found =>
    let hits ← scanTables files root needle found Language.all
    return hits.students

/-- The students that a query names. -/
def findByName (query : String) (given : List Student) : StateM LazyCatalog (List Student) := do
  let found ← search files root query given
  match found.isEmpty, themedVariant? query with
  | true, some themed =>
    let found ← search files root themed given
    return Catalog.distinct found
  | _, _ => return Catalog.distinct found

/-- The row of the id of a reference in a table, if its name agrees. -/
def rowOf? (ref : StudentRef) (language : Language) : StateM LazyCatalog (Option Student) := do
  let row? ← findById? files root ref.id language
  return row?.filter (·.name = ref.name)

/-- The student of a reference: its row in its language or else in Chinese, or else the one
of its very name that a search for this name finds. -/
def resolve (ref : StudentRef) : StateM LazyCatalog (Option Student) := do
  match ← rowOf? files root ref ref.language with
  | some s => return some s
  | none =>
    match ← rowOf? files root ref .cn with
    | some s => return some s
    | none =>
      let found ← findByName files root ref.name []
      return found.find? (·.name = ref.name)

/-- The student of a reference, looked for among candidates first. -/
def resolveAmong (ref : StudentRef) (given : List Student) :
    StateM LazyCatalog (Option Student) :=
  match given.find? fun s => s.id = ref.id && s.name = ref.name with
  | some s => return some s
  | none => resolve files root ref

end LazyCatalog
end DialogueSheet
