/-
# Running a command

A command reads files and either fails with a message or has an effect: it prints
a text or saves a drawing.  Files are read in the order of their use, so of two
that are missing the first one is reported.
-/
import DialogueSheet.Card.Layout
import DialogueSheet.Catalog.Lazy
import DialogueSheet.Chat.Layout
import DialogueSheet.CommandLine.Request
import DialogueSheet.Script.Reading

namespace DialogueSheet
namespace CommandLine

/-- What a command does in the end. -/
inductive Effect where
  | print (text : String)
  | save (path : String) (drawing : Drawing)

/-- What a command comes to, and the files after it. -/
structure Performance where
  files : Files
  effect : Except String Effect

/-- A content that must be there, or a message. -/
def needed {α : Type} (content : Option α) (message : String) : Except String α :=
  match content with
  | some a => .ok a
  | none => .error message

/-- A failure by its message. -/
def worded {α : Type} (r : Except Failure α) : Except String α := r.mapError Failure.message

/-- The students of a file. -/
def readStudents (files : Files) (path : String) : Except String (List Student) := do
  let text ← needed (files.readText? path) ("Failed to read " ++ path)
  let json ← needed (Json.parse? text) ("Malformed " ++ path)
  needed (Json.rowsOf? Student.ofJson? json) (Failure.message .data)

/-- The settings of a file. -/
def readConfig (K : Codec) (files : Files) (path : String) : Except String ChatConfig :=
  worded ((ChatConfig.load K files path).map (·.1))

/-- The blocks of a script. -/
def readBlocks (catalog : Catalog) (given : List Student) (script : String) :
    Except String (List Block) :=
  (Script.parse catalog given script).mapError fun faults =>
    Failure.message (.script (faults.map ScriptFault.message))

/-- Draws a chat. -/
def drawChat (K : Codec) (files : Files) (root : AssetRoot) (script : String)
    (images : List String) (config students watermark : Option String) :
    Except String Drawing := do
  let source ← needed (files.readText? script) ("Failed to read script " ++ script)
  let contents ← images.mapM fun path =>
    needed (files.read? path) ("Failed to read image " ++ path)
  let config ← match config with
    | some path => readConfig K files path
    | none => .ok ChatConfig.standard
  let given ← match students with
    | some path => readStudents files path
    | none => .ok []
  let resources := Resources.load K files root
  let blocks ← readBlocks resources.catalog given source
  worded (Chat.render K resources config given contents blocks watermark)

/-- The student that a query means: the one with an id, or the only one of a name. -/
def studentOf (catalog : Catalog) (query : String) : Except String Student :=
  match count? Binary.maxCount query with
  | some id =>
    needed (catalog.findById? id .cn) ("No character with id " ++ toString id)
  | none =>
    match catalog.findByName query [] with
    | [] => .error ("No character matches " ++ Text.quoted query)
    | [student] => .ok student
    | students => .error (Text.quoted query ++ " may refer to "
        ++ String.intercalate ", " (students.map Student.name))

/-- Draws the card of a student. -/
def drawCard (K : Codec) (files : Files) (root : AssetRoot) (query : String)
    (language : Language) (progress : Card.Progress) (watermark : Option String) :
    Except String Drawing := do
  let resources := Resources.load K files root
  let student ← studentOf resources.catalog query
  worded (Card.render resources progress student language watermark)

/-- The line about a student. -/
def studentLine (s : Student) : String :=
  toString s.id ++ "\t" ++ s.name ++ "\t" ++ s.school ++ "\n"

/-- The lines about the students that a name may mean. -/
def foundText (files : Files) (root : AssetRoot) (name : String) : String :=
  let (found, _) := LazyCatalog.findByName files root name [] .start
  String.join (found.map studentLine)

/-- The message about a report, if downloads failed. -/
def reportFault? (report : SyncReport) : Option String :=
  if report.failed.isEmpty then none
  else some (toString report.failed.length ++ " downloads failed")

/-- Brings the assets up to date. -/
def update {σ : Type} (K : Codec) (remote : Remote σ) (state : σ) (files : Files)
    (root : AssetRoot) (options : SyncOptions) : Performance :=
  let t := Sync.run K remote root options files state
  ⟨t.files, match t.result with
    | .error e => .error e.message
    | .ok report =>
      match reportFault? report with
      | some message => .error message
      | none => .ok (.print "")⟩

/-- Performs a request. -/
def Request.perform {σ : Type} (K : Codec) (remote : Remote σ) (state : σ) (files : Files)
    (root : AssetRoot) : Request → Performance
  | .chat script images config students watermark output =>
    ⟨files, (drawChat K files root script images config students watermark).map (.save output)⟩
  | .card query language progress watermark output =>
    ⟨files, (drawCard K files root query language progress watermark).map (.save output)⟩
  | .find name => ⟨files, .ok (.print (foundText files root name))⟩
  | .sync options => update K remote state files root options

/-- The asset root of a command line: the one it names, else that of the environment
unless it is empty, else the standard one. -/
def assetRoot (named environment : Option String) : AssetRoot :=
  match named, environment.filter (· ≠ "") with
  | some path, _ => ⟨path⟩
  | none, some path => ⟨path⟩
  | none, none => .standard

/-- The line about the version. -/
def versionLine : String := "momotalk 0.1.0\n"

/-- The message about a file that cannot be written. -/
def writeFault (path : String) : String := "Failed to write " ++ path

/-- The result of a command line. -/
structure Result where
  code : Nat
  output : String
  /-- The message of a failure. -/
  fault : Option String
  files : Files

namespace Result

/-- The result of a command line whose reading stops. -/
def ofStop (files : Files) : Stop → Result
  | .usage => ⟨2, "", none, files⟩
  | .help => ⟨0, "", none, files⟩
  | .version => ⟨0, versionLine, none, files⟩

/-- The result of a request: drawings are saved as PNG files. -/
def ofPerformance (png : Drawing → FileContent) (p : Performance) : Result :=
  match p.effect with
  | .error message => ⟨1, "", some message, p.files⟩
  | .ok (.print text) => ⟨0, text, none, p.files⟩
  | .ok (.save path drawing) =>
    match p.files.write? path (png drawing) with
    | some files => ⟨0, "", none, files⟩
    | none => ⟨1, "", some (writeFault path), p.files⟩

end Result

/-- Runs a command line. -/
def run {σ : Type} (K : Codec) (png : Drawing → FileContent) (remote : Remote σ) (state : σ)
    (files : Files) (environment : Option String) (arguments : List String) : Result :=
  match Invocation.read arguments with
  | .error stop => .ofStop files stop
  | .ok invocation =>
    .ofPerformance png (invocation.request.perform K remote state files
      (assetRoot invocation.assets environment))

end CommandLine
end DialogueSheet
