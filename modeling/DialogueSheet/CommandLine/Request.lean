/-
# The commands

| command | operands | result |
| --- | --- | --- |
| `chat` | a script | a chat, saved as a picture |
| `card` | a student | a card, saved as a picture |
| `find` | a name | the students that the name may mean |
| `sync` | | assets brought up to date |
| `help` | a command | the usage |

The asset root may be named before or after the command; the later one counts.
-/
import DialogueSheet.Card.Panel
import DialogueSheet.CommandLine.Options
import DialogueSheet.Sync.Run

namespace DialogueSheet
namespace CommandLine

/-- What a command line asks for. -/
inductive Request where
  | chat (script : String) (images : List String) (config students watermark : Option String)
    (output : String)
  | card (query : String) (language : Language) (progress : Card.Progress)
    (watermark : Option String) (output : String)
  | find (name : String)
  | sync (options : SyncOptions)

/-- A request and the asset root that it names. -/
structure Invocation where
  assets : Option String
  request : Request

/-- A whole number in decimal digits, with a plus sign or without one, up to `limit`. -/
def count? (limit : Nat) (text : String) : Option Nat :=
  let digits := match text.toList with
    | '+' :: rest => rest
    | chars => chars
  let n := natOfDigits digits
  if !digits.isEmpty && digits.all (digitValue? · |>.isSome) && n ≤ limit then some n else none

/-- A count, which may also be a zero with a minus sign. -/
def signedCount? (limit : Nat) (text : String) : Option Nat :=
  match text.toList with
  | '-' :: rest => if rest.isEmpty || rest.any (· ≠ '0') then none else some 0
  | _ => count? limit text

/-- An option that takes a path. -/
def pathOption (name : String) : OptionRule := { name := name, accepts := (· ≠ "") }

/-- An option that takes a count. -/
def countOption (name : String) (limit : Nat) : OptionRule :=
  { name := name, accepts := fun s => (signedCount? limit s).isSome }

/-- Whether a text is the code of a language. -/
def isLanguage (text : String) : Bool := (Language.ofCode? text).isSome

/-- The option that asks for the usage. -/
def helpOption : OptionRule := { name := "help", letter := some 'h', kind := .stop .help }

/-- The option that names the asset root. -/
def assetsOption : OptionRule := pathOption "assets"

/-- The option that names the file to write. -/
def outputOption : OptionRule := { pathOption "output" with letter := some 'o' }

/-- The greatest number of workers that can be asked for. -/
def maxThreads : Nat := 18446744073709551615

/-- The rule of a command by its name. -/
def ruleOf? : String → Option CommandRule
  | "chat" => some {
      options := [helpOption, assetsOption, outputOption, { pathOption "image" with kind := .many },
        { name := "watermark" }, pathOption "config", pathOption "students"]
      operands := [pathOption "script"]
      required := ["script", "output"] }
  | "card" => some {
      options := [helpOption, assetsOption, outputOption, { name := "lang", accepts := isLanguage },
        { name := "watermark" }, countOption "level" Binary.maxCount, countOption "star" maxByte,
        countOption "bond" Binary.maxCount]
      operands := [{ name := "entity" }]
      required := ["entity", "output"] }
  | "find" => some {
      options := [helpOption, assetsOption]
      operands := [{ name := "name" }]
      required := ["name"] }
  | "sync" => some {
      options := [helpOption, assetsOption,
        { name := "lang", kind := .many, accepts := isLanguage },
        { name := "force", kind := .flag },
        { name := "threads", accepts := fun s => (count? maxThreads s).isSome }] }
  | _ => none

/-- The commands that have a rule, and `help`. -/
def commandNames : List String := ["chat", "card", "find", "sync", "help"]

/-- The rule of the arguments before the command. -/
def topRule : CommandRule where
  options := [helpOption, { name := "version", letter := some 'V', kind := .stop .version },
    assetsOption]
  commands := commandNames

/-- The settled values of a command. -/
abbrev Values := List (String × String)

/-- The values of an option that may be given several times. -/
def Values.all (values : Values) (name : String) : List String :=
  values.filterMap fun (n, v) => if n = name then some v else none

/-- The value of an option, or a default. -/
def Values.get (values : Values) (name default : String) : String :=
  (values.lookup name).getD default

/-- The count that an option gives, or a default. -/
def Values.count (values : Values) (name : String) (default : Nat) : Nat :=
  ((values.lookup name) >>= signedCount? maxThreads).getD default

/-- The request of a command with its values. -/
def Request.ofValues (command : String) (values : Values) : Request :=
  match command with
  | "chat" => .chat (values.get "script" "") (values.all "image") (values.lookup "config")
    (values.lookup "students") (values.lookup "watermark") (values.get "output" "")
  | "card" =>
    let progress : Card.Progress := {}
    .card (values.get "entity" "") ((Language.ofCode? (values.get "lang" "")).getD .cn)
      ⟨values.count "level" progress.level, values.count "star" progress.stars,
        values.count "bond" progress.bond⟩
      (values.lookup "watermark") (values.get "output" "")
  | "find" => .find (values.get "name" "")
  | _ =>
    let languages := (values.all "lang").filterMap Language.ofCode?
    let options : SyncOptions := { force := (values.lookup "force").isSome }
    .sync (if languages.isEmpty then options else { options with languages := languages })

/-- What `help` comes to: the usage of a command, if there is such a command. -/
def helpStop : List String → Stop
  | [] => .help
  | [command] => if commandNames.contains command then .help else .usage
  | _ => .usage

/-- Reads a command line. -/
def Invocation.read (arguments : List String) : Except Stop Invocation := do
  match ← topRule.read (.start topRule) arguments with
  | (_, none) => .error .usage
  | (r, some (command, rest)) =>
    match ruleOf? command with
    | none => .error (helpStop rest)
    | some rule =>
      let values ← rule.values rest
      let top ← r.settle
      let assets := match values.lookup "assets" with
        | some path => some path
        | none => top.given.lookup "assets"
      return ⟨assets, .ofValues command values⟩

end CommandLine
end DialogueSheet
