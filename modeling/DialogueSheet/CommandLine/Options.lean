/-
# Options and operands

Arguments are read from left to right under a rule that lists the options and the
operands of a command.

| form | read as |
| --- | --- |
| `--name value`, `--name=value` | an option by its name |
| `-l value`, `-lvalue`, `-l=value` | an option by its letter |
| `--` | nothing but operands follow |
| `-` and anything without a hyphen in front | an operand, or the value of the option before |

A value is examined when the next option or operand is met, and what is wrong
first stops the reading.  A letter that stops the reading does so whatever
follows it.
-/

namespace DialogueSheet
namespace CommandLine

/-- Why the reading of arguments stops early. -/
inductive Stop where
  | usage
  | help
  | version
deriving DecidableEq, Repr

/-- What becomes of an option. -/
inductive OptionKind where
  /-- Given or not, without a value. -/
  | flag
  /-- Given at most once, with a value. -/
  | single
  /-- Given any number of times, each time with a value. -/
  | many
  /-- Stops the reading. -/
  | stop (reason : Stop)
deriving DecidableEq, Repr

/-- The rule of an option or of an operand. -/
structure OptionRule where
  name : String
  letter : Option Char := none
  kind : OptionKind := .single
  /-- Whether a value is acceptable. -/
  accepts : String → Bool := fun _ => true

/-- The rule of a command. -/
structure CommandRule where
  options : List OptionRule
  operands : List OptionRule := []
  /-- The names of the commands below this one. -/
  commands : List String := []
  /-- The options and operands that must be given. -/
  required : List String := []

/-- What an argument looks like. -/
inductive Argument where
  | endOfOptions
  | named (name : String) (value : Option String)
  | lettered (letter : Char) (value : Option String)
  | plain (text : String)
deriving DecidableEq, Repr

namespace Argument

/-- A name with the value behind an equals sign, if there is one. -/
def ofNamed (body : List Char) : Argument :=
  let name := String.ofList (body.takeWhile (· ≠ '='))
  match body.dropWhile (· ≠ '=') with
  | [] => named name none
  | _ :: value => named name (some (String.ofList value))

/-- The value that follows a letter at once. -/
def attached? : List Char → Option String
  | [] => none
  | '=' :: value => some (String.ofList value)
  | value => some (String.ofList value)

/-- The look of an argument. -/
def ofText (text : String) : Argument :=
  match text.toList with
  | ['-', '-'] => endOfOptions
  | '-' :: '-' :: body => ofNamed body
  | '-' :: letter :: rest => lettered letter (attached? rest)
  | _ => plain text

end Argument

/-- What is read so far. -/
structure Reading where
  /-- The values that are settled, in their order. -/
  given : List (String × String)
  /-- The last option or operand, with its value if that is there. -/
  pending : Option (OptionRule × Option String)
  /-- The operands that are still to come. -/
  operands : List OptionRule

namespace Reading

/-- Nothing is read. -/
def start (rule : CommandRule) : Reading := ⟨[], none, rule.operands⟩

/-- Examines the pending value: it must be there, be acceptable, and be the only one
of an option that is given once. -/
def settle (r : Reading) : Except Stop Reading :=
  match r.pending with
  | none => .ok r
  | some (rule, value?) =>
    match value? with
    | none => .error .usage
    | some value =>
      let repeated := rule.kind ≠ .many && (r.given.lookup rule.name).isSome
      if repeated || !rule.accepts value then .error .usage
      else .ok { r with given := r.given ++ [(rule.name, value)], pending := none }

/-- The value of a flag. -/
def flagValue : String := "true"

/-- Reads an option. -/
def takeOption (r : Reading) (rule : OptionRule) (value : Option String) :
    Except Stop Reading := do
  let r ← r.settle
  match rule.kind, value with
  | .flag, none => settle { r with pending := some (rule, some flagValue) }
  | .stop reason, none => .error reason
  | .flag, some _ | .stop _, some _ => .error .usage
  | .single, none | .many, none => .ok { r with pending := some (rule, none) }
  | .single, some v | .many, some v => settle { r with pending := some (rule, some v) }

/-- Reads an option by its letter; what follows the letter of a stop is not read. -/
def takeLettered (r : Reading) (rule : OptionRule) (value : Option String) :
    Except Stop Reading :=
  match rule.kind with
  | .stop _ => r.takeOption rule none
  | _ => r.takeOption rule value

/-- Reads an operand. -/
def takeOperand (r : Reading) (text : String) : Except Stop Reading := do
  let r ← r.settle
  match r.operands with
  | [] => .error .usage
  | rule :: rest => .ok { r with pending := some (rule, some text), operands := rest }

/-- Whether the last option still lacks its value. -/
def isWaiting (r : Reading) : Bool := r.pending.any fun (_, value) => value.isNone

/-- Gives the last option its value. -/
def fill (r : Reading) (text : String) : Reading :=
  { r with pending := r.pending.map fun (rule, _) => (rule, some text) }

/-- Reads operands to the end. -/
def takeOperands : Reading → List String → Except Stop Reading
  | r, [] => .ok r
  | r, text :: rest => do
    let r ← r.takeOperand text
    takeOperands r rest

end Reading

/-- A command below the one that was read, with its arguments. -/
abbrev Below := Option (String × List String)

namespace CommandRule

/-- The option of a name. -/
def named? (rule : CommandRule) (name : String) : Option OptionRule :=
  rule.options.find? (·.name = name)

/-- The option of a letter. -/
def lettered? (rule : CommandRule) (letter : Char) : Option OptionRule :=
  rule.options.find? (·.letter = some letter)

/-- Reads arguments up to a command below this one. -/
def read (rule : CommandRule) : Reading → List String → Except Stop (Reading × Below)
  | r, [] => .ok (r, none)
  | r, text :: rest =>
    match Argument.ofText text with
    | .endOfOptions => (r.takeOperands rest).map (·, none)
    | .named name value =>
      match rule.named? name with
      | none => .error .usage
      | some option => do
        let r ← r.takeOption option value
        read rule r rest
    | .lettered letter value =>
      match rule.lettered? letter with
      | none => .error .usage
      | some option => do
        let r ← r.takeLettered option value
        read rule r rest
    | .plain text =>
      if r.isWaiting then read rule (r.fill text) rest
      else if rule.commands.contains text then .ok (r, some (text, rest))
      else do
        let r ← r.takeOperand text
        read rule r rest

/-- The values given to a command that has no command below it. -/
def values (rule : CommandRule) (arguments : List String) :
    Except Stop (List (String × String)) := do
  let (r, _) ← rule.read (.start rule) arguments
  let r ← r.settle
  if rule.required.all fun name => (r.given.lookup name).isSome then .ok r.given
  else .error .usage

end CommandRule

example : Argument.ofText "--level=3" = .named "level" (some "3") := by decide +kernel
example : Argument.ofText "-oa.png" = .lettered 'o' (some "a.png") := by decide +kernel
example : Argument.ofText "-" = .plain "-" := by decide +kernel

end CommandLine
end DialogueSheet
