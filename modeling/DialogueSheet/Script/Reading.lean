/-
# Reading scripts

| line | opens |
| --- | --- |
| `/S name text` | a speaker's block |
| `/T text` | a block of the reader |
| `/O option` | a list of choices |
| `/K name text` | a banner |

The letters count in either case.  Any other line goes on with the open block;
blank lines do not count, but every line has its number.  A name must belong to
one student; `name2` is the second of several whom `name` may mean, when `name2`
itself means nobody.  Every fault is reported, and the lines after a command that
cannot open a block are passed by.
-/
import DialogueSheet.Number.Decimal
import DialogueSheet.Script.Block
import DialogueSheet.Text.Quoted

namespace DialogueSheet

/-- What a command opens. -/
inductive Role where
  | speaker
  | counterpart
  | choices
  | banner
deriving DecidableEq, Repr

/-- The role of a letter. -/
def Role.ofLetter? (c : Char) : Option Role :=
  match Text.lowerAscii c with
  | 's' => some .speaker
  | 't' => some .counterpart
  | 'o' => some .choices
  | 'k' => some .banner
  | _ => none

/-- What is wrong with a line. -/
inductive LineFault where
  | noCommand (start : String)
  | noName
  | unknownName (name : String)
  | tooAmbiguous (name : String)
  | ambiguous (name : String) (found : List String)
deriving DecidableEq

/-- What is wrong with a script. -/
inductive ScriptFault where
  | atLine (number : Nat) (fault : LineFault)
  | empty
deriving DecidableEq

namespace LineFault

/-- A name between plain quotation marks. -/
def marked (name : String) : String := "\"" ++ name ++ "\""

/-- Names with their numbers, from 1. -/
def numbered (names : List String) : String :=
  String.intercalate "/" (names.zipIdx.map fun (name, i) => toString (i + 1) ++ "." ++ name)

/-- The wording of a fault. -/
def message : LineFault → String
  | noCommand start => "cannot parse " ++ Text.quoted start ++ " as a command"
  | noName => "missing character name"
  | unknownName name => "no character matches " ++ marked name
  | tooAmbiguous name => marked name ++ " is too ambiguous, use a more precise name"
  | ambiguous name found =>
    marked name ++ " may refer to " ++ numbered found ++ ", use a more precise name or "
      ++ name ++ "+number"

end LineFault

namespace ScriptFault

/-- The wording of a fault. -/
def message : ScriptFault → String
  | atLine number fault => "line " ++ toString number ++ ": " ++ fault.message
  | empty => "script contains no command lines"

end ScriptFault

namespace Script

/-- The number and the characters of every line that is not blank. -/
def numberedLines (script : String) : List (Nat × List Char) :=
  ((Text.cutAt '\n' script.toList).zipIdx 1).filterMap fun (line, number) =>
    let line := Text.trimChars line
    if line.isEmpty then none else some (number, line)

/-- The role and the rest of a command line. -/
def command? : List Char → Option (Role × List Char)
  | '/' :: letter :: rest => (Role.ofLetter? letter).map fun role => (role, Text.trimChars rest)
  | _ => none

/-- The greatest number that a name may end in. -/
def maxIndex : Nat := 18446744073709551615

/-- A name that ends in digits, as what stands before them and their number. -/
def splitIndex? (name : String) : Option (String × Nat) :=
  let reversed := name.toList.reverse
  let digits := (reversed.takeWhile fun c => (digitValue? c).isSome).reverse
  let base := (reversed.drop digits.length).reverse
  let index := natOfDigits digits
  if base.isEmpty ∨ digits.isEmpty ∨ maxIndex < index then none
  else some (String.ofList base, index)

/-- The greatest number of students that an ambiguity lists. -/
def maxListed : Nat := 5

/-- The one student among those found, or the fault of the name. -/
def onlyOne (name : String) : List Student → Except LineFault Student
  | [] => .error (.unknownName name)
  | [s] => .ok s
  | found =>
    if maxListed < found.length then .error (.tooAmbiguous name)
    else .error (.ambiguous name (found.map Student.name))

/-- The students that a name with a number at its end picks. -/
def pick (found : List Student) (index : Nat) : List Student :=
  match index with
  | 0 => found
  | i + 1 =>
    match found[i]? with
    | some s => [s]
    | none => found

/-- The student of a name. -/
def studentOf (catalog : Catalog) (given : List Student) (name : String) :
    Except LineFault Student :=
  let found := catalog.findByName name given
  match found.isEmpty, splitIndex? name with
  | true, some (base, index) => onlyOne base (pick (catalog.findByName base given) index)
  | _, _ => onlyOne name found

/-- A text as lines: none when it is empty. -/
def initialLines (text : List Char) : List String :=
  if text.isEmpty then [] else [String.ofList text]

/-- The block that a command opens. -/
def openBlock (catalog : Catalog) (given : List Student) (role : Role) (rest : List Char) :
    Except LineFault Block :=
  let (name, text) := Text.splitAtBlank rest
  let text := Text.trimChars text
  match role with
  | .counterpart => .ok (.counterpart (initialLines rest))
  | .choices => .ok (.choices [String.ofList rest])
  | .speaker =>
    if name.isEmpty then .error .noName
    else (studentOf catalog given (String.ofList name)).map fun s =>
      .speaker s.ref (initialLines text)
  | .banner =>
    if name.isEmpty then .error .noName
    else (studentOf catalog given (String.ofList name)).map fun s =>
      .banner s.ref (if text.isEmpty then Block.defaultCaption s.name else String.ofList text)

/-- The block that lines go on with. -/
inductive Current where
  | nothing
  | block (block : Block)
  /-- The command could not open a block. -/
  | refused
deriving DecidableEq

/-- What is read so far. -/
structure State where
  current : Current
  blocks : List Block
  faults : List ScriptFault
  hasCommand : Bool
deriving DecidableEq

namespace State

/-- Nothing is read. -/
def start : State := ⟨.nothing, [], [], false⟩

/-- Ends the open block. -/
def close (s : State) : State :=
  match s.current with
  | .block b => { s with current := .nothing, blocks := s.blocks ++ [b] }
  | _ => { s with current := .nothing }

/-- Reports a fault. -/
def report (s : State) (number : Nat) (fault : LineFault) : State :=
  { s with faults := s.faults ++ [.atLine number fault] }

/-- Reads a command. -/
def command (s : State) (number : Nat) (opened : Except LineFault Block) : State :=
  let s := { s.close with hasCommand := true }
  match opened with
  | .ok b => { s with current := .block b }
  | .error fault => { s.report number fault with current := .refused }

/-- Reads a line that is no command. -/
def proceed (s : State) (number : Nat) (line : List Char) : State :=
  match s.current with
  | .block b => { s with current := .block (b.addLine (String.ofList line)) }
  | .refused => s
  | .nothing => s.report number (.noCommand (String.ofList (line.take 2)))

/-- Reads a line. -/
def read (catalog : Catalog) (given : List Student) (s : State) (line : Nat × List Char) : State :=
  match command? line.2 with
  | some (role, rest) => s.command line.1 (openBlock catalog given role rest)
  | none => s.proceed line.1 line.2

/-- The blocks, if nothing is wrong. -/
def finish (s : State) : Except (List ScriptFault) (List Block) :=
  let s := s.close
  if s.faults.isEmpty then
    if s.hasCommand then .ok s.blocks else .error [.empty]
  else .error s.faults

end State

/-- The blocks of a script. -/
def parse (catalog : Catalog) (given : List Student) (script : String) :
    Except (List ScriptFault) (List Block) :=
  ((numberedLines script).foldl (State.read catalog given) State.start).finish

end Script

example : Script.splitIndex? "aru12" = some ("aru", 12) := by decide +kernel

end DialogueSheet
