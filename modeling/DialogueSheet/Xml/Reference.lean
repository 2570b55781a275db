/-
# References

| form | stands for |
| --- | --- |
| `&#n;`, `&#xn;` | the character of a code, or `U+FFFD` when no character has it |
| `&lt;` `&gt;` `&amp;` `&quot;` `&apos;` | a mark of the grammar |
| `&name;` | the text that the document declares under the name |
-/
import DialogueSheet.Number.Decimal
import DialogueSheet.Number.Hexadecimal
import DialogueSheet.Xml.Lexeme

namespace DialogueSheet
namespace Xml

/-- What a reference stands for. -/
inductive Reference where
  | char (c : Char)
  | entity (name : String)
deriving DecidableEq

/-- The number that digits to a base denote; there must be one digit at least. -/
def numberTo (base : Nat) (digits : List Char) : Option Nat :=
  if digits.isEmpty then none
  else some (digits.foldl (fun n c => n * base + (hexValue? c).getD 0) 0)

/-- Codes lie below this number. -/
def codeLimit : Nat := 4294967296

/-- The character that stands for a code without one. -/
def replacement : Char := '\ufffd'

/-- The character of a code, if a document may have it. -/
def charOfCode? (n : Nat) : Option Char :=
  let c := if n.isValidChar then Char.ofNat n else replacement
  if n < codeLimit ∧ isChar c then some c else none

/-- The marks that every document can name. -/
def markNames : List (String × Char) :=
  [("lt", '<'), ("gt", '>'), ("amp", '&'), ("quot", '"'), ("apos", '\x27')]

/-- The reference by a name. -/
def Reference.ofName (name : String) : Reference :=
  match markNames.lookup name with
  | some c => .char c
  | none => .entity name

/-- Reads a code of digits to a base. -/
def readCode (base : Nat) (isDigit : Char → Bool) (s : List Char) :
    Option (Reference × List Char) := do
  let c ← numberTo base (s.takeWhile isDigit) >>= charOfCode?
  return (.char c, s.dropWhile isDigit)

/-- Reads a reference after its ampersand. -/
def readReference (s : List Char) : Option (Reference × List Char) := do
  let (reference, rest) ← match s with
    | '#' :: 'x' :: s => readCode 16 (fun c => (hexValue? c).isSome) s
    | '#' :: s => readCode 10 (fun c => (digitValue? c).isSome) s
    | s => (readName s).map fun (name, rest) => (Reference.ofName name, rest)
  match rest with
  | ';' :: rest => some (reference, rest)
  | _ => none

example : readReference "#x41;b".toList = some (.char 'A', ['b']) := by decide +kernel
example : readReference "#xD800;".toList = some (.char '\ufffd', []) := by decide +kernel
example : readReference "#4294967296;".toList = none := by decide +kernel
example : readReference "amp;".toList = some (.char '&', []) := by decide +kernel

end Xml
end DialogueSheet
