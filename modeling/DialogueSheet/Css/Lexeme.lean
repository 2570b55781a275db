/-
# The small parts of style sheets

| part | form |
| --- | --- |
| identifier | a hyphen or none, a start character, then name characters |
| string | up to the same quotation mark, unless a backslash stands right before it |
| term | a color, a number with a unit, a string, a comma, a word, a call |

A reader that fails tells where it stopped, because reading goes on from there.
-/
import DialogueSheet.Number.Decimal
import DialogueSheet.Number.Hexadecimal

namespace DialogueSheet
namespace Css

/-- What a reader comes to: a value and the rest of the input, or where it stopped. -/
abbrev Reader (α : Type) := List Char → Except (List Char) (α × List Char)

/-- Blanks of style sheets. -/
def isSpace (c : Char) : Bool :=
  c == ' ' || c == '\t' || c == '\n' || c == '\r' || c == '\x0c'

/-- The input from its first character that is no blank. -/
def skipSpace (s : List Char) : List Char := s.dropWhile isSpace

/-- The characters that a name may start with. -/
def isNameStart (c : Char) : Bool := c.isAlpha || c == '_' || 237 < c.toNat

/-- The characters that a name may have. -/
def isNameChar (c : Char) : Bool := isNameStart c || c.isDigit || c == '-'

/-- Whether a character is a digit of a hexadecimal number. -/
def isHexDigit (c : Char) : Bool := (hexValue? c).isSome

/-- The input after the first `*/`. -/
def afterComment? : List Char → Option (List Char)
  | '*' :: '/' :: rest => some rest
  | _ :: rest => afterComment? rest
  | [] => none

/-- The input after the blanks and comments at its front, or after the rest of a comment
before them; an unclosed comment takes all of it. -/
def skipBlankFrom : Bool → List Char → Option (List Char)
  | true, '*' :: '/' :: rest => skipBlankFrom false rest
  | true, _ :: rest => skipBlankFrom true rest
  | true, [] => none
  | false, '/' :: '*' :: rest => skipBlankFrom true rest
  | false, c :: rest => if isSpace c then skipBlankFrom false rest else some (c :: rest)
  | false, [] => some []

/-- The input after the blanks and comments at its front. -/
def skipBlank (s : List Char) : Except (List Char) (List Char) :=
  match skipBlankFrom false s with
  | some rest => .ok rest
  | none => .error []

/-- Reads a name without a hyphen in front, after the hyphen that is read already. -/
def readName (before : List Char) : Reader String
  | [] => if before.isEmpty then .error [] else .ok (String.ofList before, [])
  | c :: rest =>
    if isNameStart c then
      .ok (String.ofList (before ++ c :: rest.takeWhile isNameChar), rest.dropWhile isNameChar)
    else .error (c :: rest)

/-- Reads an identifier. -/
def readIdent : Reader String
  | '-' :: rest => readName ['-'] rest
  | s => readName [] s

/-- Splits a string at its closing mark; `last` is the character before. -/
def readStringAfter (quote : Char) : Char → Reader (List Char)
  | _, [] => .error []
  | last, c :: rest =>
    if c = quote ∧ last ≠ '\\' then .ok ([], rest)
    else (readStringAfter quote c rest).map fun (text, after) => (c :: text, after)

/-- Reads a string. -/
def readString : Reader (List Char)
  | '"' :: rest => readStringAfter '"' '"' rest
  | '\x27' :: rest => readStringAfter '\x27' '\x27' rest
  | s => .error s

/-- Reads one character. -/
def readMark (mark : Char) : List Char → Except (List Char) (List Char)
  | [] => .error []
  | c :: rest => if c = mark then .ok rest else .error (c :: rest)

/-- The input where a reader stands, whether or not it failed. -/
def afterReader {α : Type} : Except (List Char) (α × List Char) → List Char
  | .ok (_, rest) => rest
  | .error rest => rest

/-- The input after a number without its sign or first digit: digits, a fraction, a unit. -/
def skipNumber (s : List Char) : List Char :=
  let s := s.dropWhile Char.isDigit
  let s := match s with
    | '.' :: rest => rest.dropWhile Char.isDigit
    | s => s
  match s with
  | '%' :: rest => rest
  | s => afterReader (readIdent s)

/-- Skips a word and the arguments behind it. -/
def skipWord (s : List Char) : Except (List Char) (List Char) := do
  let (_, rest) ← readIdent s
  match rest with
  | '(' :: _ => readMark ')' (rest.dropWhile (· ≠ ')'))
  | _ => .ok rest

/-- Skips a term of a value. -/
def skipTerm : List Char → Except (List Char) (List Char)
  | [] => .error []
  | c :: rest =>
    if c = '#' then
      match readIdent rest with
      | .ok (_, after) => .ok after
      | .error stopped => .ok (stopped.dropWhile isHexDigit)
    else if c = '+' ∨ c = '-' ∨ c = '.' ∨ c.isDigit then .ok (skipNumber rest)
    else if c = '"' ∨ c = '\x27' then (readString (c :: rest)).map (·.2)
    else if c = ',' then .ok rest
    else skipWord (c :: rest)

example : (skipTerm "1.5em 2".toList).toOption = some [' ', '2'] := by decide +kernel
example : (skipTerm "rgb(1, 2);".toList).toOption = some [';'] := by decide +kernel

end Css
end DialogueSheet
