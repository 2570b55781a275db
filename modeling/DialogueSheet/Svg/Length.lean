/-
# Numbers and lengths

A number is an optional sign, digits with or without a point, and an optional
power of ten; an `e` before `m` or `x` begins a unit instead.  A length is a number
with a unit right behind it, or without one:

| unit | pixels |
| --- | --- |
| none, `px` | 1 |
| `em`, `ex` | the font size, half of it |
| `in`, `cm`, `mm`, `pt`, `pc` | 96 to the inch of 2.54 cm, 25.4 mm, 72 pt, 6 pc |
| `%` | depends on what the length is for |
-/
import DialogueSheet.Number.Decimal
import DialogueSheet.Xml.Character

namespace DialogueSheet
namespace Svg

/-- The units of lengths. -/
inductive LengthUnit where
  | pixel
  | em
  | ex
  | inch
  | centimetre
  | millimetre
  | point
  | pica
  | percent
deriving DecidableEq

/-- A number of a unit. -/
structure Length where
  number : Binary64
  unit : LengthUnit
deriving DecidableEq

/-- Reads the power of ten of a number, which may be missing: its text and the rest. -/
def readExponent : List Char → Option (List Char × List Char)
  | [] => some ([], [])
  | e :: rest =>
    if e = 'e' ∨ e = 'E' then
      match rest with
      | [] => none
      | c :: after =>
        if c = 'm' ∨ c = 'x' then some ([], e :: rest)
        else if c = '+' ∨ c = '-' then
          some (e :: c :: after.takeWhile Char.isDigit, after.dropWhile Char.isDigit)
        else if c.isDigit then
          some (e :: rest.takeWhile Char.isDigit, rest.dropWhile Char.isDigit)
        else none
    else some ([], e :: rest)

/-- Splits the sign off a number. -/
def splitSign : List Char → List Char × List Char
  | '+' :: rest => (['+'], rest)
  | '-' :: rest => (['-'], rest)
  | s => ([], s)

/-- Reads the text of a number. -/
def readNumberText (s : List Char) : Option (List Char × List Char) := do
  let (sign, s) := splitSign s
  let whole := s.takeWhile Char.isDigit
  let s := s.dropWhile Char.isDigit
  let (fraction, s) := match s with
    | '.' :: rest => ('.' :: rest.takeWhile Char.isDigit, rest.dropWhile Char.isDigit)
    | s => ([], s)
  let (power, s) ← readExponent s
  if whole.isEmpty && fraction.isEmpty then none
  else return (sign ++ whole ++ fraction ++ power, s)

/-- Reads a finite number after blanks. -/
def readNumber (s : List Char) : Option (Binary64 × List Char) := do
  let (text, rest) ← readNumberText (Xml.skipSpace s)
  match (Binary.readPlain (String.ofList text) : Option Binary64) with
  | some (.finite negative m e) => some (.finite negative m e, rest)
  | _ => none

/-- The units of two letters. -/
def unitNames : List (String × LengthUnit) := [
  ("em", .em), ("ex", .ex), ("px", .pixel), ("in", .inch), ("cm", .centimetre),
  ("mm", .millimetre), ("pt", .point), ("pc", .pica)]

/-- Reads a unit, which may be missing. -/
def readUnit (s : List Char) : LengthUnit × List Char :=
  match s with
  | '%' :: rest => (.percent, rest)
  | s =>
    match unitNames.lookup (String.ofList (s.take 2)) with
    | some unit => (unit, s.drop 2)
    | none => (.pixel, s)

/-- Reads a length. -/
def readLength (s : List Char) : Option (Length × List Char) :=
  (readNumber s).map fun (number, rest) =>
    let (unit, rest) := readUnit rest
    (⟨number, unit⟩, rest)

/-- The length that a whole text denotes. -/
def Length.ofText? (text : String) : Option Length :=
  match readLength text.toList with
  | some (l, []) => some l
  | _ => none

/-- The pixels of an inch. -/
def pixelsPerInch : Binary32 := 96

/-- The pixels of a length at a font size, of which a percentage is taken. -/
def Length.pixels (fontSize : Binary32) (l : Length) : Binary32 :=
  let n := l.number.toSingle
  match l.unit with
  | .pixel => n
  | .em => n * fontSize
  | .ex => n * fontSize / 2
  | .inch => n * pixelsPerInch
  | .centimetre => n * pixelsPerInch / 2.54
  | .millimetre => n * pixelsPerInch / 25.4
  | .point => n * pixelsPerInch / 72
  | .pica => n * pixelsPerInch / 6
  | .percent => n * fontSize * 0.01

example : (Length.ofText? "1.5em").map (·.pixels 12) = some 18 := by decide +kernel
example : Length.ofText? "1e2em" = some ⟨100, .em⟩ ∧ Length.ofText? "5e" = none
    ∧ Length.ofText? "0 " = none := by decide +kernel

end Svg
end DialogueSheet
