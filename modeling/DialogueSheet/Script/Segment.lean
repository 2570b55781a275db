/-
# Pictures within a line

The mark `[img:n]` stands for the `n`-th picture handed over with the script.  A
mark that counts no picture is left out as if it were not there; text between
pictures is shown without the blanks around it.
-/
import DialogueSheet.Markup.Piece
import DialogueSheet.Number.Decimal
import DialogueSheet.Text.Blank
import DialogueSheet.Text.Digit

namespace DialogueSheet

/-- A part of a line: a text or a picture, counted from 1. -/
inductive Segment where
  | text (text : String)
  | image (index : Nat)
deriving DecidableEq

namespace Segment

/-- Reads a mark at the front of a text: its digits and its length. -/
def readMark? : List Char → Option (List Char × Nat)
  | '[' :: 'i' :: 'm' :: 'g' :: ':' :: rest =>
    let digits := rest.takeWhile Text.isDecimalDigit
    match digits, rest.drop digits.length with
    | [], _ => none
    | _ :: _, ']' :: _ => some (digits, digits.length + 6)
    | _, _ => none
  | _ => none

/-- The picture that the digits of a mark count, of so many. -/
def imageIndex? (imageCount : Nat) (digits : List Char) : Option Nat :=
  if digits.all fun c => (digitValue? c).isSome then
    let n := natOfDigits digits
    if 1 ≤ n ∧ n ≤ imageCount then some n else none
  else none

/-- The segment of the text that is pending, if it is not blank. -/
def flush (pending : List Char) : List Segment :=
  let text := Text.trimChars pending
  if text.isEmpty then [] else [.text (String.ofList text)]

/-- The segments of pieces, with text pending from before them. -/
def ofPieces (imageCount : Nat) : (pending : List Char) → List (Piece (List Char)) → List Segment
  | pending, [] => flush pending
  | pending, .plain chars :: rest => ofPieces imageCount (pending ++ chars) rest
  | pending, .mark digits :: rest =>
    match imageIndex? imageCount digits with
    | some n => flush pending ++ .image n :: ofPieces imageCount [] rest
    | none => ofPieces imageCount pending rest

theorem ofPieces_plain (imageCount : Nat) (pending chars : List Char)
    (rest : List (Piece (List Char))) :
    ofPieces imageCount pending (.plain chars :: rest) =
      ofPieces imageCount (pending ++ chars) rest := by
  rw [ofPieces]

end Segment

/-- The segments of a line when so many pictures are there. -/
def segments (line : String) (imageCount : Nat) : List Segment :=
  Segment.ofPieces imageCount [] (piecesOf Segment.readMark? 0 line.toList)

example : segments "a [img:9]b[img:1]" 1 = [.text "a b", .image 1] := by decide +kernel

end DialogueSheet
