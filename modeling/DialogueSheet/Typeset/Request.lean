/-
# Texts to be set

A request names the runs of a text with their colors, the size of the letters,
the width at which lines break, the side lines lean to, and the face.
-/
import DialogueSheet.Assets.Cache

namespace DialogueSheet

/-- A run of text in one color. -/
structure Span where
  text : String
  color : Color
deriving DecidableEq

/-- How lines stand in the width of the text. -/
inductive Align where
  | left
  | center
deriving DecidableEq, Repr

/-- The face of the letters. -/
inductive Face where
  | body
  | heading
deriving DecidableEq, Repr

/-- A text to be set. -/
structure TextRequest where
  spans : List Span
  size : Binary32
  maxWidth : Nat
  align : Align
  face : Face
deriving DecidableEq

namespace TextRequest

/-- The width of lines when none is asked for. -/
def standardWidth : Nat := 720

/-- A text in several colors. -/
def rich (spans : List Span) (size : Binary32) : TextRequest :=
  ⟨spans, size, standardWidth, .left, .body⟩

/-- A text in one color. -/
def plain (text : String) (size : Binary32) (color : Color) : TextRequest :=
  rich [⟨text, color⟩] size

/-- The request with another width, at least 1. -/
def withWidth (r : TextRequest) (width : Nat) : TextRequest := { r with maxWidth := max width 1 }

/-- The request with its lines centered. -/
def centered (r : TextRequest) : TextRequest := { r with align := .center }

/-- The request in the heading face. -/
def inHeading (r : TextRequest) : TextRequest := { r with face := .heading }

/-- The text without its colors. -/
def plainText (r : TextRequest) : String := String.join (r.spans.map Span.text)

end TextRequest

/-- A way to measure texts: the size of the box that a request fills. -/
abbrev TextMeasure := TextRequest → Except Failure Size

end DialogueSheet
