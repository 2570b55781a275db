/-
# Texts set in cells

Without a font every character fills a cell: an ASCII character is `0.55` times
the size wide, any other as wide as the size, and a line is `1.3` times the size
high, each rounded up.  A line breaks at a line feed and before a character that
would pass the greatest width, unless the line is still empty.

A cell that is not blank is painted from one fifth to nine tenths of its line,
with one pixel left free on either side.
-/
import DialogueSheet.Typeset.Request

namespace DialogueSheet

/-- A character with its color. -/
structure Glyph where
  char : Char
  color : Color
deriving DecidableEq

/-- A glyph with its place in the line. -/
structure Cell where
  glyph : Glyph
  left : Nat
  width : Nat
deriving DecidableEq

namespace CellText

/-- The width of a character. -/
def advance (size : Binary32) (c : Char) : Nat :=
  if c.toNat < 128 then (size * 0.55).ceil.toCount else size.ceil.toCount

/-- The height of a line. -/
def lineHeight (size : Binary32) : Nat := (size * 1.3).ceil.toCount

/-- The glyphs of a request in their order. -/
def glyphs (r : TextRequest) : List Glyph :=
  r.spans.flatMap fun span => span.text.toList.map fun c => ⟨c, span.color⟩

/-- Puts a cell in front of the first line. -/
def pushCell (cell : Cell) : List (List Cell) → List (List Cell)
  | [] => [[cell]]
  | line :: lines => (cell :: line) :: lines

/-- The lines of the glyphs that follow a line which is `used` wide so far; the
first of them goes on with that line. -/
def breakFrom (widthOf : Char → Nat) (maxWidth : Nat) :
    (isEmpty : Bool) → (used : Nat) → List Glyph → List (List Cell)
  | _, _, [] => [[]]
  | isEmpty, used, g :: rest =>
    if g.char = '\n' then [] :: breakFrom widthOf maxWidth true 0 rest
    else if !isEmpty && maxWidth < used + widthOf g.char then
      [] :: pushCell ⟨g, 0, widthOf g.char⟩
        (breakFrom widthOf maxWidth false (widthOf g.char) rest)
    else
      pushCell ⟨g, used, widthOf g.char⟩
        (breakFrom widthOf maxWidth false (used + widthOf g.char) rest)

/-- The lines of a request. -/
def lines (r : TextRequest) : List (List Cell) :=
  breakFrom (advance r.size) r.maxWidth true 0 (glyphs r)

/-- The width of a line: the right end of its last cell. -/
def lineWidth (line : List Cell) : Nat :=
  match line.getLast? with
  | some cell => cell.left + cell.width
  | none => 0

/-- The width of the widest line. -/
def textWidth (lines : List (List Cell)) : Nat := (lines.map lineWidth).foldl max 0

/-- The size of the text; a text without width is 1 by 1. -/
def textSize (r : TextRequest) : Size :=
  let lines := lines r
  let width := textWidth lines
  if width = 0 then ⟨1, 1⟩ else ⟨width, lineHeight r.size * lines.length⟩

/-- Measures a text, if a pixel map of its size can be allocated. -/
def measure : TextMeasure := fun r =>
  let size := textSize r
  if size.allocatable then .ok size else .error (.allocation size)

/-- Paints every pixel of a box at full coverage. -/
def paintCell (p : Pixmap) (left right top bottom : Nat) (color : Color) : Pixmap :=
  (List.range (bottom - top)).foldl (fun p y =>
    (List.range (right - left)).foldl (fun p x =>
      p.blend ((left + x : Nat) : Int) ((top + y : Nat) : Int) color 255) p) p

/-- Paints a line that starts at `indent`, at the given row of lines. -/
def paintLine (height row indent : Nat) (p : Pixmap) (line : List Cell) : Pixmap :=
  line.foldl (fun p cell =>
    if Text.isBlank cell.glyph.char then p
    else
      paintCell p (indent + cell.left + 1) (indent + cell.left + (cell.width - 1))
        (row * height + height / 5) (row * height + height * 9 / 10) cell.glyph.color) p

/-- The free space to the left of a line. -/
def indent (align : Align) (width lineWidth : Nat) : Nat :=
  match align with
  | .left => 0
  | .center => (width - lineWidth) / 2

/-- Sets a text, if a pixel map of its size can be allocated. -/
def paint (r : TextRequest) : Except Failure Pixmap := do
  let size ← measure r
  let lines := lines r
  let width := textWidth lines
  if width = 0 then return Pixmap.blank size
  return lines.zipIdx.foldl (fun p (line, row) =>
    paintLine (lineHeight r.size) row (indent r.align width (lineWidth line)) p line)
    (Pixmap.blank size)

end CellText

example : CellText.textSize (.plain "ab" 20 Color.black) = ⟨22, 26⟩ := by decide +kernel
example : CellText.textSize ((TextRequest.plain "abcde" 20 Color.black).withWidth 44) = ⟨44, 52⟩ :=
  by decide +kernel

end DialogueSheet
