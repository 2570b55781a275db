/-
# Placing primitives down a canvas

A flow has a cursor that only moves down and a list of primitives in the order
in which they are painted.  Nothing may be placed above the cursor, so what was
placed before the cursor moved never meets what comes after.  The cursor stops
at the greatest 32-bit count.
-/
import DialogueSheet.Raster.Shape
import DialogueSheet.Typeset.Request

namespace DialogueSheet

/-- What a primitive shows. -/
inductive Content where
  | shape (shape : Shape)
  | text (request : TextRequest) (size : Size)
  | picture (picture : Picture)
  | pixels (pixmap : Pixmap)

/-- The size of what is shown. -/
def Content.size : Content → Size
  | .shape s => s.size
  | .text _ size => size
  | .picture p => p.size
  | .pixels p => p.size

/-- Something placed at an offset. -/
structure Primitive where
  content : Content
  left : Int
  top : Nat

/-- A text with the size that was measured for it. -/
structure SetText where
  request : TextRequest
  size : Size

namespace Primitive

/-- A shape at an offset. -/
def ofShape (s : Shape) (left : Int) (top : Nat) : Primitive := ⟨.shape s, left, top⟩

/-- A text at an offset. -/
def ofText (t : SetText) (left : Int) (top : Nat) : Primitive :=
  ⟨.text t.request t.size, left, top⟩

/-- A picture at an offset. -/
def ofPicture (p : Picture) (left : Int) (top : Nat) : Primitive := ⟨.picture p, left, top⟩

/-- The lower end of a primitive. -/
def bottom (p : Primitive) : Nat := p.top + p.content.size.height

/-- The primitive so much lower. -/
def lowered (offset : Nat) (p : Primitive) : Primitive := { p with top := p.top + offset }

end Primitive

/-- Primitives with tops of their own, and the height that they take. -/
structure Strip where
  primitives : List Primitive
  height : Nat

namespace Strip

/-- Free space. -/
def gap (height : Nat) : Strip := ⟨[], height⟩

/-- The strip with a row of so much height at its end. -/
def grown (s : Strip) (row : List Primitive) (height : Nat) : Strip :=
  ⟨s.primitives ++ row, s.height + height⟩

end Strip

/-- A cursor and the primitives placed so far. -/
structure Flow where
  width : Nat
  cursor : Nat
  primitives : List Primitive

namespace Flow

/-- A flow that starts at an offset. -/
def start (width offset : Nat) : Flow := ⟨width, offset, []⟩

/-- Moves the cursor down. -/
def advance (f : Flow) (height : Nat) : Flow :=
  { f with cursor := min (f.cursor + height) Binary.maxCount }

/-- Moves the cursor down until the row that began at `rowStart` is `least` high. -/
def padRow (f : Flow) (rowStart least : Nat) : Flow :=
  let used := f.cursor - rowStart
  if used < least then f.advance (least - used) else f

/-- Places primitives from back to front, all of them or, when one starts above
the cursor, none: then the flow stays as it is. -/
def place (f : Flow) (batch : List Primitive) : Except Failure Unit × Flow :=
  match batch.find? (·.top < f.cursor) with
  | some bad => (.error (.layout (.aboveCursor bad.top f.cursor)), f)
  | none => (.ok (), { f with primitives := f.primitives ++ batch })

/-- Places primitives in a layout that stops when they are refused. -/
def put (f : Flow) (batch : List Primitive) : Except Failure Flow :=
  let (result, placed) := f.place batch
  result.map fun () => placed

end Flow

/-- The primitives of a finished canvas, in paint order, on a background. -/
structure Drawing where
  size : Size
  background : Color
  primitives : List Primitive

namespace Flow

/-- The greatest offset of a primitive on a canvas. -/
def maxOffset : Nat := 2147483647

/-- The failure that painting a primitive comes to, if it fails. -/
def paintFailure? (p : Primitive) : Option Failure :=
  if maxOffset < p.top then some (.layout (.outOfRange p.top))
  else
    match p.content with
    | .shape s => if s.drawnSize.allocatable then none else some (.allocation s.drawnSize)
    | _ => none

/-- The size of the canvas: down to the cursor, but of a least height. -/
def canvasSize (f : Flow) (minHeight : Nat) : Size := ⟨f.width, max (max f.cursor minHeight) 1⟩

/-- The finished drawing, if the canvas can be allocated and everything painted. -/
def finish (f : Flow) (background : Color) (minHeight : Nat) : Except Failure Drawing :=
  let size := f.canvasSize minHeight
  if size.allocatable then
    match f.primitives.findSome? paintFailure? with
    | some failure => .error failure
    | none => .ok ⟨size, background, f.primitives⟩
  else .error (.allocation size)

end Flow
end DialogueSheet
