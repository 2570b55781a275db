/-
# Painting by a renderer

Reading vector markup, drawing it and laying one pixel map on another are left to a renderer; so
are the pixels of pictures.  Markup is drawn as large as a box lets it be, in the middle of the
box.  A canvas is painted from back to front and stops at the first primitive that cannot be
painted.
-/
import DialogueSheet.Layout.Flow
import DialogueSheet.Raster.Image
import DialogueSheet.Typeset.Cells

namespace DialogueSheet

/-- What paints a canvas. -/
structure Renderer where
  /-- Vector markup that has been read. -/
  Tree : Type
  /-- Reads vector markup. -/
  parse? : String → Option Tree
  /-- The sides of a drawing. -/
  size : Tree → Binary32 × Binary32
  /-- Draws on a pixel map: scaled, then moved. -/
  draw : Tree → (scale dx dy : Binary32) → Pixmap → Pixmap
  /-- Lays a pixel map on a canvas at an offset. -/
  overlay : (canvas source : Pixmap) → (left : Int) → (top : Nat) → Pixmap
  /-- The pixels of a picture. -/
  picture : Picture → Pixmap

/-- The distance from 1 to the next 32-bit number. -/
def leastSide : Binary32 := 1 / 8388608

namespace Renderer

variable (R : Renderer)

/-- Markup in the middle of a box, scaled to fit into it. -/
def render (markup : String) (box : Size) : Except Failure Pixmap :=
  match R.parse? markup with
  | none => .error .vector
  | some tree => do
    let (width, height) := R.size tree
    let boxWidth : Binary32 := Binary.ofNat box.width
    let boxHeight : Binary32 := Binary.ofNat box.height
    let scale := Binary.lesser (boxWidth / Binary.greater width leastSide)
      (boxHeight / Binary.greater height leastSide)
    let blank ← Pixmap.blank? ⟨max box.width 1, max box.height 1⟩
    return R.draw tree scale ((boxWidth - width * scale) / 2) ((boxHeight - height * scale) / 2)
      blank

/-- The pixel map of a shape, drawn from its markup. -/
def rasterize (s : Shape) : Except Failure Pixmap := R.render s.markup s.size

/-- The pixel map of what a primitive shows. -/
def pixmap : Content → Except Failure Pixmap
  | .shape s => R.rasterize s
  | .text request _ => CellText.paint request
  | .picture picture => .ok (R.picture picture)
  | .pixels pixmap => .ok pixmap

/-- Paints a primitive on a canvas. -/
def paintOn (canvas : Pixmap) (p : Primitive) : Except Failure Pixmap :=
  if Flow.maxOffset < p.top then .error (.layout (.outOfRange p.top))
  else (R.pixmap p.content).map fun source => R.overlay canvas source p.left p.top

/-- The canvas that primitives are painted on, if it can be allocated. -/
def paint (size : Size) (background : Color) (primitives : List Primitive) :
    Except Failure Pixmap :=
  if size.allocatable then primitives.foldlM R.paintOn (.filled size background.filling)
  else .error (.allocation size)

end Renderer

/-- The painted canvas of a flow, down to its cursor but of a least height. -/
def Flow.paint (f : Flow) (R : Renderer) (background : Color) (minHeight : Nat) :
    Except Failure Pixmap :=
  R.paint (f.canvasSize minHeight) background f.primitives

/-- The painted canvas of a drawing. -/
def Drawing.paint (d : Drawing) (R : Renderer) : Except Failure Pixmap :=
  R.paint d.size d.background d.primitives

end DialogueSheet
