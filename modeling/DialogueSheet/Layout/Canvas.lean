/-
# A renderer for rectangles

It reads the markup of the shapes it is made for, and draws those that are rectangles: filled up
to the middle of the stroke, which covers the outer pixels of the box.  Round corners are drawn
square; other outlines and pictures leave no trace.  What it draws is exact for rectangles that
are opaque and lie on whole pixels.
-/
import DialogueSheet.Layout.Renderer

namespace DialogueSheet
namespace Canvas

/-- Paints a pixel that is not clear on what lies below it, if it lies on the canvas. -/
def paintPixel (canvas : Pixmap) (pixel : Pixel) (x : Int) (y : Nat) : Pixmap :=
  if x < 0 ∨ pixel = Pixel.clear then canvas
  else
    match canvas.pixel? x.toNat y >>= pixel.mixed? with
    | some mixed => canvas.setPixel x.toNat y mixed
    | none => canvas

/-- Paints a pixel map, clipped to the canvas. -/
def paintPixels (canvas source : Pixmap) (left : Int) (top : Nat) : Pixmap :=
  (List.range source.size.height).foldl (fun canvas (y : Nat) =>
    (List.range source.size.width).foldl (fun canvas (x : Nat) =>
      match source.pixel? x y with
      | some pixel => paintPixel canvas pixel (left + x) (top + y)
      | none => canvas) canvas) canvas

/-- Paints a frame of so many pixels inside a box. -/
def paintFrame (canvas : Pixmap) (box : Size) (border : Nat) (pixel : Pixel) : Pixmap :=
  let side : Size := ⟨border, box.height⟩
  let bar : Size := ⟨box.width, border⟩
  let canvas := canvas.paintBox 0 0 side pixel
  let canvas := canvas.paintBox (box.width - border : Int) 0 side pixel
  let canvas := canvas.paintBox 0 0 bar pixel
  canvas.paintBox 0 (box.height - border : Int) bar pixel

/-- Paints a rectangle with its fill and its stroke; nothing is painted where the
stroke leaves no room. -/
def paintRect (canvas : Pixmap) (s : Shape) : Pixmap :=
  let border := match s.stroke with
    | some stroke => stroke.width.toCount
    | none => 0
  if s.size.width ≤ border ∨ s.size.height ≤ border then canvas
  else
    let canvas := match s.fill with
      | some color => canvas.paintBox 0 0 ⟨s.boxWidth.toCount, s.boxHeight.toCount⟩
          (color.premultiplied 255)
      | none => canvas
    match s.stroke with
    | some stroke => paintFrame canvas s.size border (stroke.color.premultiplied 255)
    | none => canvas

/-- Draws a shape that is a rectangle, in its own size. -/
def drawShape (s : Shape) (scale dx dy : Binary32) (canvas : Pixmap) : Pixmap :=
  match s.outline with
  | .rect | .rounded _ => if scale = 1 ∧ dx = 0 ∧ dy = 0 then paintRect canvas s else canvas
  | .ellipse | .polygon _ => canvas

end Canvas

/-- The renderer that is made for some shapes. -/
def Renderer.ofShapes (shapes : List Shape) : Renderer where
  Tree := Shape
  parse? markup := shapes.find? (·.markup = markup)
  size s := (s.boxWidth, s.boxHeight)
  draw := Canvas.drawShape
  overlay := Canvas.paintPixels
  picture p := .blank p.size

/-- The shapes among primitives. -/
def Primitive.shapes (primitives : List Primitive) : List Shape :=
  primitives.filterMap fun p =>
    match p.content with
    | .shape s => some s
    | _ => none

end DialogueSheet
