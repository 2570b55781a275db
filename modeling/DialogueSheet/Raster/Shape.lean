/-
# Shapes and their markup

A shape lives in a box of its own.  Its stroke is inset by half its width, so
that the painted outline stays inside the box.
-/
import DialogueSheet.Number.Decimal
import DialogueSheet.Raster.Pixmap

namespace DialogueSheet

/-- The outline of a shape, in the box of the shape. -/
inductive Outline where
  | rect
  | rounded (radius : Binary32)
  | ellipse
  | polygon (points : List (Binary32 × Binary32))
deriving DecidableEq

/-- A line along an outline. -/
structure Stroke where
  color : Color
  width : Binary32
deriving DecidableEq

/-- A vector shape in a box. -/
structure Shape where
  size : Size
  outline : Outline
  fill : Option Color
  stroke : Option Stroke
deriving DecidableEq

namespace Shape

/-- A filled rectangle. -/
def rect (width height : Nat) (fill : Color) : Shape :=
  ⟨⟨width, height⟩, .rect, some fill, none⟩

/-- A filled rectangle with round corners. -/
def rounded (width height : Nat) (radius : Binary32) (fill : Color) : Shape :=
  ⟨⟨width, height⟩, .rounded radius, some fill, none⟩

/-- A filled polygon. -/
def polygon (width height : Nat) (points : List (Binary32 × Binary32)) (fill : Color) : Shape :=
  ⟨⟨width, height⟩, .polygon points, some fill, none⟩

/-- The shape with a stroke. -/
def withStroke (s : Shape) (color : Color) (width : Binary32) : Shape :=
  { s with stroke := some ⟨color, width⟩ }

/-- The shape without a fill. -/
def withoutFill (s : Shape) : Shape := { s with fill := none }

/-- The size of the drawing; a side of zero is drawn as 1. -/
def drawnSize (s : Shape) : Size := ⟨max s.size.width 1, max s.size.height 1⟩

/-- The width of the drawing. -/
def boxWidth (s : Shape) : Binary32 := Binary.ofNat s.drawnSize.width

/-- The height of the drawing. -/
def boxHeight (s : Shape) : Binary32 := Binary.ofNat s.drawnSize.height

/-- The distance of the outline from the box: half the stroke. -/
def inset (s : Shape) : Binary32 :=
  match s.stroke with
  | some stroke => stroke.width / 2
  | none => 0

/-- The width between the insets. -/
def innerWidth (s : Shape) : Binary32 := s.boxWidth - s.inset * 2

/-- The height between the insets. -/
def innerHeight (s : Shape) : Binary32 := s.boxHeight - s.inset * 2

/-- The radius of a corner: at most half of the inner sides, never negative. -/
def cornerRadius (s : Shape) (radius : Binary32) : Binary32 :=
  Binary.greater (Binary.lesser (Binary.lesser radius (s.innerWidth / 2)) (s.innerHeight / 2)) 0

/-- The radii of the ellipse. -/
def ellipseRadii (s : Shape) : Binary32 × Binary32 :=
  (s.boxWidth / 2 - s.inset, s.boxHeight / 2 - s.inset)

/-- An attribute with a text as its value. -/
def textAttribute (name value : String) : String := " " ++ name ++ "=\"" ++ value ++ "\""

/-- An attribute with a number as its value. -/
def numberAttribute (name : String) (value : Binary32) : String :=
  textAttribute name value.plainText

/-- The attributes of the fill and the stroke. -/
def paintAttributes (s : Shape) : String :=
  (match s.fill with
    | some c => textAttribute "fill" c.hex ++ numberAttribute "fill-opacity" c.opacity
    | none => textAttribute "fill" "none") ++
  (match s.stroke with
    | some stroke => textAttribute "stroke" stroke.color.hex
        ++ numberAttribute "stroke-opacity" stroke.color.opacity
        ++ numberAttribute "stroke-width" stroke.width
    | none => "")

/-- The attributes of a rectangle between the insets. -/
def rectAttributes (s : Shape) : String :=
  numberAttribute "x" s.inset ++ numberAttribute "y" s.inset ++ numberAttribute "width" s.innerWidth
    ++ numberAttribute "height" s.innerHeight

/-- The element of the outline. -/
def element (s : Shape) : String :=
  match s.outline with
  | .rect => "<rect" ++ s.rectAttributes ++ s.paintAttributes ++ "/>"
  | .rounded radius =>
    let r := s.cornerRadius radius
    "<rect" ++ s.rectAttributes ++ numberAttribute "rx" r ++ numberAttribute "ry" r
      ++ s.paintAttributes ++ "/>"
  | .ellipse =>
    let (rx, ry) := s.ellipseRadii
    "<ellipse" ++ numberAttribute "cx" (s.boxWidth / 2) ++ numberAttribute "cy" (s.boxHeight / 2)
      ++ numberAttribute "rx" rx ++ numberAttribute "ry" ry ++ s.paintAttributes ++ "/>"
  | .polygon points =>
    let pairs := points.map fun (x, y) => x.plainText ++ "," ++ y.plainText
    "<polygon" ++ textAttribute "points" (String.intercalate " " pairs) ++ s.paintAttributes ++ "/>"

/-- The whole markup of the shape. -/
def markup (s : Shape) : String :=
  let w := s.boxWidth.plainText
  let h := s.boxHeight.plainText
  "<svg" ++ textAttribute "xmlns" "http://www.w3.org/2000/svg" ++ textAttribute "width" w
    ++ textAttribute "height" h ++ textAttribute "viewBox" ("0 0 " ++ w ++ " " ++ h) ++ ">"
    ++ s.element ++ "</svg>"

end Shape
end DialogueSheet
