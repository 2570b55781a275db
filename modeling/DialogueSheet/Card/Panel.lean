/-
# Panels of cards

A column starts with some padding and a heading and grows row by row, with tops
counted from its panel.  It is measured before anything is placed, so a panel is
framed around the whole of its columns: one column over the full width, or two side
by side, both panels as high as the higher column.
-/
import DialogueSheet.Card.Style
import DialogueSheet.Layout.Watermark
import DialogueSheet.Raster.Fit

namespace DialogueSheet
namespace Card

/-- The progress for which stats are shown. -/
structure Progress where
  level : Nat := 90
  stars : Nat := 5
  bond : Nat := 20
deriving DecidableEq, Repr

/-- What a card is drawn from. -/
structure Subject where
  resources : Resources
  progress : Progress
  student : Student
  language : Language

namespace Subject

/-- Measures a text. -/
def setText (s : Subject) (request : TextRequest) : Except Failure SetText :=
  s.resources.setText request

/-- A label of the program. -/
def label (s : Subject) (key : String) : String :=
  s.resources.localization.localize Localization.labelKey key s.language

/-- A term of a table. -/
def term (s : Subject) (table value : String) : String :=
  s.resources.localization.localize table value s.language

/-- The picture of a kind and a name, fitted into a box. -/
def icon? (s : Subject) (kind : AssetKind) (name : String) (box : Size) : Option Picture :=
  (s.resources.picture? kind name).map fun p => { p with size := p.size.fitWithin box }

/-- Begins a column at an offset with its heading. -/
def column (s : Subject) (key : String) (left : Nat) : Except Failure Strip := do
  let c : Strip := .gap padding
  let t ← s.setText ((TextRequest.plain (s.label key) 24 darkText).withWidth
    (columnWidth - 24)).inHeading
  return c.grown [.ofText t (left + padding : Nat) c.height] (t.size.height + 8)

end Subject

/-- The frame of a panel. -/
def frame (left top : Nat) (size : Size) : Primitive :=
  .ofShape ((Shape.rounded size.width size.height 12 panelFill).withStroke border 2) left top

/-- The row of a column in a panel of the full width and a height. -/
def wideRow (column : Strip) (height top : Nat) : List Primitive :=
  frame margin top ⟨innerWidth, height⟩ :: column.primitives.map (Primitive.lowered top)

/-- The row of two columns in panels of a height, side by side. -/
def twinRow (first second : Strip) (height top : Nat) : List Primitive :=
  [frame margin top ⟨columnWidth, height⟩, frame secondColumn top ⟨columnWidth, height⟩]
    ++ first.primitives.map (Primitive.lowered top)
    ++ second.primitives.map (Primitive.lowered top)

/-- Places a column in a panel of the full width. -/
def placeWidePanel (column : Strip) (f : Flow) : Except Failure Flow := do
  let top := f.cursor
  let height := column.height + 4
  let f ← f.put (wideRow column height top)
  return f.advance (height + sectionGap)

/-- Places two columns in panels side by side. -/
def placeTwinPanels (first second : Strip) (f : Flow) : Except Failure Flow := do
  let top := f.cursor
  let height := max first.height second.height + 4
  let f ← f.put (twinRow first second height top)
  return f.advance (height + sectionGap)

end Card
end DialogueSheet
