/-
# Measures and colors of cards

All lengths are in pixels.  Two columns with a gap between them fill the width
inside the margins.
-/
import DialogueSheet.Color

namespace DialogueSheet
namespace Card

/-- The width of the canvas. -/
def canvasWidth : Nat := 720

/-- The least height of the canvas. -/
def minHeight : Nat := 480

/-- The space around everything. -/
def margin : Nat := 12

/-- The width inside the margins. -/
def innerWidth : Nat := canvasWidth - 24

/-- The space below a section. -/
def sectionGap : Nat := 12

/-- The space inside the frame of a panel. -/
def padding : Nat := 12

/-- The width of a column. -/
def columnWidth : Nat := (innerWidth - 12) / 2

/-- The left end of the second column. -/
def secondColumn : Nat := margin + columnWidth + 12

/-- The number of cells beside each other in a grid. -/
def gridColumns : Nat := 3

/-- The space between the cells of a grid. -/
def gridGap : Nat := 8

/-- The side of a cell of a grid. -/
def gridCell : Nat := (columnWidth - 24 - 2 * gridGap) / 3

/-- The distance from a cell of a grid to the next one. -/
def gridStride : Nat := gridCell + gridGap

/-- The greatest height of a portrait. -/
def portraitHeight : Nat := 420

/-- The space left for a portrait that is not there. -/
def portraitGap : Nat := 24

/-- The side of the box of the cover icon, of emblems and of terrain icons. -/
def iconSide : Nat := 48

/-- The ground of the canvas. -/
def background : Color := Color.ofWord 0xf3f6fa

/-- The ground of panels. -/
def panelFill : Color := Color.white

/-- The frame of panels. -/
def border : Color := Color.ofWord 0xcdd3dc

/-- The ground of the cells of a grid. -/
def cellFill : Color := Color.ofWord 0xeef3f8

/-- Text on light grounds. -/
def darkText : Color := Color.ofWord 0x4b5a6f

/-- The ground of chips without a color of their own. -/
def chipFill : Color := Color.ofWord 0x4b5a6f

end Card
end DialogueSheet
