/-
# Images with straight alpha

An image as it is stored in a file: its channels do not depend on its alpha.  It becomes a pixel
map when both sides are there and the pixel map can be allocated.
-/
import DialogueSheet.Failure
import DialogueSheet.Raster.Pixmap

namespace DialogueSheet

/-- A transparent pixel map, if it can be allocated. -/
def Pixmap.blank? (size : Size) : Except Failure Pixmap :=
  if size.allocatable then .ok (.blank size) else .error (.allocation size)

/-- An image with straight alpha, its colors row by row from the top. -/
structure StraightImage where
  size : Size
  colors : Array Color
  size_colors : colors.size = size.width * size.height

namespace StraightImage

/-- The pixel map of an image. -/
def decode (img : StraightImage) : Except Failure Pixmap :=
  if img.size.width = 0 ∨ img.size.height = 0 then .error (.picture (.emptySide img.size))
  else if img.size.allocatable then .ok (.ofImage img.size img.colors img.size_colors)
  else .error (.picture .undecodable)

end StraightImage
end DialogueSheet
