/-
# Pixel maps

A pixel map is a grid of premultiplied pixels, stored row by row.  It exists for
any size with no side of zero whose rows take less than `2 ^ 31` bytes.
-/
import DialogueSheet.Raster.Pixel

namespace DialogueSheet

/-- A width and a height, in pixels. -/
structure Size where
  width : Nat
  height : Nat
deriving DecidableEq, Repr

namespace Size

/-- The greatest number of bytes in a row of pixels. -/
def maxRowBytes : Nat := 2147483647

/-- Whether a pixel map of this size can be allocated. -/
def allocatable (s : Size) : Bool :=
  s.width != 0 && s.height != 0 && s.width * 4 ≤ maxRowBytes

end Size

/-- A grid of pixels, row by row from the top. -/
structure Pixmap where
  size : Size
  pixels : Array Pixel
  size_pixels : pixels.size = size.width * size.height

namespace Pixmap

/-- A pixel map of one pixel throughout. -/
def filled (size : Size) (pixel : Pixel) : Pixmap where
  size := size
  pixels := Array.replicate (size.width * size.height) pixel
  size_pixels := Array.size_replicate

/-- A transparent pixel map. -/
def blank (size : Size) : Pixmap := filled size Pixel.clear

/-- The place of a pixel in the grid. -/
def index (p : Pixmap) (x y : Nat) : Nat := y * p.size.width + x

/-- The pixel in column `x` of row `y`. -/
def pixel? (p : Pixmap) (x y : Nat) : Option Pixel :=
  if x < p.size.width ∧ y < p.size.height then p.pixels[p.index x y]? else none

/-- Replaces the pixel in column `x` of row `y`, if there is one. -/
def setPixel (p : Pixmap) (x y : Nat) (pixel : Pixel) : Pixmap where
  size := p.size
  pixels := p.pixels.setIfInBounds (p.index x y) pixel
  size_pixels := by rw [Array.size_setIfInBounds]; exact p.size_pixels

/-- Paints one pixel at the given coverage; nothing happens outside the grid. -/
def blend (p : Pixmap) (x y : Int) (color : Color) (coverage : UInt8) : Pixmap :=
  if coverage = 0 ∨ x < 0 ∨ y < 0 then p
  else
    match p.pixel? x.toNat y.toNat with
    | none => p
    | some below =>
      match Pixel.mixed? (color.premultiplied coverage) below with
      | none => p
      | some mixed => p.setPixel x.toNat y.toNat mixed

/-- The pixel map of an image with straight alpha, given by its pixels row by row. -/
def ofImage (size : Size) (colors : Array Color)
    (h : colors.size = size.width * size.height) : Pixmap where
  size := size
  pixels := colors.map fun c =>
    let channel (v : UInt8) := UInt8.ofNat (Pixel.scaleDown (v.toNat * c.alpha.toNat))
    ⟨channel c.red, channel c.green, channel c.blue, c.alpha⟩
  size_pixels := by rw [Array.size_map]; exact h

/-- Puts `pixel` in the columns from `left` to before `right` of row `y`. -/
def paintRow (p : Pixmap) (y left right : Nat) (pixel : Pixel) : Pixmap :=
  (List.range (right - left)).foldl (fun p i => p.setPixel (left + i) y pixel) p

/-- Puts `pixel` in a box, clipped to the grid. -/
def paintBox (p : Pixmap) (left top : Int) (box : Size) (pixel : Pixel) : Pixmap :=
  let first := left.toNat
  let last := min (left + box.width).toNat p.size.width
  let upper := top.toNat
  let lower := min (top + box.height).toNat p.size.height
  (List.range (lower - upper)).foldl (fun p i => p.paintRow (upper + i) first last pixel) p

/-- The pixels of a row. -/
def row (p : Pixmap) (y : Nat) : List Pixel :=
  (p.pixels.extract (y * p.size.width) ((y + 1) * p.size.width)).toList

/-- The rows from the top. -/
def rows (p : Pixmap) : List (List Pixel) := (List.range p.size.height).map p.row

end Pixmap

/-- Equal neighbours of a list, counted. -/
def runsOf {α : Type} [DecidableEq α] : List α → List (Nat × α)
  | [] => []
  | a :: rest =>
    match runsOf rest with
    | (n, b) :: runs => if a = b then (n + 1, b) :: runs else (1, a) :: (n, b) :: runs
    | [] => [(1, a)]

end DialogueSheet
