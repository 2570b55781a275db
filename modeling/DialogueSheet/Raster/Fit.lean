/-
# Fitting sizes into boxes

A size is scaled by the lesser of the two ratios of the box to it, also upwards,
and each side is rounded to the nearest whole number, at least 1.  Pixel maps
are fitted with 32-bit ratios, decoded images with 64-bit ones.
-/
import DialogueSheet.Raster.Pixmap

namespace DialogueSheet
namespace Size

/-- A size scaled to fit inside `box`; the box itself, at least 1 by 1, for a size
with a side of zero. -/
def fitWithin (s box : Size) : Size :=
  if s.width = 0 ∨ s.height = 0 then ⟨max box.width 1, max box.height 1⟩
  else
    let width : Binary32 := Binary.ofNat s.width
    let height : Binary32 := Binary.ofNat s.height
    let scale := Binary.lesser (Binary.ofNat box.width / width) (Binary.ofNat box.height / height)
    ⟨max (width * scale).round.toCount 1, max (height * scale).round.toCount 1⟩

/-- The size that an image of size `s` is decoded to for a square box of side `side`. -/
def fitSquare (s : Size) (side : Nat) : Size :=
  let width : Binary64 := Binary.ofNat s.width
  let height : Binary64 := Binary.ofNat s.height
  let scale := Binary.lesser (Binary.ofNat side / width) (Binary.ofNat side / height)
  ⟨max (width * scale).round.toCount 1, max (height * scale).round.toCount 1⟩

end Size

example : (⟨4, 2⟩ : Size).fitWithin ⟨10, 10⟩ = ⟨10, 5⟩ := by decide +kernel
example : (⟨1200, 1⟩ : Size).fitSquare 300 = ⟨300, 1⟩ := by decide +kernel

end DialogueSheet
