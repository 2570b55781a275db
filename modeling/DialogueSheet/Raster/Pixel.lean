/-
# Pixels

A pixel holds its color channels multiplied by its alpha, so none of them
exceeds it.  Products of two channels are divided by 255 and rounded to nearest.
-/
import DialogueSheet.Color

namespace DialogueSheet

/-- A pixel with premultiplied alpha. -/
structure Pixel where
  red : UInt8
  green : UInt8
  blue : UInt8
  alpha : UInt8
deriving DecidableEq, Repr

namespace Pixel

/-- The fully transparent pixel. -/
def clear : Pixel := ⟨0, 0, 0, 0⟩

/-- Whether no color channel exceeds alpha. -/
def IsPremultiplied (p : Pixel) : Prop :=
  p.red ≤ p.alpha ∧ p.green ≤ p.alpha ∧ p.blue ≤ p.alpha

instance (p : Pixel) : Decidable p.IsPremultiplied := by
  unfold IsPremultiplied
  infer_instance

/-- The pixel of four channels, if no color channel exceeds alpha. -/
def ofChannels? (red green blue alpha : UInt8) : Option Pixel :=
  let p : Pixel := ⟨red, green, blue, alpha⟩
  if p.IsPremultiplied then some p else none

/-- The quotient by 255, rounded to nearest. -/
def scaleDown (n : Nat) : Nat := (n + 127) / 255

/-- A channel of `source` on what an alpha of `sourceAlpha` lets through of `below`. -/
def mixChannel (source below sourceAlpha : Nat) : Nat :=
  source + scaleDown (below * (255 - sourceAlpha))

/-- The pixel `source` painted on the pixel `below`. -/
def mixed? (source below : Pixel) : Option Pixel :=
  let mix (s d : UInt8) := mixChannel s.toNat d.toNat source.alpha.toNat
  let alpha := min (mix source.alpha below.alpha) 255
  ofChannels? (UInt8.ofNat (min (mix source.red below.red) alpha))
    (UInt8.ofNat (min (mix source.green below.green) alpha))
    (UInt8.ofNat (min (mix source.blue below.blue) alpha)) (UInt8.ofNat alpha)

end Pixel

namespace Color

/-- The pixel of a color that covers `coverage` of 255 parts of it. -/
def premultiplied (c : Color) (coverage : UInt8) : Pixel :=
  let alpha := Pixel.scaleDown (c.alpha.toNat * coverage.toNat)
  let channel (v : UInt8) := UInt8.ofNat (Pixel.scaleDown (v.toNat * alpha))
  ⟨channel c.red, channel c.green, channel c.blue, UInt8.ofNat alpha⟩

/-- A channel from 0 to 1 in 255 steps, rounded to nearest. -/
def toChannel (x : Binary32) : UInt8 := UInt8.ofNat ((x * 255 + 0.5).toInt 0 255).toNat

/-- The pixel of a color that fills a whole picture: its channels are multiplied
as fractions before they are rounded. -/
def filling (c : Color) : Pixel :=
  let channel (v : UInt8) := toChannel (Binary.ofNat v.toNat / 255 * c.opacity)
  ⟨channel c.red, channel c.green, channel c.blue, toChannel c.opacity⟩

end Color

example : (⟨17, 99, 201, 77⟩ : Color).premultiplied 20 = ⟨0, 2, 5, 6⟩ := by decide +kernel

end DialogueSheet
