/-
# Colors

A color has four channels of eight bits; the alpha channel is straight, so the
others do not depend on it.

| text | channels |
| --- | --- |
| `#rgb`, `#rgba` | a digit `d` stands for `dd` |
| `#rrggbb`, `#rrggbbaa` | two digits each |

A color without alpha digits is opaque.
-/
import DialogueSheet.Number.Binary
import DialogueSheet.Number.Hexadecimal
import DialogueSheet.Text.Blank

namespace DialogueSheet

/-- A color with straight alpha. -/
structure Color where
  red : UInt8
  green : UInt8
  blue : UInt8
  alpha : UInt8
deriving DecidableEq, Repr

namespace Color

/-- An opaque color. -/
def opaqueOf (red green blue : UInt8) : Color := ⟨red, green, blue, 255⟩

/-- The opaque color of 24 bits, red first. -/
def ofWord (word : Nat) : Color :=
  opaqueOf (UInt8.ofNat (word / 65536)) (UInt8.ofNat (word / 256)) (UInt8.ofNat word)

/-- White. -/
def white : Color := opaqueOf 255 255 255

/-- Black. -/
def black : Color := opaqueOf 0 0 0

/-- The channel of one digit, which stands twice. -/
def shortChannel (d : Nat) : UInt8 := UInt8.ofNat (d * 17)

/-- The channel of two digits. -/
def longChannel (d e : Nat) : UInt8 := UInt8.ofNat (d * 16 + e)

/-- The color of three, four, six or eight hexadecimal digits. -/
def ofDigits? : List Nat → Option Color
  | [r, g, b] => some (opaqueOf (shortChannel r) (shortChannel g) (shortChannel b))
  | [r, g, b, a] => some ⟨shortChannel r, shortChannel g, shortChannel b, shortChannel a⟩
  | [r, s, g, h, b, c] => some (opaqueOf (longChannel r s) (longChannel g h) (longChannel b c))
  | [r, s, g, h, b, c, a, z] =>
    some ⟨longChannel r s, longChannel g h, longChannel b c, longChannel a z⟩
  | _ => none

/-- Reads a color: blanks at the ends and number signs in front do not count. -/
def ofHex? (text : String) : Option Color := do
  let digits ← ((Text.trimChars text.toList).dropWhile (· == '#')).mapM hexValue?
  ofDigits? digits

/-- The two digits of a channel. -/
def channelDigits (channel : UInt8) : List Char := hexDigitsOf 2 channel.toNat

/-- The characters of `#rrggbb`. -/
def hexChars (c : Color) : List Char :=
  '#' :: channelDigits c.red ++ channelDigits c.green ++ channelDigits c.blue

/-- The text `#rrggbb`, without alpha. -/
def hex (c : Color) : String := String.ofList c.hexChars

/-- The text `#rrggbb`, followed by the alpha channel unless the color is opaque. -/
def text (c : Color) : String :=
  String.ofList (if c.alpha = 255 then c.hexChars else c.hexChars ++ channelDigits c.alpha)

/-- The share of the background that the color hides. -/
def opacity (c : Color) : Binary32 := Binary.ofNat c.alpha.toNat / 255

end Color

example : (Color.ofHex? " #4ac8 ").map Color.text = some "#44aacc88" := by decide +kernel
example : Color.ofHex? "#12345" = none := by decide +kernel

end DialogueSheet
