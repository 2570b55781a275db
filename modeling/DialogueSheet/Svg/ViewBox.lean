/-
# View boxes

A view box is four numbers, parted by blanks with or without a comma: the left and
the upper edge, the width and the height.  Whatever follows is not looked at.  Its
edges are 32-bit numbers, and its sides are what lies between them.
-/
import DialogueSheet.Svg.Length

namespace DialogueSheet
namespace Svg

/-- Reads a number of a list with the separator after it. -/
def readListNumber (s : List Char) : Option (Binary64 × List Char) :=
  (readNumber s).map fun (n, rest) =>
    match Xml.skipSpace rest with
    | ',' :: rest => (n, rest)
    | rest => (n, rest)

/-- The greatest finite 32-bit number. -/
def greatestSingle : Binary64 := 340282346638528859811704183484516925440

/-- The 64-bit number of a 32-bit one. -/
def widened : Binary32 → Binary64
  | .nan => .nan
  | .infinite s => .infinite s
  | .finite s m e => .ofScaled s m e

/-- What lies between the edges of a side that starts at `low` and is `extent` long. -/
def sideBetween? (low extent : Binary64) : Option Binary32 :=
  let start := low.toSingle
  let stop := start + extent.toSingle
  if start.below stop && (widened stop - widened start).below greatestSingle then
    some (stop - start)
  else none

/-- The width and the height of a view box. -/
def viewBox? (text : String) : Option (Binary32 × Binary32) := do
  let (x, s) ← readListNumber text.toList
  let (y, s) ← readListNumber s
  let (w, s) ← readListNumber s
  let (h, _) ← readListNumber s
  if (0 : Binary64).below w && (0 : Binary64).below h then
    return (← sideBetween? x w, ← sideBetween? y h)
  else none

example : viewBox? "0-0 8,4 rest" = some (8, 4) ∧ viewBox? "0 0 8" = none
    ∧ viewBox? "3e38 0 1e38 1" = none := by decide +kernel

end Svg
end DialogueSheet
