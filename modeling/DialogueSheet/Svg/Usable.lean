/-
# Usable vector pictures

Markup is usable when it is well-formed, its first element that belongs to a
picture is `svg`, all that it draws can be visited, and its width and height come
out positive and finite.  A side that is missing or unreadable counts as 100 %, of
the view box or of 100 by 100.
-/
import DialogueSheet.Svg.FontSize
import DialogueSheet.Svg.Reach
import DialogueSheet.Svg.ViewBox
import DialogueSheet.Xml.Document

namespace DialogueSheet
namespace Svg

/-- Whether a number is positive and finite. -/
def isPositive : Binary32 → Bool
  | .finite false m _ => m ≠ 0
  | _ => false

/-- The side that counts when none is given. -/
def fullSide : Length := ⟨100, .percent⟩

/-- The sides of a picture without a view box whose lengths are missing. -/
def standardSide : Binary32 := 100

/-- The pixels of a side, where `whole` is that side of the view box.  The product comes
first only where no view box is given. -/
def sidePixels (fontSize : Binary32) (whole : Option Binary32) (l : Length) : Binary32 :=
  if l.unit = .percent then
    match whole with
    | some whole => whole * (l.number.toSingle / 100)
    | none => standardSide * l.number.toSingle / 100
  else l.pixels fontSize

/-- The element that makes a document a picture, which is the first one that belongs to
pictures and is no style sheet, behind the elements before it, the nearest first. -/
def rootAfter? (before : List Xml.Head) : List Xml.Node → Option (List Xml.Head × Xml.Head)
  | [] => none
  | .element head _ :: rest =>
    if isKnown head && head.name ≠ "style" then some (before, head)
    else rootAfter? (head :: before) rest
  | _ :: rest => rootAfter? before rest

/-- Whether markup is a usable picture. -/
def isUsable (markup : String) : Bool :=
  match Xml.document? markup with
  | none => false
  | some nodes =>
    match rootAfter? [] nodes with
    | none => false
    | some (before, root) =>
      let elements := Xml.elements nodes
      let size := fontSize elements before root
      let box := value? root "viewBox" >>= viewBox?
      let side (name : String) (whole : Option Binary32) : Binary32 :=
        sidePixels size whole ((value? root name >>= Length.ofText?).getD fullSide)
      root.name = "svg" && isPositive (side "width" (box.map (·.1)))
        && isPositive (side "height" (box.map (·.2))) && isReachable elements nodes

end Svg

example : Svg.isUsable "<svg xmlns=\"http://www.w3.org/2000/svg\" width=\"8\"><g/></svg>" := by
  decide +kernel

end DialogueSheet
