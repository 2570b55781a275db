/-
# The font size of a picture

Lengths in `em` and `ex` follow the font size of the root element.  It is set by
the attribute `font-size`, then by the rules of style sheets in their order, then by
the attribute `style`; the last setting counts.  A setting is a length or a name:

| name | font size |
| --- | --- |
| `medium` | 12 pixels |
| `large`, `x-large`, `xx-large` | 1.2 times as much at each step; `larger` is one step |
| `small`, `x-small`, `xx-small` | 1.2 times as little at each step; `smaller` is one step |
| any other | 12 pixels |
-/
import DialogueSheet.Css.Sheet
import DialogueSheet.Svg.Element
import DialogueSheet.Svg.Length

namespace DialogueSheet
namespace Svg

/-- The font size where none is set. -/
def standardFontSize : Binary32 := 12

/-- The ratio of neighbouring sizes. -/
def sizeRatio : Binary32 := 1.2

/-- The ratio over so many steps. -/
def ratioOver : Nat → Binary32
  | 0 => 1
  | steps + 1 => ratioOver steps * sizeRatio

/-- The font sizes that have names, as factors of the standard one. -/
def namedSizes : List (String × Binary32) := [
  ("xx-small", 1 / ratioOver 3), ("x-small", 1 / ratioOver 2), ("small", 1 / ratioOver 1),
  ("medium", 1), ("large", ratioOver 1), ("x-large", ratioOver 2), ("xx-large", ratioOver 3),
  ("smaller", 1 / ratioOver 1), ("larger", ratioOver 1)]

/-- The font size of a setting. -/
def sizeOf (setting : String) : Binary32 :=
  match Length.ofText? setting with
  | some l => l.pixels standardFontSize
  | none => standardFontSize * (namedSizes.lookup setting).getD 1

/-- The words before the size in a setting of the whole font. -/
def styleWords : List String := [
  "normal", "small-caps", "italic", "oblique", "bold", "bolder", "lighter", "100", "200", "300",
  "400", "500", "600", "700", "800", "900", "ultra-condensed", "extra-condensed", "condensed",
  "semi-condensed", "semi-expanded", "expanded", "extra-expanded", "ultra-expanded"]

/-- The characters of words in a setting of the whole font. -/
def isWordChar (c : Char) : Bool := c.isAlphanum || c == '-' || c == '_'

/-- Skips up to so many words that may stand before the size. -/
def skipStyleWords : Nat → List Char → List Char
  | 0, s => s
  | n + 1, s =>
    if styleWords.contains (String.ofList (s.takeWhile isWordChar)) then
      skipStyleWords n (Xml.skipSpace (s.dropWhile isWordChar))
    else s

/-- The words that may stand before the size, at most. -/
def maxStyleWords : Nat := 4

/-- The input after a size, which is a length that starts with a digit or a name. -/
def skipSize (s : List Char) : Option (List Char) :=
  if s.head?.any Char.isDigit then (readLength s).map (·.2)
  else if (namedSizes.lookup (String.ofList (s.takeWhile isWordChar))).isSome then
    some (s.dropWhile isWordChar)
  else none

/-- The input after a line height, if there is one. -/
def skipLineHeight (s : List Char) : Option (List Char) :=
  match s with
  | '/' :: rest => (readLength rest).map fun (_, rest) => Xml.skipSpace rest
  | s => some s

/-- The size in a setting of the whole font: words, a size, perhaps a line height, and a
family, which cannot be missing. -/
def sizeOfFont? (setting : String) : Option String := do
  let s := skipStyleWords maxStyleWords (Xml.skipSpace setting.toList)
  let rest ← skipSize s
  let family ← skipLineHeight (Xml.skipSpace rest)
  if family.isEmpty then none
  else return String.ofList (s.take (s.length - rest.length))

/-- The setting of the font size that a declaration holds. -/
def settingOf? (d : Css.Declaration) : Option String :=
  if d.name = "font-size" then some d.value
  else if d.name = "font" then sizeOfFont? d.value
  else none

/-- Whether a sheet of this type is read. -/
def isStyleType (type : Option String) : Bool := type.all (· = "text/css")

/-- The rules of all style sheets, in the order in which they take effect. -/
def styleRules (elements : List Xml.Element) : List Css.Rule :=
  Css.byWeight ((elements.filter fun e =>
    e.head.name = "style" && isStyleType (e.head.value? none "type")).flatMap fun e =>
      (e.firstText?.map Css.rules).getD [])

/-- What selectors look at in an element. -/
def subjectOf (head : Xml.Head) : Css.Subject := ⟨head.name, head.value? none⟩

/-- The declarations for the root element, in the order in which they take effect; `before`
holds the elements before it, the nearest first. -/
def rootDeclarations (elements : List Xml.Element) (before : List Xml.Head) (root : Xml.Head) :
    List Css.Declaration :=
  ((styleRules elements).filter fun rule =>
      rule.selector.selectsTop (before.map subjectOf) (subjectOf root)).flatMap (·.declarations)
    ++ ((root.value? none "style").map Css.declarations).getD []

/-- A setting in full; nothing lies above the root element to inherit from. -/
def resolveSetting (setting : String) : String :=
  if setting = "inherit" then "medium" else setting

/-- The font size of the root element. -/
def fontSize (elements : List Xml.Element) (before : List Xml.Head) (root : Xml.Head) :
    Binary32 :=
  let settings := (value? root "font-size").toList
    ++ (rootDeclarations elements before root).filterMap settingOf?
  match settings.getLast? with
  | some setting => sizeOf (resolveSetting setting)
  | none => standardFontSize

example : sizeOfFont? "italic bold 12px/1.5 serif" = some "12px" ∧ sizeOfFont? "12px" = none
    ∧ sizeOfFont? "large  a" = some "large" := by decide +kernel

end Svg
end DialogueSheet
