/-
# Values of attributes

A value stands in the document in one line: tabs and line ends become blanks, a
carriage return before a line feed goes, and references are replaced.  A
character written by its code stays as it is, except inside the text of an entity.

Entities may stand in the texts of entities, up to ten deep, and at most 255
times below one reference of the document itself.  Ten deep is what is left at the
outside, so a nesting that may go `levels` deeper is inside when `levels` is less.
-/
import DialogueSheet.Xml.Doctype
import DialogueSheet.Xml.Reference

namespace DialogueSheet
namespace Xml

/-- How deep entities may stand in each other. -/
def maxNesting : Nat := 10

/-- How many references may stand below one of the document itself. -/
def maxReferences : Nat := 255

/-- Whether a text that may nest `levels` deeper is the text of an entity. -/
def isInside (levels : Nat) : Bool := levels < maxNesting

/-- The number of references after one more; those of the document itself do not count. -/
def countReference (levels count : Nat) : Option Nat :=
  if !isInside levels then some 0
  else if count < maxReferences then some (count + 1)
  else none

/-- The number of references after those below one are replaced. -/
def settleReferences (levels count : Nat) : Nat := if isInside levels then count else 0

/-- A character of a value in one line. -/
def oneLine (c : Char) : Char := if isSpace c then ' ' else c

/-- The value of a text, where `expand` gives the value of an entity's text.  The counts of
references go in and come out with the texts. -/
def valueWith (entities : Entities) (levels : Nat)
    (expand : Nat → List Char → Option (List Char × Nat)) :
    Nat → Nat → List Char → Option (List Char × Nat)
  | 0, _, _ => none
  | _, count, [] => some ([], count)
  | fuel + 1, count, '\r' :: '\n' :: rest =>
    valueWith entities levels expand fuel count ('\n' :: rest)
  | fuel + 1, count, '&' :: rest => do
    let (reference, rest) ← readReference rest
    match reference with
    | .char c =>
      if isInside levels && c == '<' then none
      else do
        let (value, count) ← valueWith entities levels expand fuel count rest
        return ((if isInside levels then oneLine c else c) :: value, count)
    | .entity name => do
      let text ← entities.lookup name
      let (first, count) ← countReference levels count >>= fun count => expand count text
      let (more, count) ←
        valueWith entities levels expand fuel (settleReferences levels count) rest
      return (first ++ more, count)
  | fuel + 1, count, c :: rest => do
    let (value, count) ← valueWith entities levels expand fuel count rest
    return (oneLine c :: value, count)

/-- The value of an entity's text, for entities that may nest `levels` deep from here. -/
def entityValue (entities : Entities) : Nat → Nat → List Char → Option (List Char × Nat)
  | 0, _, _ => none
  | levels + 1, count, text =>
    valueWith entities levels (entityValue entities levels) (text.length + 1) count text

/-- The value of an attribute in a text that may nest `levels` deeper. -/
def attributeValue (entities : Entities) (levels count : Nat) (text : List Char) :
    Option (String × Nat) :=
  (valueWith entities levels (entityValue entities levels) (text.length + 1) count text).map
    fun (value, count) => (String.ofList value, count)

example : attributeValue [("a", "1\n&b;".toList), ("b", "<".toList)] 10 0 "&a;\r\n&#10;".toList
    = some ("1 < \n", 0) := by decide +kernel
example : attributeValue [("a", "&a;".toList)] 10 0 "&a;".toList = none := by decide +kernel

end Xml
end DialogueSheet
