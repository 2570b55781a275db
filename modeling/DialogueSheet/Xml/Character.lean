/-
# Characters of markup

The classes are those of the standard for markup documents: blanks, characters
that a document may have, and the characters of names.
-/
import DialogueSheet.Text.Edges

namespace DialogueSheet
namespace Xml

/-- Blanks of the grammar. -/
def isSpace (c : Char) : Bool := c == ' ' || c == '\t' || c == '\n' || c == '\r'

/-- The input from its first character that is no blank. -/
def skipSpace (s : List Char) : List Char := s.dropWhile isSpace

/-- The input after the blanks that must stand at its front. -/
def needSpace (s : List Char) : Option (List Char) :=
  if s.head?.any isSpace then some (skipSpace s) else none

/-- The characters that a document may have. -/
def isChar (c : Char) : Bool :=
  let n := c.toNat
  0x20 ≤ n && n != 0xfffe && n != 0xffff || isSpace c

/-- The runs of characters that a name may start with. -/
def nameStartEdges : List Nat := [
  0x3a, 0x3b, 0x41, 0x5b, 0x5f, 0x60, 0x61, 0x7b, 0xc0, 0xd7, 0xd8, 0xf7, 0xf8, 0x300,
  0x370, 0x37e, 0x37f, 0x2000, 0x200c, 0x200e, 0x2070, 0x2190, 0x2c00, 0x2ff0, 0x3001,
  0xd800, 0xf900, 0xfdd0, 0xfdf0, 0xfffe, 0x10000, 0xf0000]

/-- The runs of characters that a name may have. -/
def nameEdges : List Nat := [
  0x2d, 0x2f, 0x30, 0x3b, 0x41, 0x5b, 0x5f, 0x60, 0x61, 0x7b, 0xb7, 0xb8, 0xc0, 0xd7,
  0xd8, 0xf7, 0xf8, 0x37e, 0x37f, 0x2000, 0x200c, 0x200e, 0x203f, 0x2041, 0x2070, 0x2190,
  0x2c00, 0x2ff0, 0x3001, 0xd800, 0xf900, 0xfdd0, 0xfdf0, 0xfffe, 0x10000, 0xf0000]

/-- The characters that a name may start with. -/
def isNameStart (c : Char) : Bool := Text.inRuns nameStartEdges c.toNat

/-- The characters that a name may have. -/
def isNameChar (c : Char) : Bool := Text.inRuns nameEdges c.toNat

example : ":_aé星".toList.all isNameStart ∧ "-.0·".toList.all (fun c => !isNameStart c) := by
  decide +kernel

example : "-.0·:_aé".toList.all isNameChar ∧ " <&;×".toList.all (fun c => !isNameChar c) := by
  decide +kernel

end Xml
end DialogueSheet
