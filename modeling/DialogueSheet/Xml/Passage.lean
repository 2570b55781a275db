/-
# Passages of text

A passage is text between two tags, up to a reference to an entity.  References to
characters are replaced.  Line ends become line feeds: a carriage return before a
line feed goes, and any other one turns into a line feed as soon as something
follows it or the text is over.

A character written by its code stays as it is, and so does the one right behind
it, except inside the text of an entity.
-/
import DialogueSheet.Xml.Reference

namespace DialogueSheet
namespace Xml

/-- Adds a character to a text that has its last character in front, where carriage returns
are line ends; the character is the `final` one when the text is over with it. -/
def addLined (final : Bool) (c : Char) : List Char → List Char
  | '\r' :: before =>
    if c = '\n' then '\n' :: before
    else (if final && c == '\r' then '\n' else c) :: '\n' :: before
  | before => (if final && c == '\r' then '\n' else c) :: before

/-- Whether a text is over here. -/
def endsText : List Char → Bool
  | [] => true
  | c :: _ => c == '<'

/-- A text with line feeds for its line ends, behind another one that has its last character
in front. -/
def linedAfter : List Char → List Char → List Char
  | before, [] => before.reverse
  | before, c :: rest => linedAfter (addLined rest.isEmpty c before) rest

/-- A text with line feeds for its line ends. -/
def lined (text : List Char) : List Char := linedAfter [] text

/-- A passage with the name of the entity that ends it, if one does, and the rest. -/
structure Passage where
  text : List Char
  entity : Option String
  rest : List Char
deriving DecidableEq

/-- Reads a passage, `inside` the text of an entity or not, behind characters of it, the last
one in front; `fixed` tells whether the next character stays as it is. -/
def readPassageAfter (inside : Bool) : Nat → Bool → List Char → List Char → Option Passage
  | 0, _, _, _ => none
  | _, _, before, [] => some ⟨before.reverse, none, []⟩
  | fuel + 1, fixed, before, c :: rest =>
    if c = '<' then some ⟨before.reverse, none, c :: rest⟩
    else if c = '&' then
      match readReference rest with
      | none => none
      | some (.entity name, rest) => some ⟨before.reverse, some name, rest⟩
      | some (.char c, rest) =>
        if inside then
          readPassageAfter inside fuel fixed (addLined (endsText rest) c before) rest
        else readPassageAfter inside fuel true (c :: before) rest
    else if !isChar c || [']', ']', '>'].isPrefixOf (c :: rest) then none
    else if fixed then readPassageAfter inside fuel false (c :: before) rest
    else readPassageAfter inside fuel false (addLined (endsText rest) c before) rest

/-- Reads a passage, with `fuel` for more characters than it has. -/
def readPassage (inside : Bool) (fuel : Nat) (s : List Char) : Option Passage :=
  readPassageAfter inside fuel false [] s

example : lined "a\r\nb\rc\r".toList = "a\nb\nc\n".toList := by decide +kernel
example : readPassage false 50 "\r\r\n&#13;\r\nd&e;f".toList
    = some ⟨"\n\n\r\nd".toList, some "e", ['f']⟩ := by decide +kernel
example : readPassage true 50 "&#13;\nd&lt;<".toList = some ⟨"\nd<".toList, none, ['<']⟩ := by
  decide +kernel

end Xml
end DialogueSheet
