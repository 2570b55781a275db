/-
# The small parts of markup

| part | form |
| --- | --- |
| name | a start character, then name characters |
| qualified name | a name, or two with a colon between them, of which the first may be empty |
| literal | any characters between two equal quotation marks |
| comment | up to `-->`, without two hyphens in a row before that |
| instruction | a name, then any characters up to `?>` |

Each reader gives what is left of the input, or nothing when the part is malformed.
-/
import DialogueSheet.Xml.Character

namespace DialogueSheet
namespace Xml

/-- A name with its label, which may be empty. -/
structure QName where
  label : String
  name : String
deriving DecidableEq

/-- Whether a name can start here. -/
def startsName (s : List Char) : Bool := s.head?.any isNameStart

/-- Reads a name, which may have colons. -/
def readName (s : List Char) : Option (String × List Char) :=
  if startsName s then some (String.ofList (s.takeWhile isNameChar), s.dropWhile isNameChar)
  else none

/-- The characters of either half of a qualified name. -/
def isHalfChar (c : Char) : Bool := isNameChar c && c != ':'

/-- Reads a qualified name; a second colon ends it. -/
def readQName (s : List Char) : Option (QName × List Char) :=
  let first := s.takeWhile isHalfChar
  match s.dropWhile isHalfChar with
  | ':' :: rest =>
    let second := rest.takeWhile isHalfChar
    if (first.isEmpty || startsName first) && startsName second then
      some (⟨String.ofList first, String.ofList second⟩, rest.dropWhile isHalfChar)
    else none
  | rest => if startsName first then some (⟨"", String.ofList first⟩, rest) else none

/-- Reads a literal. -/
def readLiteral : List Char → Option (List Char × List Char)
  | [] => none
  | quote :: rest =>
    if quote = '"' ∨ quote = '\x27' then
      match rest.dropWhile (· ≠ quote) with
      | _ :: after => some (rest.takeWhile (· ≠ quote), after)
      | [] => none
    else none

/-- The characters before the first occurrence of `mark`, all of them allowed, and the
input after it. -/
def readUpTo (mark : List Char) : List Char → Option (List Char × List Char)
  | [] => none
  | c :: rest =>
    if mark.isPrefixOf (c :: rest) then some ([], (c :: rest).drop mark.length)
    else if isChar c then (readUpTo mark rest).map fun (text, after) => (c :: text, after)
    else none

/-- Skips a comment after its opening mark. -/
def skipComment (s : List Char) : Option (List Char) := do
  let (_, rest) ← readUpTo ['-', '-'] s
  match rest with
  | '>' :: rest => some rest
  | _ => none

/-- Whether a text begins like the declaration of a document. -/
def startsDeclaration (s : List Char) : Bool := ['x', 'm', 'l', ' '].isPrefixOf s

/-- Skips an instruction after its opening mark; a declaration is none. -/
def skipInstruction (s : List Char) : Option (List Char) :=
  if startsDeclaration s then none
  else do
    let (_, rest) ← readName s
    let (_, rest) ← readUpTo ['?', '>'] (skipSpace rest)
    return rest

/-- The input after the blanks, comments and instructions at its front. -/
def skipMisc : Nat → List Char → Option (List Char)
  | 0, _ => none
  | fuel + 1, s =>
    match skipSpace s with
    | '<' :: '!' :: '-' :: '-' :: rest => skipComment rest >>= skipMisc fuel
    | '<' :: '?' :: rest => skipInstruction rest >>= skipMisc fuel
    | rest => some rest

/-- Reads an attribute up to its closing quotation mark; its value is still unexpanded and
has no opening bracket. -/
def readAttribute (s : List Char) : Option (QName × List Char × List Char) := do
  let (name, rest) ← readQName s
  match skipSpace rest with
  | '=' :: rest =>
    let (value, rest) ← readLiteral (skipSpace rest)
    if value.all fun c => isChar c && c != '<' then return (name, value, rest) else none
  | _ => none

example : readQName "a:b:c".toList = some (⟨"a", "b"⟩, [':', 'c']) := by decide +kernel
example : readQName ":b".toList = some (⟨"", "b"⟩, []) := by decide +kernel
example : skipComment " a --->".toList = none := by decide +kernel

end Xml
end DialogueSheet
