/-
# Document types

A document type names the root element, may point to an external text, which is
not looked at, and may declare entities:

| declaration | effect |
| --- | --- |
| `<!ENTITY name "text">` | the name stands for the text, unless it is declared before |
| `<!ENTITY name SYSTEM "…">`, `PUBLIC` | none |
| `<!ELEMENT …>`, `<!ATTLIST …>`, `<!NOTATION …>` | none; ends at its first `>` |
-/
import DialogueSheet.Xml.Lexeme

namespace DialogueSheet
namespace Xml

/-- The texts of the declared entities by their names, the first declaration in front. -/
abbrev Entities := List (String × List Char)

/-- The input after a word at its front. -/
def after? (word : String) (s : List Char) : Option (List Char) :=
  let w := word.toList
  if w.isPrefixOf s then some (s.drop w.length) else none

/-- Skips blanks, of which one at least must stand here, and a literal. -/
def skipSpacedLiteral (s : List Char) : Option (List Char) := do
  let (_, rest) ← needSpace s >>= readLiteral
  return rest

/-- Skips the place of an external text, if one is given here; the answer tells whether
there is one. -/
def skipExternal (s : List Char) : Option (Bool × List Char) :=
  match after? "SYSTEM" s, after? "PUBLIC" s with
  | some rest, _ => (skipSpacedLiteral rest).map (true, ·)
  | _, some rest => (skipSpacedLiteral rest >>= skipSpacedLiteral).map (true, ·)
  | none, none => some (false, s)

/-- Skips the notation of an entity that is not made of text. -/
def skipNotation (s : List Char) : Option (List Char) :=
  match after? "NDATA" (skipSpace s) with
  | none => some s
  | some rest => do
    let (_, rest) ← needSpace rest >>= readName
    return rest

/-- Skips a closing bracket after blanks. -/
def skipClose (s : List Char) : Option (List Char) :=
  match skipSpace s with
  | '>' :: rest => some rest
  | _ => none

/-- Reads the definition of an entity: its text, if it has one here. -/
def readDefinition (general : Bool) (s : List Char) : Option (Option (List Char) × List Char) :=
  match readLiteral s with
  | some (text, rest) => some (some text, rest)
  | none => do
    let (isExternal, rest) ← skipExternal s
    if !isExternal then none
    else if general then return (none, ← skipNotation rest)
    else return (none, rest)

/-- Reads the declaration of an entity after its opening mark. -/
def readEntity (s : List Char) : Option (Entities × List Char) := do
  let s ← needSpace s
  let (general, s) ← match s with
    | '%' :: rest => (needSpace rest).map (false, ·)
    | s => some (true, s)
  let (name, s) ← readName s
  let (text, s) ← needSpace s >>= readDefinition general
  let rest ← skipClose s
  return (text.toList.map (name, ·), rest)

/-- Skips a declaration of another kind, up to its first closing bracket. -/
def skipDeclared (s : List Char) : Option (List Char) :=
  if ["<!ELEMENT", "<!ATTLIST", "<!NOTATION"].any fun word => (after? word s).isSome then
    match s.dropWhile (· ≠ '>') with
    | _ :: rest => some rest
    | [] => none
  else none

/-- Reads the declarations of a document type to its end. -/
def readSubset : Nat → List Char → Option (Entities × List Char)
  | 0, _ => none
  | fuel + 1, s =>
    match skipSpace s with
    | ']' :: rest => (skipClose rest).map ([], ·)
    | '<' :: '!' :: '-' :: '-' :: rest => skipComment rest >>= readSubset fuel
    | '<' :: '?' :: rest => skipInstruction rest >>= readSubset fuel
    | s =>
      match after? "<!ENTITY" s with
      | some rest => do
        let (first, rest) ← readEntity rest
        let (more, rest) ← readSubset fuel rest
        return (first ++ more, rest)
      | none => skipDeclared s >>= readSubset fuel

/-- Reads a document type, if one stands here. -/
def readDoctype (s : List Char) : Option (Entities × List Char) :=
  match after? "<!DOCTYPE" s with
  | none => some ([], s)
  | some rest => do
    let (_, rest) ← needSpace rest >>= readName
    let (_, rest) ← skipExternal (skipSpace rest)
    match skipSpace rest with
    | '>' :: rest => some ([], rest)
    | '[' :: rest => readSubset (rest.length + 1) rest
    | _ => none

example : readDoctype "<!DOCTYPE a SYSTEM 'b>' [<!ENTITY c \"]>\">]>d".toList
    = some ([("c", [']', '>'])], ['d']) := by decide +kernel
example : readDoctype "<!DOCTYPE a SYSTEM><a/>".toList = none := by decide +kernel

end Xml
end DialogueSheet
