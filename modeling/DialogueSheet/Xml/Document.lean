/-
# Documents

A document is a declaration, a document type, of which each may be missing, and a
root element, with comments and instructions around them.  `document?` gives the
nodes of a well-formed one and nothing for any other text.
-/
import DialogueSheet.Xml.Content

namespace DialogueSheet
namespace Xml

/-- The input after a mark of order at its front. -/
def skipOrderMark : List Char → List Char
  | '\ufeff' :: rest => rest
  | s => s

/-- The blanks between the parts of a declaration, which only its end can do without. -/
def skipBetween (s : List Char) : Option (List Char) :=
  if ['?', '>'].isPrefixOf s then some s else needSpace s

/-- Skips a part of a declaration that begins with a word, if there is one. -/
def skipPart (word : String) (s : List Char) : Option (List Char) :=
  if (after? word s).isSome then (readAttribute s).map fun (_, _, rest) => rest else some s

/-- Skips the declaration at the front of a document: its version, then perhaps its
encoding, then perhaps whether it stands alone. -/
def skipDeclaration (s : List Char) : Option (List Char) :=
  match s with
  | '<' :: '?' :: rest =>
    if startsDeclaration rest then do
      let s := skipSpace (rest.drop 3)
      let s ← if (after? "version" s).isSome then skipPart "version" s else none
      let s ← skipBetween s
      let s ← if (after? "encoding" s).isSome then skipPart "encoding" s >>= skipBetween else some s
      let s ← skipPart "standalone" s
      after? "?>" (skipSpace s)
    else some s
  | s => some s

/-- Reads the root element. -/
def readRoot (entities : Entities) (s : List Char) : Option (Builder × List Char) := do
  let (ending, b, rest) ← readStartTag entities maxNesting (s.length + 1) .start s
  if ending = .opened then readContent entities b rest else return (b, rest)

/-- The nodes of a well-formed document. -/
def document? (text : String) : Option (List Node) := do
  let fuel := text.length + 1
  let s ← skipDeclaration (skipOrderMark text.toList)
  let s ← skipMisc fuel s
  let (entities, s) ← readDoctype s
  let s ← skipMisc fuel s
  match s with
  | '<' :: rest =>
    let (b, rest) ← readRoot entities rest
    let rest ← skipMisc fuel rest
    let nodes ← b.finish?
    if rest.isEmpty && !(elements nodes).isEmpty then return nodes else none
  | _ => none

example : (document? "<?xml version='1.0'?><!DOCTYPE a [<!ENTITY b '<c>1</c>'>]><a>&b;2</a>").isSome
    ∧ (document? "<!DOCTYPE a [<!ENTITY b '</a>'>]><a>&b;").isNone
    ∧ (document? "<a><b></a></b>").isNone := by
  decide +kernel

end Xml
end DialogueSheet
