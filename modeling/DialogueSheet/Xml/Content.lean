/-
# Content of elements

Content is read by what it begins with:

| front | part |
| --- | --- |
| `</` | an end tag |
| `<!--` | a comment |
| `<![CDATA[` | a section, taken as it stands but for its line ends |
| `<?` | an instruction |
| `<` | a start tag |
| else | a passage of text, without `]]>` |

The text of an entity is content too.  It is read as if it stood in an element
of its own: its first end tag without a start tag of that text is its last part,
whatever follows, and it may stop before its elements are closed.  The elements
themselves are those of the document, so an entity can close an element around
the reference or leave one open, as long as a start tag comes before the end tag.
-/
import DialogueSheet.Xml.Builder
import DialogueSheet.Xml.Passage
import DialogueSheet.Xml.Value

namespace DialogueSheet
namespace Xml

/-- How a start tag ends: its element is open, or over, or the input is at its end. -/
inductive TagEnd where
  | opened
  | closed
  | cut
deriving DecidableEq

/-- Reads the attributes of a start tag, each after a blank, and its end. -/
def readAttributes (entities : Entities) (levels : Nat) :
    Nat → Builder → List Char → Option (TagEnd × Builder × List Char)
  | 0, _, _ => none
  | _, b, [] => some (.cut, b, [])
  | fuel + 1, b, s =>
    match skipSpace s with
    | '>' :: rest => some (.opened, b, rest)
    | '/' :: '>' :: rest => some (.closed, b, rest)
    | t => do
      if !s.head?.any isSpace then none
      else
        let (q, text, rest) ← readAttribute t
        let (value, references) ← attributeValue entities levels b.references text
        let said ← b.said.add? q value
        readAttributes entities levels fuel { b with said := said, references := references } rest

/-- Reads a start tag after its bracket, with `fuel` for more attributes than it has. -/
def readStartTag (entities : Entities) (levels fuel : Nat) (b : Builder) (s : List Char) :
    Option (TagEnd × Builder × List Char) := do
  let (q, rest) ← readQName s
  if q.label = "xmlns" then none
  else
    let (ending, b, rest) ← readAttributes entities levels fuel b rest
    match ending with
    | .opened => return (ending, ← b.startElement? q false, rest)
    | .closed => return (ending, ← b.startElement? q true, rest)
    | .cut => return (ending, b, rest)

/-- Reads an end tag after its opening mark. -/
def readEndTag (b : Builder) (s : List Char) : Option (Builder × List Char) := do
  let (q, rest) ← readQName s
  let rest ← skipClose rest
  return (← b.endElement? q, rest)

/-- Reads content, where `expand` reads the text of an entity, `started` tells whether a
start tag came before, and `depth` counts the end tags up to the one that ends the content.
The answer has what is left of the input. -/
def contentWith (entities : Entities) (levels : Nat)
    (expand : Builder → List Char → Option Builder) :
    Nat → Bool → Nat → Builder → List Char → Option (Builder × List Char)
  | 0, _, _, _, _ => none
  | _, _, _, b, [] => some (b, [])
  | fuel + 1, started, depth, b, s =>
    match s with
    | '<' :: '/' :: rest =>
      if !started then none
      else do
        let (b, rest) ← readEndTag b rest
        if depth ≤ 1 then return (b, rest)
        else contentWith entities levels expand fuel started (depth - 1) b rest
    | '<' :: '!' :: '-' :: '-' :: rest => do
      let rest ← skipComment rest
      contentWith entities levels expand fuel started depth (b.add .other) rest
    | '<' :: '!' :: '[' :: 'C' :: 'D' :: 'A' :: 'T' :: 'A' :: '[' :: rest => do
      let (text, rest) ← readUpTo [']', ']', '>'] rest
      contentWith entities levels expand fuel started depth (b.addText (lined text)) rest
    | '<' :: '?' :: rest => do
      let rest ← skipInstruction rest
      contentWith entities levels expand fuel started depth (b.add .other) rest
    | '<' :: rest => do
      let (ending, b, rest) ← readStartTag entities levels (fuel + 1) b rest
      let depth := if ending = .opened then depth + 1 else depth
      contentWith entities levels expand fuel true depth b rest
    | s => do
      let passage ← readPassage (isInside levels) (fuel + 1) s
      let b := if passage.text.isEmpty then b else b.addText passage.text
      match passage.entity with
      | none => contentWith entities levels expand fuel started depth b passage.rest
      | some name => do
        let text ← entities.lookup name
        let count ← countReference levels b.references
        let b ← expand { b with references := count } text
        let b := { b with references := settleReferences levels b.references }
        contentWith entities levels expand fuel started depth b passage.rest

/-- Reads the text of an entity as content, for entities that may nest `levels` deep from
here. -/
def entityContent (entities : Entities) : Nat → Builder → List Char → Option Builder
  | 0, _, _ => none
  | levels + 1, b, text =>
    (contentWith entities levels (entityContent entities levels) (text.length + 1) false 1 b
      text).map (·.1)

/-- Reads the content of the root element to its end tag. -/
def readContent (entities : Entities) (b : Builder) (s : List Char) :
    Option (Builder × List Char) :=
  contentWith entities maxNesting (entityContent entities maxNesting) (s.length + 1) true 1 b s

end Xml
end DialogueSheet
