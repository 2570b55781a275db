/-
# Building a tree from tags

Tags and texts come in the order of the document.  The elements that are open
wait in frames, the innermost one in front; an end tag must name the innermost one
and closes it.  Texts that follow each other are one text.
-/
import DialogueSheet.Xml.Node

namespace DialogueSheet
namespace Xml

/-- An open element; its children stand with the last one in front. -/
structure Frame where
  name : QName
  head : Head
  scope : Scope
  children : List Node

/-- A tree under construction. -/
structure Builder where
  frames : List Frame
  /-- The nodes outside all open elements, the last one in front. -/
  top : List Node
  /-- The number of tags. -/
  count : Nat
  /-- The attributes that are read since the last tag was complete. -/
  said : Said
  /-- The references below the current one of the document itself. -/
  references : Nat

namespace Builder

/-- Nothing is built. -/
def start : Builder := ⟨[], [], 0, .nothing, 0⟩

/-- The scope at the current place. -/
def scope (b : Builder) : Scope :=
  match b.frames with
  | frame :: _ => frame.scope
  | [] => []

/-- Adds a node, after a change of the nodes before it. -/
def change (b : Builder) (f : List Node → List Node) : Builder :=
  match b.frames with
  | frame :: outer => { b with frames := { frame with children := f frame.children } :: outer }
  | [] => { b with top := f b.top }

/-- Adds a node. -/
def add (b : Builder) (node : Node) : Builder := b.change (node :: ·)

/-- Adds a text. -/
def addText (b : Builder) (text : List Char) : Builder :=
  b.change fun nodes =>
    match nodes with
    | .text before :: rest => .text (before ++ String.ofList text) :: rest
    | nodes => .text (String.ofList text) :: nodes

/-- Takes the end of a start tag; the element is over with it when `closed`. -/
def startElement? (b : Builder) (q : QName) (closed : Bool) : Option Builder := do
  let (scope, attributes) ← b.said.resolve? b.scope
  let space ← scope.elementSpace? q
  let head : Head := ⟨b.count, space, q.name, attributes⟩
  let b := { b with count := b.count + 1, said := .nothing }
  if closed then return b.add (.element head [])
  else return { b with frames := ⟨q, head, scope, []⟩ :: b.frames }

/-- Takes an end tag.  Attributes of a start tag that never came to its end must be in
order and are lost. -/
def endElement? (b : Builder) (q : QName) : Option Builder := do
  let _ ← b.said.resolve? b.scope
  match b.frames with
  | [] => none
  | frame :: outer =>
    if frame.name = q then
      let b := { b with frames := outer, said := .nothing }
      return b.add (.element frame.head frame.children.reverse)
    else none

/-- The nodes of a tree without open elements. -/
def finish? (b : Builder) : Option (List Node) :=
  if b.frames.isEmpty then some b.top.reverse else none

end Builder

end Xml
end DialogueSheet
