/-
# Trees of markup

A document is a list of nodes.  An element has a head, which is what its tag
says, and children; comments and instructions are kept only as places between
other nodes.  Elements are numbered in the order of their tags.
-/
import DialogueSheet.Xml.Scope

namespace DialogueSheet
namespace Xml

/-- What the tag of an element says. -/
structure Head where
  /-- The place of the tag among all tags. -/
  index : Nat
  space : Option String
  name : String
  attributes : List Attribute
deriving DecidableEq

/-- A part of a document. -/
inductive Node where
  | element (head : Head) (children : List Node)
  | text (text : String)
  | other

/-- An element, apart from the nodes around it. -/
structure Element where
  head : Head
  children : List Node

/-- The value of an attribute. -/
def Head.value? (head : Head) (space : Option String) (name : String) : Option String :=
  (head.attributes.find? fun a => a.space = space && a.name = name).map (·.value)

/-- The text that an element begins with. -/
def Element.firstText? (e : Element) : Option String :=
  match e.children with
  | .text text :: _ => some text
  | _ => none

mutual

/-- Puts the elements of a node in front of others, in the order of their tags. -/
def Node.elementsBefore : Node → List Element → List Element
  | .element head children, rest => ⟨head, children⟩ :: elementsBefore children rest
  | .text _, rest => rest
  | .other, rest => rest

/-- Puts the elements of nodes in front of others, in the order of their tags. -/
def elementsBefore : List Node → List Element → List Element
  | [], rest => rest
  | node :: nodes, rest => node.elementsBefore (elementsBefore nodes rest)

end

/-- The elements among nodes and below them, in the order of their tags. -/
def elements (nodes : List Node) : List Element := elementsBefore nodes []

/-- The elements below an element. -/
def Element.below (e : Element) : List Element := elements e.children

end Xml
end DialogueSheet
