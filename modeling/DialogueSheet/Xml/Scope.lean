/-
# Namespaces

The attributes of a tag declare namespaces and give values.  `xmlns:p="…"`
declares the label `p`, and `xmlns="…"` the namespace of elements without a
label.  A declaration holds in the element and in all elements below it that do
not declare the same label.

The label `xml` belongs to a namespace of its own and cannot be declared for
another one, nor can another label be declared for that namespace; the namespace
of declarations themselves cannot be declared at all.
-/
import DialogueSheet.Xml.Lexeme

namespace DialogueSheet
namespace Xml

/-- Declared namespaces by their labels, the ones that count in front; the default
one has no label. -/
abbrev Scope := List (Option String × String)

/-- What the namespaces of the standards begin with. -/
def standards : String := "http://www.w3.org/"

/-- The namespace that belongs to the label `xml`. -/
def xmlSpace : String := standards ++ "XML/1998/namespace"

/-- The namespace of declarations. -/
def declarationSpace : String := standards ++ "2000/xmlns/"

/-- An attribute with its namespace, if it has one. -/
structure Attribute where
  space : Option String
  name : String
  value : String
deriving DecidableEq

/-- What the attributes of a tag say: the namespaces that they declare and the values
that they give. -/
structure Said where
  declared : Scope
  given : List (QName × String)

namespace Said

/-- Nothing is said. -/
def nothing : Said := ⟨[], []⟩

/-- Takes the declaration of a label. -/
def declare? (said : Said) (label space : String) : Option Said :=
  if space = declarationSpace ∨ (label = "xml") ≠ (space = xmlSpace)
      ∨ said.declared.any (·.1 = some label) then none
  else if space = xmlSpace then some said
  else some { said with declared := said.declared ++ [(some label, space)] }

/-- Takes the declaration of the default namespace; of several in a tag the first counts. -/
def declareDefault? (said : Said) (space : String) : Option Said :=
  if space = declarationSpace ∨ space = xmlSpace then none
  else some { said with declared := said.declared ++ [(none, space)] }

/-- Takes an attribute. -/
def add? (said : Said) (q : QName) (value : String) : Option Said :=
  if q.label = "xmlns" then said.declare? q.name value
  else if q.name = "xmlns" then said.declareDefault? value
  else some { said with given := said.given ++ [(q, value)] }

end Said

/-- The namespace of an element, if it has one; its label must be declared. -/
def Scope.elementSpace? (scope : Scope) (q : QName) : Option (Option String) :=
  if q.label = "" then some (scope.lookup none) else (scope.lookup (some q.label)).map some

/-- The namespace of an attribute; one without a label has none. -/
def Scope.attributeSpace? (scope : Scope) (q : QName) : Option (Option String) :=
  if q.label = "" then some none
  else if q.label = "xml" then some (some xmlSpace)
  else (scope.lookup (some q.label)).map some

/-- Whether no item occurs twice. -/
def allDifferent {α : Type} [DecidableEq α] : List α → Bool
  | [] => true
  | a :: rest => !rest.contains a && allDifferent rest

/-- The scope and the attributes of a tag in an outer scope; no two attributes may have one
name in one namespace. -/
def Said.resolve? (said : Said) (outer : Scope) : Option (Scope × List Attribute) := do
  let scope : Scope := said.declared ++ outer
  let attributes ← said.given.mapM fun (q, value) =>
    (scope.attributeSpace? q).map fun space => (⟨space, q.name, value⟩ : Attribute)
  if allDifferent (attributes.map fun a => (a.space, a.name)) then return (scope, attributes)
  else none

example : (Said.nothing.add? ⟨"xmlns", "xml"⟩ "urn:other").isNone := by decide +kernel
example : (Said.nothing.add? ⟨"", "xmlns"⟩ "").map (·.declared) = some [(none, "")] := by
  decide +kernel

end Xml
end DialogueSheet
