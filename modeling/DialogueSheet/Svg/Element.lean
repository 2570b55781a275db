/-
# Elements of pictures

An element belongs to a picture when it is in the namespace of pictures and its
name is known.  Of its attributes those without a namespace count, and those in
the namespaces of pictures, of links and of markup itself, by their names alone;
of several with one name the first counts.
-/
import DialogueSheet.Xml.Node

namespace DialogueSheet
namespace Svg

/-- The namespace of vector pictures. -/
def space : String := Xml.standards ++ "2000/svg"

/-- The namespace of links. -/
def linkSpace : String := Xml.standards ++ "1999/xlink"

/-- The names that elements of pictures have. -/
def knownNames : List String := [
  "a", "circle", "clipPath", "defs", "ellipse", "feBlend", "feColorMatrix",
  "feComponentTransfer", "feComposite", "feConvolveMatrix", "feDiffuseLighting",
  "feDisplacementMap", "feDistantLight", "feDropShadow", "feFlood", "feFuncA", "feFuncB",
  "feFuncG", "feFuncR", "feGaussianBlur", "feImage", "feMerge", "feMergeNode", "feMorphology",
  "feOffset", "fePointLight", "feSpecularLighting", "feSpotLight", "feTile", "feTurbulence",
  "filter", "g", "image", "line", "linearGradient", "marker", "mask", "path", "pattern",
  "polygon", "polyline", "radialGradient", "rect", "stop", "style", "svg", "switch", "symbol",
  "text", "textPath", "tref", "tspan", "use"]

/-- Whether the attributes of a namespace count. -/
def countsFrom : Option String → Bool
  | none => true
  | some s => s = space || s = linkSpace || s = Xml.xmlSpace

/-- Whether an element belongs to a picture. -/
def isKnown (head : Xml.Head) : Bool := head.space = some space && knownNames.contains head.name

/-- Whether an element is one of a picture with the given name. -/
def isNamed (name : String) (head : Xml.Head) : Bool :=
  head.space = some space && head.name = name

/-- The value of an attribute that counts. -/
def value? (head : Xml.Head) (name : String) : Option String :=
  (head.attributes.find? fun a => countsFrom a.space && a.name = name).map (·.value)

end Svg
end DialogueSheet
