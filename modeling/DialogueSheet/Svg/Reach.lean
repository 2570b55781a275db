/-
# What a picture draws

The elements of a picture are visited from the top.  Below an element that is none
of the picture and below a style sheet nothing is visited.  A `use` element has no
nodes of its own; it leads to the element that it names.  Below a `text` element
the texts count and the spans of it, `a`, `tspan`, `tref` and, right below it,
`textPath`; a `tref` holds no more than the text of the element that it names.

A `use` leads nowhere when it names itself or the `use` that led to it, or when a
`use` below the named element names either of the two.  All other circles are found
by their depth: a visit fails more than 1024 levels below the top, where those
below a `text` are not counted, and at an element after a million elements and
texts.
-/
import DialogueSheet.Svg.Element

namespace DialogueSheet
namespace Svg

/-- What a visit does at an element. -/
inductive Role where
  /-- Nothing. -/
  | skipped
  /-- Counts the texts and the spans below. -/
  | text
  /-- Goes on to the nodes below. -/
  | group
  /-- Goes on to another element, if there is one. -/
  | use (target : Option Xml.Element)

/-- The name in a link to a part of the same document. -/
def linkName? (link : String) : Option String :=
  match Xml.skipSpace link.toList with
  | '#' :: rest =>
    let name := rest.takeWhile (· ≠ ' ')
    if name.isEmpty || !(Xml.skipSpace (rest.dropWhile (· ≠ ' '))).isEmpty then none
    else some (String.ofList name)
  | _ => none

/-- The elements by their identifiers, in the order of their tags. -/
def identified (elements : List Xml.Element) : List (String × Xml.Element) :=
  elements.filterMap fun e => (e.head.value? none "id").map (·, e)

/-- The element that a `use` element names; of several with one identifier the first. -/
def named? (ids : List (String × Xml.Element)) (head : Xml.Head) : Option Xml.Element := do
  let link ← head.value? (some linkSpace) "href" <|> head.value? none "href"
  ids.lookup (← linkName? link)

/-- Whether a `use` below the named element names it or the `use` that names it. -/
def isCircular (ids : List (String × Xml.Element)) (head : Xml.Head) (target : Xml.Element) :
    Bool :=
  target.below.any fun e =>
    isNamed "use" e.head && (named? ids e.head).any fun far =>
      far.head.index = head.index || far.head.index = target.head.index

/-- The element that a `use` element leads to. -/
def target? (ids : List (String × Xml.Element)) (head : Xml.Head) : Option Xml.Element := do
  let target ← named? ids head
  if target.head.index = head.index || !isKnown target.head || isCircular ids head target then
    none
  else return target

/-- What a visit does at an element. -/
def roleOf (ids : List (String × Xml.Element)) (head : Xml.Head) : Role :=
  if !isKnown head || head.name = "style" then .skipped
  else if head.name = "text" then .text
  else if head.name = "use" then .use (target? ids head)
  else .group

/-- How many levels lie between the top and the deepest node that is visited, both included. -/
def maxLevels : Nat := 1025

/-- How many elements and texts may be counted before an element. -/
def maxCounted : Nat := 1000000

mutual

/-- Whether a node is a text or has one below it that is not empty. -/
def holdsText : Xml.Node → Bool
  | .text text => text ≠ ""
  | .element _ children => anyHoldsText children
  | .other => false

/-- Whether nodes are texts or have one below them that is not empty. -/
def anyHoldsText : List Xml.Node → Bool
  | [] => false
  | node :: nodes => holdsText node || anyHoldsText nodes

end

/-- Whether a `tref` element names an element of the picture with a text. -/
def borrowsText (ids : List (String × Xml.Element)) (head : Xml.Head) : Bool :=
  (named? ids head).any fun e => isKnown e.head && anyHoldsText e.children

/-- Whether an element is a span of a text; `directly` when it stands right below it. -/
def isSpan (directly : Bool) (head : Xml.Head) : Bool :=
  head.space = some space
    && (head.name = "a" || head.name = "tspan" || head.name = "tref"
      || directly && head.name = "textPath")

mutual

/-- Counts a node below a text. -/
def countSpan (ids : List (String × Xml.Element)) (directly : Bool) :
    Xml.Node → Nat → Option Nat
  | .text _, count => some (count + 1)
  | .other, count => some count
  | .element head children, count =>
    if !isSpan directly head then some count
    else if maxCounted ≤ count then none
    else if head.name = "tref" then
      some (count + 1 + if borrowsText ids head then 1 else 0)
    else countSpans ids false children (count + 1)

/-- Counts nodes below a text. -/
def countSpans (ids : List (String × Xml.Element)) (directly : Bool) :
    List Xml.Node → Nat → Option Nat
  | [], count => some count
  | node :: nodes, count =>
    (countSpan ids directly node count).bind (countSpans ids directly nodes)

end

/-- What a visit needs to know about the elements: their roles in the order of their tags, and
those with identifiers. -/
structure Guide where
  roles : Array Role
  ids : List (String × Xml.Element)

/-- The guide to the elements of a document. -/
def guideTo (elements : List Xml.Element) : Guide :=
  let ids := identified elements
  ⟨(elements.map fun e => roleOf ids e.head).toArray, ids⟩

/-- Visits a node, where `levels` counts the levels from it to the deepest one allowed, and
`origin` is the `use` that led here.  The answer is the number of elements and texts counted. -/
def visit (guide : Guide) : Nat → Option Nat → Xml.Node → Nat → Option Nat
  | 0, _, _, _ => none
  | _, _, .text _, count => some count
  | _, _, .other, count => some count
  | levels + 1, origin, .element head children, count =>
    match guide.roles[head.index]? with
    | none | some .skipped => some count
    | some role =>
      if maxCounted ≤ count then none
      else
        match role with
        | .group => children.foldlM (fun n node => visit guide levels origin node n) (count + 1)
        | .text => countSpans guide.ids true children (count + 1)
        | .use (some target) =>
          if origin = some target.head.index then some (count + 1)
          else
            match levels with
            | 0 => none
            | inner + 1 =>
              visit guide inner (some head.index) (.element target.head target.children)
                (count + 1)
        | _ => some (count + 1)

/-- Whether all that a document draws can be visited. -/
def isReachable (elements : List Xml.Element) (nodes : List Xml.Node) : Bool :=
  let guide := guideTo elements
  (nodes.foldlM (fun n node => visit guide maxLevels none node n) 0).isSome

example : linkName? " #a " = some "a" ∧ linkName? "a" = none ∧ linkName? "#a b" = none := by
  decide +kernel

end Svg
end DialogueSheet
