/-
# Selectors

| form | selects elements |
| --- | --- |
| `*`, `name` | of any name, of a name |
| `.word`, `#word` | with the word in `class`, with the word as `id` |
| `[a]`, `[a="v"]`, `[a=v]` | with an attribute, with a value of it |
| `[a~="v"]`, `[a\|="v"]` | by a word of the value, by what stands before a hyphen |
| `:first-child` | without an element before them |
| `:link`, `:hover`, `:lang(…)`, … | none, as nothing is visited or spoken |
| `a b`, `a > b`, `a + b` | below, right below, right after others |
-/
import DialogueSheet.Css.Lexeme
import DialogueSheet.Text.Blank

namespace DialogueSheet
namespace Css

/-- How the value of an attribute is compared. -/
inductive ValueTest where
  | present
  | equals (value : String)
  | word (value : String)
  | stem (value : String)
deriving DecidableEq

/-- What a simple selector asks of an element besides its name. -/
inductive Condition where
  | attr (name : String) (test : ValueTest)
  | firstChild
  | never
deriving DecidableEq

/-- Conditions on one element. -/
structure Compound where
  name : Option String
  conditions : List Condition
deriving DecidableEq

/-- How elements of neighbouring conditions are related. -/
inductive Combinator where
  | descendant
  | child
  | next
deriving DecidableEq

/-- Conditions on an element and on elements around it, the nearest ones in front; each of
the latter says how its element is related to the one after it. -/
structure Selector where
  subject : Compound
  around : List (Compound × Combinator)
deriving DecidableEq

/-- What conditions look at in an element: its name and the values of its attributes. -/
structure Subject where
  name : String
  value? : String → Option String

/-- Whether the value of an attribute passes. -/
def ValueTest.passes (value : String) : ValueTest → Bool
  | .present => true
  | .equals v => value = v
  | .word v => (Text.cutAt ' ' value.toList).contains v.toList
  | .stem v => value = v || (v ++ "-").toList.isPrefixOf value.toList

/-- Whether an element meets a condition, with the elements before it. -/
def Condition.holds (before : List Subject) (e : Subject) : Condition → Bool
  | .attr name test => (e.value? name).any test.passes
  | .firstChild => before.isEmpty
  | .never => false

/-- Whether an element meets conditions, with the elements before it. -/
def Compound.selects (before : List Subject) (e : Subject) (c : Compound) : Bool :=
  c.name.all (· = e.name) && c.conditions.all (Condition.holds before e)

/-- Whether elements at the top of a document meet conditions around the one after them, the
nearest first; nothing lies above the top. -/
def selectsAround : List (Compound × Combinator) → List Subject → Bool
  | [], _ => true
  | (c, .next) :: more, e :: before => c.selects before e && selectsAround more before
  | _ :: _, _ => false

/-- Whether a selector selects an element at the top of a document, with the elements before
it, the nearest first. -/
def Selector.selectsTop (s : Selector) (before : List Subject) (e : Subject) : Bool :=
  s.subject.selects before e && selectsAround s.around before

/-- The greatest count of conditions of one kind that matters. -/
def maxWeight : Nat := 255

/-- The weight of conditions: of identifiers first, then of others, then of names. -/
def weigh (compounds : List Compound) : Nat :=
  let conditions := compounds.flatMap (·.conditions)
  let ids := conditions.countP fun c =>
    match c with
    | .attr name _ => name = "id"
    | _ => false
  let names := compounds.countP (·.name.isSome)
  let part (n : Nat) : Nat := min n maxWeight
  (part ids * (maxWeight + 1) + part (conditions.length - ids)) * (maxWeight + 1) + part names

/-- The weight of a selector among others that select the same element. -/
def Selector.weight (s : Selector) : Nat := weigh (s.subject :: s.around.map (·.1))

/-- A selector while it is read. -/
structure Draft where
  /-- The conditions before the last relation, the nearest in front. -/
  around : List (Compound × Combinator)
  /-- The conditions that are read last; nothing stands at the start and after a relation. -/
  current : Option Compound
deriving DecidableEq

namespace Draft

/-- Adds a condition. -/
def condition (d : Draft) (c : Condition) : Draft :=
  let compound := d.current.getD ⟨none, []⟩
  { d with current := some { compound with conditions := compound.conditions ++ [c] } }

/-- Takes a relation, which must follow a condition. -/
def relate? (d : Draft) (c : Combinator) : Option Draft :=
  d.current.map fun compound => ⟨(compound, c) :: d.around, none⟩

/-- The whole selector, which cannot end in a relation. -/
def finish? (d : Draft) : Option Selector :=
  d.current.map fun compound => ⟨compound, d.around⟩

end Draft

/-- Reads a value to compare with, in quotation marks or an identifier. -/
def readOperand : Reader String := fun s =>
  if s.head? = some '"' ∨ s.head? = some '\x27' then
    (readString s).map fun (text, rest) => (String.ofList text, rest)
  else readIdent s

/-- Reads what a bracket holds after the name of the attribute. -/
def readTest : Reader ValueTest := fun s =>
  let valued (make : String → ValueTest) (s : List Char) :=
    (readOperand s).map fun (value, rest) => (make value, rest)
  match s with
  | ']' :: _ => .ok (.present, s)
  | '=' :: rest => valued .equals rest
  | '~' :: rest => readMark '=' rest >>= valued .word
  | '|' :: rest => readMark '=' rest >>= valued .stem
  | s => .error s

/-- Reads an attribute in brackets after the opening one. -/
def readBracket : Reader Condition := fun s => do
  let (name, rest) ← readIdent s
  let (test, rest) ← readTest rest
  return (.attr name test, ← readMark ']' rest)

/-- The classes of elements that no picture has. -/
def idleClasses : List String := ["link", "visited", "hover", "active", "focus"]

/-- Reads a class of elements after its colon. -/
def readPseudoClass : Reader Condition := fun s => do
  let (name, rest) ← readIdent s
  if name = "lang" then
    let rest ← readMark '(' rest
    let text := rest.takeWhile (· ≠ ')')
    let rest ← readMark ')' (rest.dropWhile (· ≠ ')'))
    if (Text.trimChars text).isEmpty then .error rest else return (.never, rest)
  else if name = "first-child" then return (.firstChild, rest)
  else if idleClasses.contains name then return (.never, rest)
  else .error rest

/-- The input after the comments and blanks at its front, where every slash must open a
comment. -/
def skipComments : Nat → List Char → Except (List Char) (List Char)
  | fuel + 1, '/' :: '*' :: rest =>
    match afterComment? rest with
    | some rest => skipComments fuel (skipSpace rest)
    | none => .error []
  | _, '/' :: rest => .error rest
  | _, s => .ok s

/-- Reads a simple condition, if one begins here. -/
def readCondition? : List Char → Option (Except (List Char) (Condition × List Char))
  | '#' :: rest => some ((readIdent rest).map fun (word, after) =>
      (.attr "id" (.equals word), after))
  | '.' :: rest => some ((readIdent rest).map fun (word, after) =>
      (.attr "class" (.word word), after))
  | '[' :: rest => some (readBracket rest)
  | ':' :: rest => some (readPseudoClass rest)
  | _ => none

/-- Whether blanks before this point relate what stands on both sides. -/
def relatesBefore : List Char → Bool
  | [] => false
  | c :: _ => c ≠ '>' && c ≠ '+' && c ≠ ',' && c ≠ '\x7b'

/-- Reads a selector up to a comma or an opening brace: the selector, if it is well-formed
and known, and where reading stopped. -/
def readSelectorFor : Nat → Draft → List Char → Option Selector × List Char
  | 0, d, s => (d.finish?, s)
  | _, d, [] => (d.finish?, [])
  | fuel + 1, d, c :: rest =>
    match readCondition? (c :: rest) with
    | some (.ok (condition, after)) => readSelectorFor fuel (d.condition condition) after
    | some (.error stopped) => (none, stopped)
    | none =>
      if c = '*' then
        if d.current.isSome then (none, c :: rest)
        else readSelectorFor fuel { d with current := some ⟨none, []⟩ } rest
      else if c = '>' ∨ c = '+' then
        match d.relate? (if c = '>' then .child else .next) with
        | some d => readSelectorFor fuel d rest
        | none => (none, c :: rest)
      else if isSpace c then
        if d.current.isNone then readSelectorFor fuel d (skipSpace rest)
        else
          match skipComments (rest.length + 1) (skipSpace rest) with
          | .error stopped => (none, stopped)
          | .ok after =>
            if relatesBefore after then
              readSelectorFor fuel ((d.relate? .descendant).getD d) after
            else readSelectorFor fuel d after
      else if c = '/' then
        match rest with
        | '*' :: inside =>
          match afterComment? inside with
          | some after => readSelectorFor fuel d after
          | none => (none, [])
        | _ => (d.finish?, c :: rest)
      else if c = ',' ∨ c = '\x7b' then (d.finish?, c :: rest)
      else
        match readIdent (c :: rest) with
        | .error stopped => (none, stopped)
        | .ok (name, after) =>
          if d.current.isSome then (none, after)
          else readSelectorFor fuel { d with current := some ⟨some name, []⟩ } after

/-- Reads a selector. -/
def readSelector (s : List Char) : Option Selector × List Char :=
  readSelectorFor (s.length + 1) ⟨[], none⟩ s

example : (readSelector "svg.a /* b */ > #c,d".toList).1
    = some ⟨⟨none, [.attr "id" (.equals "c")]⟩,
        [(⟨some "svg", [.attr "class" (.word "a")]⟩, .child)]⟩ := by decide +kernel

end Css
end DialogueSheet
