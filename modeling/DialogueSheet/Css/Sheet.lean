/-
# Style sheets

A sheet is a list of rules, each selectors with a block of declarations.  At-rules
are skipped.  A rule whose selectors cannot be read declares nothing.
-/
import DialogueSheet.Css.Declaration
import DialogueSheet.Css.Selector

namespace DialogueSheet
namespace Css

/-- Declarations for the elements of a selector. -/
structure Rule where
  selector : Selector
  declarations : List Declaration
deriving DecidableEq

/-- The input after its first character at which as many braces are closed as opened;
`depth` counts the open ones so far. -/
def skipBlock : Int → List Char → List Char
  | _, [] => []
  | depth, c :: rest =>
    let depth := if c = '\x7b' then depth + 1 else if c = '\x7d' then depth - 1 else depth
    if depth = 0 then rest else skipBlock depth rest

/-- Reads the declarations of a block up to its closing brace; a malformed one is the last,
and reading goes on behind that brace. -/
def readBlock : Nat → List Char → List Declaration × List Char
  | 0, s => ([], s)
  | _, [] => ([], [])
  | fuel + 1, s =>
    if s.head? = some '\x7d' then ([], s)
    else
      match readDeclaration s with
      | .ok (d, rest) =>
        let (ds, rest) := readBlock fuel rest
        (d :: ds, rest)
      | .error stopped => ([], skipBlock 1 stopped)

/-- The input after a character, if that stands at its front. -/
def skipMark (mark : Char) (s : List Char) : List Char :=
  if s.head? = some mark then s.drop 1 else s

/-- Reads selectors with commas between them up to an opening brace. -/
def readSelectors : Nat → List Char → List Selector × List Char
  | 0, s => ([], s)
  | fuel + 1, s =>
    let (first, rest) := readSelector s
    match skipSpace rest with
    | ',' :: rest =>
      let (more, rest) := readSelectors fuel rest
      (first.toList ++ more, rest)
    | rest => (first.toList, rest.dropWhile (· ≠ '\x7b'))

/-- Reads a rule. -/
def readRule (s : List Char) : List Rule × List Char :=
  let (selectors, rest) := readSelectors (s.length + 1) (skipMark ',' s)
  let block := skipMark '\x7b' rest
  let (declarations, rest) := readBlock (block.length + 1) block
  (selectors.map (⟨·, declarations⟩), skipMark '\x7d' rest)

/-- The input after an at-rule, from behind its mark: up to a semicolon or over a block. -/
def skipAtRule (s : List Char) : List Char :=
  match readIdent s with
  | .error stopped => stopped
  | .ok (_, rest) =>
    match rest.dropWhile fun c => c ≠ ';' ∧ c ≠ '\x7b' with
    | ';' :: rest => rest
    | rest => skipBlock 0 rest

/-- Reads the rules of a sheet. -/
def rulesFor : Nat → List Char → List Rule
  | 0, _ => []
  | fuel + 1, s =>
    match skipBlank s with
    | .error _ | .ok [] => []
    | .ok ('@' :: rest) => rulesFor fuel (skipAtRule rest)
    | .ok s =>
      let (first, rest) := readRule s
      first ++ rulesFor fuel rest

/-- The rules of a sheet. -/
def rules (text : String) : List Rule := rulesFor (text.length + 1) text.toList

/-- Puts a rule in front of the first one that does not weigh less; each has its weight with
it. -/
def insertByWeight (rule : Nat × Rule) : List (Nat × Rule) → List (Nat × Rule)
  | [] => [rule]
  | r :: rest => if rule.1 ≤ r.1 then rule :: r :: rest else r :: insertByWeight rule rest

/-- Rules in the order in which they take effect: by weight, and of one weight in their own
order. -/
def byWeight (rules : List Rule) : List Rule :=
  (rules.foldr (fun rule sorted => insertByWeight (rule.selector.weight, rule) sorted) []).map
    (·.2)

example : (rules "@media x \x7b a \x7b b: c \x7d \x7d #a, d \x7b e: f; 1 \x7d").map (·.declarations)
    = [[⟨"e", "f"⟩], [⟨"e", "f"⟩]] := by decide +kernel

end Css
end DialogueSheet
