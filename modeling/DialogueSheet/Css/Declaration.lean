/-
# Declarations

A declaration is a name, a colon, a value of terms, perhaps a mark of importance,
and semicolons.  A malformed one ends the list that it stands in.
-/
import DialogueSheet.Css.Lexeme
import DialogueSheet.Text.Blank

namespace DialogueSheet
namespace Css

/-- A name with its value. -/
structure Declaration where
  name : String
  value : String
deriving DecidableEq

/-- Reads terms with blanks between them: where the last one ends, and where reading
stands. -/
def readTerms : Nat → List Char → List Char → Except (List Char) (List Char × List Char)
  | 0, ending, s => .ok (ending, s)
  | fuel + 1, ending, s =>
    match skipTerm s with
    | .error stopped => .ok (ending, stopped)
    | .ok rest => skipBlank rest >>= readTerms fuel rest

/-- Skips a mark of importance, which has no effect. -/
def skipImportance (s : List Char) : Except (List Char) (List Char) :=
  match s with
  | '!' :: rest => do
    let rest ← skipBlank rest
    let word := "important".toList
    return if word.isPrefixOf rest then rest.drop word.length else rest
  | s => .ok s

/-- Skips semicolons and the blanks after them. -/
def skipSemicolons : Nat → List Char → Except (List Char) (List Char)
  | fuel + 1, ';' :: rest => skipBlank rest >>= skipSemicolons fuel
  | _, s => .ok s

/-- Reads a declaration and the semicolons after it; an asterisk may stand before its name. -/
def readDeclaration : Reader Declaration := fun s => do
  let s ← skipBlank s
  let s := match s with
    | '*' :: rest => rest
    | s => s
  let (name, s) ← readIdent s
  let s ← skipBlank s >>= readMark ':' >>= skipBlank
  let (ending, rest) ← readTerms (s.length + 1) s s
  let value := Text.trimChars (s.take (s.length - ending.length))
  let rest ← skipBlank rest >>= skipImportance >>= skipBlank
  let rest ← skipSemicolons (rest.length + 1) rest
  if value.isEmpty then .error rest
  else .ok (⟨name, String.ofList value⟩, rest)

/-- The declarations of a text that holds nothing else, up to the first malformed one. -/
def declarationsFor : Nat → List Char → List Declaration
  | 0, _ => []
  | fuel + 1, s =>
    match readDeclaration s with
    | .ok (d, rest) => d :: declarationsFor fuel rest
    | .error _ => []

/-- The declarations of a text that holds nothing else. -/
def declarations (text : String) : List Declaration :=
  declarationsFor (text.length + 1) text.toList

example : declarations "a: 1px 2px !important; *b:c;; d" = [⟨"a", "1px 2px"⟩, ⟨"b", "c"⟩] := by
  decide +kernel

end Css
end DialogueSheet
