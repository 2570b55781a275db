/-
# Descriptions with placeholders

| placeholder | shows |
| --- | --- |
| `<?n>` | the values of parameter `n` up to a level, joined with `/` |
| `<b:x>`, `<d:x>`, `<c:x>`, `<s:x>` | the name of a buff, debuff, control or special effect |

`n` is a run of decimal digits and `x` the shortest run of characters before a
`>`, not empty and on one line.  Placeholders are found from left to right; what
they show is not searched again.
-/
import DialogueSheet.Localization.Tables
import DialogueSheet.Markup.Piece
import DialogueSheet.Number.Decimal
import DialogueSheet.Text.Digit
import DialogueSheet.Typeset.Request

namespace DialogueSheet

/-- The color of parameter values. -/
def parameterColor : Color := Color.ofWord 0x34a4e4

/-- The color of effect names. -/
def effectColor : Color := Color.ofWord 0xff9700

/-- A placeholder. -/
inductive Placeholder where
  | parameter (digits : List Char)
  | effect (kind : Char) (name : List Char)
deriving DecidableEq

namespace Placeholder

/-- The kinds of effects and how the keys of their names begin. -/
def effectKinds : List (Char × String) :=
  [('b', "Buff_"), ('d', "Debuff_"), ('c', "CC_"), ('s', "Special_")]

/-- Reads a placeholder at the front of a text: the placeholder and its length. -/
def read? : List Char → Option (Placeholder × Nat)
  | '<' :: '?' :: rest =>
    let digits := rest.takeWhile Text.isDecimalDigit
    match digits, rest.drop digits.length with
    | [], _ => none
    | _ :: _, '>' :: _ => some (.parameter digits, digits.length + 3)
    | _, _ => none
  | '<' :: kind :: ':' :: c :: rest =>
    let tail := rest.takeWhile fun d => d ≠ '>' ∧ d ≠ '\n'
    if (effectKinds.lookup kind).isSome ∧ c ≠ '\n' then
      match rest.drop tail.length with
      | '>' :: _ => some (.effect kind (c :: tail), tail.length + 5)
      | _ => none
    else none
  | _ => none

end Placeholder

/-- The number written with ASCII digits. -/
def asciiNumber? (digits : List Char) : Option Nat :=
  if digits.all fun c => (digitValue? c).isSome then some (natOfDigits digits) else none

/-- The first `level` values of the numbered parameter, joined; parameters are
counted from 1, and a number without a parameter shows nothing. -/
def parameterText (parameters : List (List String)) (level : Nat) (digits : List Char) : String :=
  match asciiNumber? digits with
  | some (n + 1) => String.intercalate "/" (((parameters[n]?).getD []).take level)
  | _ => ""

/-- The key of the name of an effect. -/
def effectKey (kind : Char) (name : List Char) : String :=
  (Placeholder.effectKinds.lookup kind).getD "" ++ String.ofList name

/-- The spans that a piece shows. -/
def Piece.spans (parameters : List (List String)) (level : Nat) (base : Color)
    (language : Language) (localization : Localization) : Piece Placeholder → List Span
  | .plain chars => [⟨String.ofList chars, base⟩]
  | .mark (.parameter digits) =>
    let text := parameterText parameters level digits
    if text = "" then [] else [⟨text, parameterColor⟩]
  | .mark (.effect kind name) =>
    [⟨localization.localize "BuffName" (effectKey kind name) language, effectColor⟩]

/-- The spans of a description at a level. -/
def richSpans (text : String) (parameters : List (List String)) (level : Nat) (base : Color)
    (language : Language) (localization : Localization) : List Span :=
  (piecesOf Placeholder.read? 0 text.toList).flatMap
    (Piece.spans parameters level base language localization)

example : piecesOf Placeholder.read? 0 "a<?1><b:>>".toList =
    [.plain ['a'], .mark (.parameter ['1']), .mark (.effect 'b' ['>'])] := by
  decide +kernel

end DialogueSheet
