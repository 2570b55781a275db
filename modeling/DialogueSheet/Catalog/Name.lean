/-
# Names as they are compared

Names are compared without the blanks around them, in lower case, and with
full-width parentheses made ASCII ones.  `水X` also stands for the swimsuit
variant of `X`.
-/
import DialogueSheet.Text.Blank
import DialogueSheet.Text.Casing

namespace DialogueSheet

/-- A full-width parenthesis as its ASCII form. -/
def asciiParenthesis (c : Char) : Char :=
  if c = '（' then '(' else if c = '）' then ')' else c

/-- The characters of a name as they are compared. -/
def normalChars (name : List Char) : List Char :=
  ((Text.trimChars name).map asciiParenthesis).flatMap Text.lower

/-- A name as it is compared. -/
def normalizeName (name : String) : String := String.ofList (normalChars name.toList)

/-- The name of the swimsuit variant that a query names, if it names one. -/
def themedVariant? (query : String) : Option String :=
  match Text.trimChars query.toList with
  | '水' :: c :: rest => some (String.ofList (c :: rest ++ "(泳装)".toList))
  | _ => none

example : normalizeName " ＡＲＵ（Ｘ） " = "ａｒｕ(ｘ)" := by decide +kernel
example : themedVariant? "水白子" = some "白子(泳装)" := by decide +kernel

end DialogueSheet
