/-
# Quoted texts

`quoted` puts a text between quotation marks so that every character of it can
be told: the quotation mark, the backslash and the usual controls by a letter,
every other hidden character by its number in braces.
-/
import DialogueSheet.Number.Hexadecimal
import DialogueSheet.Text.Hidden

namespace DialogueSheet
namespace Text

/-- A character as it stands inside a quoted text. -/
def quotedChar (c : Char) : List Char :=
  if c = '\x00' then ['\\', '0']
  else if c = '\t' then ['\\', 't']
  else if c = '\r' then ['\\', 'r']
  else if c = '\n' then ['\\', 'n']
  else if c = '\\' then ['\\', '\\']
  else if c = '"' then ['\\', '"']
  else if isHidden c then ['\\', 'u', '\x7b'] ++ hexDigits c.toNat ++ ['\x7d']
  else [c]

/-- A text between quotation marks. -/
def quoted (s : String) : String :=
  String.ofList ('"' :: s.toList.flatMap quotedChar ++ ['"'])

example : quoted "a\"b\\c\n\x00d\u200b" = "\"a\\\"b\\\\c\\n\\0d\\u\x7b200b\x7d\"" := by
  decide +kernel

end Text
end DialogueSheet
