/-
# Writing JSON

The compact form: no blanks, fields in the order of the object, characters
escaped only where the grammar asks for it.
-/
import DialogueSheet.Json.Value
import DialogueSheet.Number.Decimal
import DialogueSheet.Number.Hexadecimal

namespace DialogueSheet
namespace Json

/-- A character as it stands inside a JSON string. -/
def writtenChar (c : Char) : List Char :=
  if c = '"' then ['\\', '"']
  else if c = '\\' then ['\\', '\\']
  else if c = '\x08' then ['\\', 'b']
  else if c = '\x0c' then ['\\', 'f']
  else if c = '\n' then ['\\', 'n']
  else if c = '\r' then ['\\', 'r']
  else if c = '\t' then ['\\', 't']
  else if c.toNat < 0x20 then
    ['\\', 'u'] ++ hexDigitsOf 4 c.toNat
  else [c]

/-- A JSON string. -/
def writtenText (s : String) : List Char := '"' :: s.toList.flatMap writtenChar ++ ['"']

mutual

/-- The compact text of a value. -/
def written : Json → List Char
  | .null => ['n', 'u', 'l', 'l']
  | .bool true => ['t', 'r', 'u', 'e']
  | .bool false => ['f', 'a', 'l', 's', 'e']
  | .whole i => integerText i
  | .real x => x.dataText.toList
  | .text s => writtenText s
  | .list items => '[' :: writtenItems items
  | .object fields => '\x7b' :: writtenFields fields

/-- The items of an array after its opening bracket. -/
def writtenItems : List Json → List Char
  | [] => [']']
  | [v] => written v ++ [']']
  | v :: w :: vs => written v ++ ',' :: writtenItems (w :: vs)

/-- The fields of an object after its opening brace. -/
def writtenFields : List (String × Json) → List Char
  | [] => ['\x7d']
  | [(k, v)] => writtenText k ++ ':' :: written v ++ ['\x7d']
  | (k, v) :: f :: fs => writtenText k ++ ':' :: written v ++ ',' :: writtenFields (f :: fs)

end

/-- The compact text of a value. -/
def render (v : Json) : String := String.ofList (written v)

end Json
end DialogueSheet
