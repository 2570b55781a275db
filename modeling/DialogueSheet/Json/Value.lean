/-
# JSON values

A number is a `whole` when it is written without fraction and exponent and fits
64 bits, and a `real` otherwise.  An object has its fields in ascending order of
their keys, by code point; of two fields with one key the later one stays.
-/
import DialogueSheet.Number.Binary

namespace DialogueSheet

/-- A JSON value. -/
inductive Json where
  | null
  | bool (value : Bool)
  | whole (value : Int)
  | real (value : Binary64)
  | text (value : String)
  | list (items : List Json)
  | object (fields : List (String × Json))

namespace Json

/-- The order of keys: by the first code point that differs, a shorter key before
its continuations. -/
def keyBefore : List Char → List Char → Bool
  | [], [] => false
  | [], _ :: _ => true
  | _ :: _, [] => false
  | a :: s, b :: t => if a.toNat = b.toNat then keyBefore s t else a.toNat < b.toNat

/-- Fields with one more; a field of the same key gives way. -/
def putField (key : String) (value : Json) : List (String × Json) → List (String × Json)
  | [] => [(key, value)]
  | (k, v) :: rest =>
    if k = key then (key, value) :: rest
    else if keyBefore key.toList k.toList then (key, value) :: (k, v) :: rest
    else (k, v) :: putField key value rest

/-- The object with these fields, later ones winning. -/
def ofFields (fields : List (String × Json)) : Json :=
  .object (fields.foldl (fun acc (k, v) => putField k v acc) [])

/-- The value of a field of an object. -/
def field? (key : String) : Json → Option Json
  | .object fields => fields.lookup key
  | _ => none

/-- The text of a string. -/
def text? : Json → Option String
  | .text s => some s
  | _ => none

/-- The truth value of a Boolean. -/
def bool? : Json → Option Bool
  | .bool b => some b
  | _ => none

/-- A whole number from `low` to `high`. -/
def within? (low high : Int) : Json → Option Int
  | .whole i => if low ≤ i ∧ i ≤ high then some i else none
  | _ => none

/-- A whole number from `0` to `high`. -/
def count? (high : Nat) (v : Json) : Option Nat := (v.within? 0 high).map Int.toNat

/-- Any number, rounded to 64 bits. -/
def number? : Json → Option Binary64
  | .whole i => some (Binary.ofInt i)
  | .real x => some x
  | _ => none

/-- The items of an array, each read by `item`. -/
def listOf? {α : Type} (item : Json → Option α) : Json → Option (List α)
  | .list items => items.mapM item
  | _ => none

/-- Nothing for `null`, else the value read by `item`. -/
def optional? {α : Type} (item : Json → Option α) : Json → Option (Option α)
  | .null => some none
  | v => (item v).map some

/-- The parts of a record whose members have these names in this order: an
object, or an array that may end early but not run over. -/
def members? (names : List String) : Json → Option (List (String × Json))
  | .object fields => some fields
  | .list items => if items.length ≤ names.length then some (names.zip items) else none
  | _ => none

/-- A member read by `item`, or `default` where it is missing. -/
def member {α : Type} (members : List (String × Json)) (name : String) (default : α)
    (item : Json → Option α) : Option α :=
  match members.lookup name with
  | none => some default
  | some v => item v

/-- The rows of a table: the items of an array, the values of an object in the
order of their keys, or a value alone. -/
def rows : Json → List Json
  | .list items => items
  | .object fields => fields.map (·.2)
  | v => [v]

end Json
end DialogueSheet
