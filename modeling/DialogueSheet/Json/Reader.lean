/-
# Reading JSON

The grammar is the standard one: four blank characters, no comments, no
trailing commas, escapes that must pair up surrogates, nothing after the value.
Arrays and objects nest at most 127 deep.

A literal that is no whole number is read in two rounded steps: its digits as an
integer of at most 64 bits, then one multiplication or division by a power of
ten.  A literal beyond the greatest number is refused.
-/
import DialogueSheet.Json.Value
import DialogueSheet.Number.Decimal
import DialogueSheet.Number.Hexadecimal

namespace DialogueSheet
namespace Json

/-- The greatest depth of nested arrays and objects. -/
def maxDepth : Nat := 127

/-- The input from its first character that is not blank. -/
def skipBlank (s : List Char) : List Char :=
  s.dropWhile fun c => c == ' ' || c == '\n' || c == '\t' || c == '\r'

/-! ## Strings -/

/-- The number of four hexadecimal digits. -/
def hexFour? (a b c d : Char) : Option Nat := do
  let a ← hexValue? a
  let b ← hexValue? b
  let c ← hexValue? c
  let d ← hexValue? d
  return ((a * 16 + b) * 16 + c) * 16 + d

/-- The character of two surrogates in their order. -/
def joinSurrogates? (high low : Nat) : Option Char :=
  if 0xd800 ≤ high ∧ high < 0xdc00 ∧ 0xdc00 ≤ low ∧ low < 0xe000 then
    some (Char.ofNat (0x10000 + (high - 0xd800) * 0x400 + (low - 0xdc00)))
  else none

/-- The character that stands for itself or a control after a backslash. -/
def escaped? (c : Char) : Option Char :=
  if c = '"' ∨ c = '\\' ∨ c = '/' then some c
  else if c = 'b' then some '\x08'
  else if c = 'f' then some '\x0c'
  else if c = 'n' then some '\n'
  else if c = 'r' then some '\r'
  else if c = 't' then some '\t'
  else none

/-- Reads a string after its opening quotation mark: its characters and the rest. -/
def readString : List Char → Option (List Char × List Char)
  | [] => none
  | '"' :: rest => some ([], rest)
  | '\\' :: 'u' :: a :: b :: c :: d :: '\\' :: 'u' :: e :: f :: g :: h :: rest => do
    let first ← hexFour? a b c d
    if 0xd800 ≤ first ∧ first < 0xe000 then
      let char ← joinSurrogates? first (← hexFour? e f g h)
      let (tail, rest) ← readString rest
      return (char :: tail, rest)
    else
      let (tail, rest) ← readString ('\\' :: 'u' :: e :: f :: g :: h :: rest)
      return (Char.ofNat first :: tail, rest)
  | '\\' :: 'u' :: a :: b :: c :: d :: rest => do
    let first ← hexFour? a b c d
    if 0xd800 ≤ first ∧ first < 0xe000 then none
    else
      let (tail, rest) ← readString rest
      return (Char.ofNat first :: tail, rest)
  | '\\' :: c :: rest => do
    let char ← escaped? c
    let (tail, rest) ← readString rest
    return (char :: tail, rest)
  | c :: rest =>
    if c = '\\' ∨ c.toNat < 0x20 then none
    else do
      let (tail, rest) ← readString rest
      return (c :: tail, rest)

/-! ## Numbers -/

/-- The greatest whole number read exactly. -/
def maxWhole : Nat := 18446744073709551615

/-- A digit character. -/
def isDigit (c : Char) : Bool := (digitValue? c).isSome

/-- Reads digits onto a significand while it stays within 64 bits: the
significand and the digits left over. -/
def readSignificand (n : Nat) : List Char → Nat × List Char
  | [] => (n, [])
  | c :: rest =>
    let next := n * 10 + (digitValue? c).getD 0
    if maxWhole < next then (n, c :: rest) else readSignificand next rest

/-- `x` times a power of ten, by one multiplication or division for a power up
to 308; smaller numbers are first divided by `10 ^ 308`, at most `fuel` times. -/
def scaleByTen : Nat → Binary64 → Int → Option Binary64
  | 0, x, _ => some x
  | fuel + 1, x, power =>
    if power.natAbs ≤ 308 then
      let factor : Binary64 := Binary.ofNat (Nat.pow 10 power.natAbs)
      if 0 ≤ power then
        match x * factor with
        | .infinite _ => none
        | y => some y
      else some (x / factor)
    else if x = Binary.zero false then some x
    else if 0 ≤ power then none
    else scaleByTen fuel (x / Binary.ofNat (Nat.pow 10 308)) (power + 308)

/-- The parts of a number literal. -/
structure Literal where
  negative : Bool
  /-- The digits before the point. -/
  whole : List Char
  /-- The digits after the point, if there is one. -/
  fraction : Option (List Char)
  /-- The sign and the digits after the mark of the exponent, if there is one. -/
  power : Option (Bool × List Char)

namespace Literal

/-- The greatest power that is told from larger ones. -/
def maxPower : Nat := 2147483647

/-- The 64-bit number of a literal. -/
def toReal (l : Literal) : Option Binary64 := do
  let (n, unread) := readSignificand 0 l.whole
  let fraction := l.fraction.getD []
  let (n, after) := readSignificand n fraction
  let places : Int := (unread.length : Int) - ((fraction.length - after.length : Nat) : Int)
  let x ← match l.power with
    | none => scaleByTen 5 (Binary.ofNat n) places
    | some (negative, digits) =>
      let k := natOfDigits digits
      if maxPower < k then (if n = 0 ∨ negative then some (Binary.zero false) else none)
      else scaleByTen 5 (Binary.ofNat n) (if negative then places - k else places + k)
  return if l.negative then -x else x

/-- The value of a literal: whole when it has the form of an integer and fits. -/
def value? (l : Literal) : Option Json :=
  let n := natOfDigits l.whole
  if l.fraction.isNone ∧ l.power.isNone then
    if !l.negative ∧ n ≤ maxWhole then some (.whole n)
    else if l.negative ∧ n ≠ 0 ∧ n ≤ 9223372036854775808 then some (.whole (-(n : Int)))
    else l.toReal.map .real
  else l.toReal.map .real

end Literal

/-- Splits off the digits at the front. -/
def spanDigits (s : List Char) : List Char × List Char :=
  (s.takeWhile isDigit, s.dropWhile isDigit)

/-- Reads the fraction of a literal, if one follows: at least one digit. -/
def readFraction : List Char → Option (Option (List Char) × List Char)
  | '.' :: rest =>
    let (digits, rest) := spanDigits rest
    if digits.isEmpty then none else some (some digits, rest)
  | rest => some (none, rest)

/-- Reads the exponent of a literal, if one follows: at least one digit. -/
def readExponent (s : List Char) : Option (Option (Bool × List Char) × List Char) :=
  match s with
  | c :: rest =>
    if c = 'e' ∨ c = 'E' then
      let (negative, rest) := match rest with
        | '-' :: rest => (true, rest)
        | '+' :: rest => (false, rest)
        | rest => (false, rest)
      let (digits, rest) := spanDigits rest
      if digits.isEmpty then none else some (some (negative, digits), rest)
    else some (none, s)
  | [] => some (none, [])

/-- Reads a number: no leading zeros, a digit on each side of the point. -/
def readNumber (s : List Char) : Option (Json × List Char) := do
  let (negative, s) := match s with
    | '-' :: rest => (true, rest)
    | rest => (false, rest)
  let (digits, s) := spanDigits s
  if digits.isEmpty ∨ (digits.head? = some '0' ∧ 1 < digits.length) then none
  let (fraction, s) ← readFraction s
  let (power, s) ← readExponent s
  let value ← Literal.value? ⟨negative, digits, fraction, power⟩
  return (value, s)

/-! ## Values -/

/-- Reads the items of an array that has at least one, up to the closing bracket. -/
def readItems (item : List Char → Option (Json × List Char)) :
    Nat → List Char → Option (List Json × List Char)
  | 0, _ => none
  | fuel + 1, s => do
    let (v, rest) ← item s
    match skipBlank rest with
    | ',' :: rest =>
      let (vs, rest) ← readItems item fuel rest
      return (v :: vs, rest)
    | ']' :: rest => return ([v], rest)
    | _ => none

/-- Reads the fields of an object that has at least one, up to the closing brace. -/
def readFields (item : List Char → Option (Json × List Char)) :
    Nat → List Char → Option (List (String × Json) × List Char)
  | 0, _ => none
  | fuel + 1, s => do
    match skipBlank s with
    | '"' :: rest =>
      let (key, rest) ← readString rest
      match skipBlank rest with
      | ':' :: rest =>
        let (v, rest) ← item rest
        match skipBlank rest with
        | ',' :: rest =>
          let (vs, rest) ← readFields item fuel rest
          return ((String.ofList key, v) :: vs, rest)
        | '\x7d' :: rest => return ([(String.ofList key, v)], rest)
        | _ => none
      | _ => none
    | _ => none

/-- Reads one value and gives the rest; `depth` arrays or objects may still open. -/
def readValue : Nat → List Char → Option (Json × List Char)
  | depth, s =>
    match skipBlank s with
    | 'n' :: 'u' :: 'l' :: 'l' :: rest => some (.null, rest)
    | 't' :: 'r' :: 'u' :: 'e' :: rest => some (.bool true, rest)
    | 'f' :: 'a' :: 'l' :: 's' :: 'e' :: rest => some (.bool false, rest)
    | '"' :: rest => (readString rest).map fun (cs, rest) => (.text (String.ofList cs), rest)
    | '[' :: rest =>
      match depth with
      | 0 => none
      | depth + 1 =>
        match skipBlank rest with
        | ']' :: rest => some (.list [], rest)
        | _ => (readItems (readValue depth) rest.length rest).map fun (vs, rest) =>
          (.list vs, rest)
    | '\x7b' :: rest =>
      match depth with
      | 0 => none
      | depth + 1 =>
        match skipBlank rest with
        | '\x7d' :: rest => some (.object [], rest)
        | _ => (readFields (readValue depth) rest.length rest).map fun (vs, rest) =>
          (ofFields vs, rest)
    | s => readNumber s

/-- The value of a JSON text. -/
def parse? (s : String) : Option Json :=
  match readValue maxDepth s.toList with
  | some (v, rest) => if (skipBlank rest).isEmpty then some v else none
  | none => none

end Json
end DialogueSheet
