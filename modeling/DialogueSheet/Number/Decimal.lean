/-
# Decimal texts of binary numbers

`shortest` writes a finite number with the fewest decimal digits that read back
as the same number, the nearest such decimal when there are several.  Three
texts are built on it or beside it, each with its own choice of two decimals that
are equally near:

| text | of | form | of two |
| --- | --- | --- | --- |
| `plainText` | sizes and coordinates | positional, never an exponent, no `.0` | the greater |
| `dataText` | numbers in data | `.0` from `1e-5` to below `1e16`, else an exponent | the even |
| `wholeText` | percentages | the nearest integer | the even |

`readPlain` reads the first form back and also takes an exponent, a leading
`+`, and the names of the numbers that are not finite.
-/
import DialogueSheet.Number.Binary

namespace DialogueSheet

/-- The decimal digits of a natural number, most significant first. -/
def decimalDigits (n : Nat) : List Char := Nat.toDigits 10 n

/-- The value of a digit character, `0` to `9`. -/
def digitValue? (c : Char) : Option Nat :=
  if '0' ≤ c ∧ c ≤ '9' then some (c.toNat - '0'.toNat) else none

/-- The number that a run of digits denotes. -/
def natOfDigits (digits : List Char) : Nat :=
  digits.foldl (fun n c => 10 * n + (digitValue? c).getD 0) 0

/-- The decimal text of an integer. -/
def integerText (i : Int) : List Char :=
  if i < 0 then '-' :: decimalDigits i.natAbs else decimalDigits i.natAbs

/-- `digits · 10 ^ exponent`. -/
structure Decimal where
  digits : Nat
  exponent : Int
deriving DecidableEq

namespace Decimal

/-- The same value without trailing zeros; at most `fuel` of them go. -/
def trimmed : Nat → Decimal → Decimal
  | 0, d => d
  | fuel + 1, d =>
    if d.digits ≠ 0 ∧ d.digits % 10 = 0 then trimmed fuel ⟨d.digits / 10, d.exponent + 1⟩
    else d

/-- The power of ten of the leading digit of the positive quotient `num / den`. -/
def leadingPower (num den : Nat) : Int :=
  if den ≤ num then ((decimalDigits (num / den)).length : Int) - 1
  else
    let l := (decimalDigits (den / num)).length
    if den ≤ num * Nat.pow 10 (l - 1) then 1 - (l : Int) else -(l : Int)

/-- The positional text of the digits: no exponent and no needless zeros. -/
def plain (d : Decimal) : List Char :=
  let digits := decimalDigits d.digits
  if 0 ≤ d.exponent then digits ++ List.replicate d.exponent.toNat '0'
  else
    let places := (-d.exponent).toNat
    if places < digits.length then
      digits.take (digits.length - places) ++ '.' :: digits.drop (digits.length - places)
    else '0' :: '.' :: List.replicate (places - digits.length) '0' ++ digits

/-- The power of ten of the leading digit. -/
def magnitude (d : Decimal) : Int :=
  (decimalDigits d.digits).length + d.exponent - 1

/-- One digit, a point and the others, if any, then the power of ten with its sign. -/
def scientific (d : Decimal) : List Char :=
  let digits := decimalDigits d.digits
  let power := d.magnitude
  digits.take 1 ++ (if digits.length ≤ 1 then [] else '.' :: digits.drop 1)
    ++ 'e' :: (if power < 0 then '-' else '+') :: decimalDigits power.natAbs

/-- The text that data files use for a number that is not a whole literal. -/
def dataForm (d : Decimal) : List Char :=
  if -5 ≤ d.magnitude ∧ d.magnitude < 16 then
    d.plain ++ if 0 ≤ d.exponent then ['.', '0'] else []
  else d.scientific

end Decimal

namespace Binary

variable {f : BinaryFormat}

/-- The quotients that bound the reals which round to `m · 2 ^ e`, below and above. -/
def roundingInterval (f : BinaryFormat) (m : Nat) (e : Int) : (Nat × Nat) × (Nat × Nat) :=
  let narrow := m = 1 <<< (f.precision - 1) ∧ f.minExponent < e
  let low := if narrow then 4 * m - 1 else 4 * m - 2
  (((low <<< e.toNat), 4 <<< (-e).toNat), ((4 * m + 2) <<< e.toNat, 4 <<< (-e).toNat))

/-- Whether `digits · 10 ^ exponent` rounds to `m · 2 ^ e`; the ends of the
interval do when the significand is even. -/
def readsBack (f : BinaryFormat) (m : Nat) (e : Int) (d : Decimal) : Bool :=
  let (low, high) := roundingInterval f m e
  let num := d.digits * Nat.pow 10 d.exponent.toNat
  let den := Nat.pow 10 (-d.exponent).toNat
  if m % 2 = 0 then decide (low.1 * den ≤ num * low.2 ∧ num * high.2 ≤ high.1 * den)
  else decide (low.1 * den < num * low.2 ∧ num * high.2 < high.1 * den)

/-- Which of two decimals stands for a number that lies halfway between them. -/
inductive HalfRule where
  /-- The one whose last digit is even. -/
  | toEven
  /-- The one of greater magnitude. -/
  | away
deriving DecidableEq

/-- Whether the lower neighbour is nearer, where `rest / unit` is how far the number
lies above it. -/
def HalfRule.keepsLower (rule : HalfRule) (lower rest unit : Nat) : Bool :=
  decide (2 * rest < unit) || rule = .toEven && 2 * rest = unit && lower % 2 = 0

/-- The decimal of `count` digits nearest to `num / den` that reads back as
`m · 2 ^ e`, of the two neighbours of the quotient on that decimal grid. -/
def nearestOfLength (rule : HalfRule) (f : BinaryFormat) (m : Nat) (e : Int)
    (num den : Nat) (count : Nat) : Option Decimal :=
  let power := Decimal.leadingPower num den - (count : Int) + 1
  let scaledNum := num * Nat.pow 10 (-power).toNat
  let scaledDen := den * Nat.pow 10 power.toNat
  let lowerOne : Decimal := ⟨scaledNum / scaledDen, power⟩
  let upperOne : Decimal := ⟨scaledNum / scaledDen + 1, power⟩
  match readsBack f m e lowerOne, readsBack f m e upperOne with
  | true, true =>
    if rule.keepsLower lowerOne.digits (scaledNum % scaledDen) scaledDen then some lowerOne
    else some upperOne
  | true, false => some lowerOne
  | false, true => some upperOne
  | false, false => none

/-- The shortest decimal that reads back as the positive number `m · 2 ^ e`. -/
def shortest (rule : HalfRule) (f : BinaryFormat) (m : Nat) (e : Int) : Decimal :=
  let num := m <<< e.toNat
  let den := 1 <<< (-e).toNat
  match (List.range 17).findSome? fun n => nearestOfLength rule f m e num den (n + 1) with
  | some d => d.trimmed 20
  | none => ⟨num / den, 0⟩

/-- The text of a number with a given text for positive finite ones. -/
def signedText (rule : HalfRule) (form : Decimal → List Char) : Binary f → List Char
  | .nan => ['N', 'a', 'N']
  | .infinite s => (if s then ['-'] else []) ++ ['i', 'n', 'f']
  | .finite s m e =>
    (if s then ['-'] else []) ++ form (if m = 0 then ⟨0, 0⟩ else shortest rule f m e)

/-- The positional text: shortest digits, no exponent, no trailing `.0`. -/
def plainText (x : Binary f) : String := String.ofList (signedText .away Decimal.plain x)

/-- The text in a data file, such as `1000.0`, `0.00001`, `1e-7` or `1e+16`. -/
def dataText (x : Binary f) : String := String.ofList (signedText .toEven Decimal.dataForm x)

/-- The nearest integer with the sign of the number, the even one of two equally near. -/
def wholeText : Binary f → String
  | .finite s m e =>
    String.ofList ((if s then ['-'] else [])
      ++ decimalDigits (roundHalfEven (m <<< e.toNat) (1 <<< (-e).toNat)))
  | x => plainText x

/-- Reads a run of digits with at most one point: the digits and how many follow
the point. -/
def readDigits (text : List Char) : Option (Nat × Nat) :=
  let whole := text.takeWhile (fun c => (digitValue? c).isSome)
  let rest := text.drop whole.length
  let fraction := match rest with
    | '.' :: tail => tail
    | _ => []
  if whole.length + fraction.length = 0 then none
  else if rest.isEmpty ∨ rest.head? = some '.' then
    if fraction.all (fun c => (digitValue? c).isSome) then
      some (natOfDigits (whole ++ fraction), fraction.length)
    else none
  else none

/-- Reads the power of ten after the mark `e`, with an optional sign. -/
def readPower (text : List Char) : Option Int :=
  let (negative, digits) := match text with
    | '-' :: tail => (true, tail)
    | '+' :: tail => (false, tail)
    | tail => (false, tail)
  if digits.isEmpty ∨ !digits.all (fun c => (digitValue? c).isSome) then none
  else some (if negative then -(natOfDigits digits : Int) else natOfDigits digits)

/-- The number nearest to `± n · 10 ^ k`, without writing out powers that lie
far outside every format. -/
def ofDecimalBounded (negative : Bool) (n : Nat) (k : Int) : Binary f :=
  if n = 0 then zero negative
  else if 20000 < k then .infinite negative
  else if k + ((decimalDigits n).length : Int) < -20000 then zero negative
  else ofDecimal negative n k

/-- Reads a decimal, with or without an exponent, or the name of a number that
is not finite. -/
def readPlain (text : String) : Option (Binary f) :=
  let (negative, body) := match text.toList with
    | '-' :: tail => (true, tail)
    | '+' :: tail => (false, tail)
    | tail => (false, tail)
  let name := String.ofList (body.map Char.toLower)
  if name = "inf" ∨ name = "infinity" then some (.infinite negative)
  else if name = "nan" then some .nan
  else
    let mantissa := body.takeWhile (fun c => c ≠ 'e' ∧ c ≠ 'E')
    let power := match body.drop mantissa.length with
      | [] => some 0
      | _ :: tail => readPower tail
    match readDigits mantissa, power with
    | some (n, places), some k => some (ofDecimalBounded negative n (k - places))
    | _, _ => none

end Binary

example : (0.1 + 0.2 : Binary64).dataText = "0.30000000000000004" := by decide +kernel
example : (1 / 255 : Binary32).plainText = "0.003921569" := by decide +kernel
example : (2357719.25 : Binary32).plainText = "2357719.3" := by decide +kernel
example : (2357719.25 : Binary32).dataText = "2357719.2" := by decide +kernel
example : (1e16 : Binary64).dataText = "1e+16" := by decide +kernel
example : (0.00001 : Binary64).dataText = "0.00001" := by decide +kernel
example : (102.5 : Binary64).wholeText = "102" := by decide +kernel

end DialogueSheet
