/-
# Binary floating numbers

A `Binary f` is a number of the binary interchange format `f`: a sign, a
significand below `2 ^ precision` and an exponent, or an infinity, or no number
at all.  The two formats in use are

| format | precision | least exponent | greatest exponent |
| --- | ---: | ---: | ---: |
| `single` | 24 | -149 | 104 |
| `double` | 53 | -1074 | 971 |

Every operation is computed on exact integers and rounded once, to the nearest
number of the format and to the even significand when two are equally near, so
each one evaluates inside the logic.  Finite numbers are kept in one spelling:
either the significand has full length or the exponent is the least one.
-/

namespace DialogueSheet

/-- The shape of a binary format: length of the significand in bits and the
exponents its last bit may have. -/
structure BinaryFormat where
  precision : Nat
  minExponent : Int
  maxExponent : Int
deriving DecidableEq

namespace BinaryFormat

/-- The 32-bit format. -/
def single : BinaryFormat := ⟨24, -149, 104⟩

/-- The 64-bit format. -/
def double : BinaryFormat := ⟨53, -1074, 971⟩

end BinaryFormat

/-- A number of a binary format; `finite s m e` stands for `± m · 2 ^ e`. -/
inductive Binary (f : BinaryFormat) where
  | nan
  | infinite (negative : Bool)
  | finite (negative : Bool) (significand : Nat) (exponent : Int)
deriving DecidableEq

/-- A 32-bit number. -/
abbrev Binary32 := Binary BinaryFormat.single

/-- A 64-bit number. -/
abbrev Binary64 := Binary BinaryFormat.double

/-- The integer nearest to `num / den`, the even one of two that are equally near. -/
def roundHalfEven (num den : Nat) : Nat :=
  let q := num / den
  let r := num % den
  if 2 * r < den then q
  else if den < 2 * r then q + 1
  else if q % 2 = 0 then q else q + 1

/-- The integer nearest to `num / den`, the greater one of two that are equally near. -/
def roundHalfUp (num den : Nat) : Nat := (2 * num + den) / (2 * den)

/-- `num / den · 2 ^ -e` as a quotient of two integers. -/
def scaleDown (num den : Nat) (e : Int) : Nat × Nat :=
  (num <<< (-e).toNat, den <<< e.toNat)

namespace Binary

variable {f : BinaryFormat}

/-- The zero of the given sign. -/
def zero (negative : Bool) : Binary f := .finite negative 0 f.minExponent

/-- The number with this significand and exponent, or the infinity beyond the
greatest exponent. -/
def pack (negative : Bool) (m : Nat) (e : Int) : Binary f :=
  if m = 1 <<< f.precision then
    if f.maxExponent < e + 1 then .infinite negative
    else .finite negative (1 <<< (f.precision - 1)) (e + 1)
  else if f.maxExponent < e then .infinite negative
  else .finite negative m e

/-- The exponent at which the positive quotient `num / den` fills the
significand, not below the least exponent of the format. -/
def exponentOf (f : BinaryFormat) (num den : Nat) : Int :=
  let guess : Int := (num.log2 : Int) - (den.log2 : Int) - (f.precision : Int)
  let (n, d) := scaleDown num den guess
  max (if 1 <<< f.precision ≤ n / d then guess + 1 else guess) f.minExponent

/-- The number nearest to `± num / den`. -/
def ofRatio (negative : Bool) (num den : Nat) : Binary f :=
  if num = 0 then zero negative
  else
    let e := exponentOf f num den
    let (n, d) := scaleDown num den e
    pack negative (roundHalfEven n d) e

/-- The number nearest to `± n · 2 ^ e`. -/
def ofScaled (negative : Bool) (n : Nat) (e : Int) : Binary f :=
  ofRatio negative (n <<< e.toNat) (1 <<< (-e).toNat)

/-- The number nearest to an integer. -/
def ofInt (i : Int) : Binary f := ofRatio (i < 0) i.natAbs 1

/-- The number nearest to a natural number. -/
def ofNat (n : Nat) : Binary f := ofRatio false n 1

/-- The number nearest to `± n · 10 ^ k`. -/
def ofDecimal (negative : Bool) (n : Nat) (k : Int) : Binary f :=
  ofRatio negative (n * Nat.pow 10 k.toNat) (Nat.pow 10 (-k).toNat)

instance (n : Nat) : OfNat (Binary f) n := ⟨ofNat n⟩

instance : OfScientific (Binary f) where
  ofScientific n negativeExponent k :=
    ofDecimal false n (if negativeExponent then -(k : Int) else k)

/-- A number with its sign turned round. -/
def negate : Binary f → Binary f
  | .nan => .nan
  | .infinite s => .infinite !s
  | .finite s m e => .finite (!s) m e

/-- A finite number counted in units of `2 ^ e`, for an exponent not above its own. -/
def units (negative : Bool) (m : Nat) (exponent e : Int) : Int :=
  let n : Int := m <<< (exponent - e).toNat
  if negative then -n else n

/-- The rounded sum; an exact zero is negative only as the sum of two negative zeros. -/
def add : Binary f → Binary f → Binary f
  | .nan, _ => .nan
  | _, .nan => .nan
  | .infinite s, .infinite t => if s = t then .infinite s else .nan
  | .infinite s, .finite .. => .infinite s
  | .finite .., .infinite t => .infinite t
  | .finite s m e, .finite t n k =>
    let least := min e k
    let sum := units s m e least + units t n k least
    if sum = 0 then zero (s && t) else ofScaled (sum < 0) sum.natAbs least

/-- The rounded difference. -/
def sub (x y : Binary f) : Binary f := add x (negate y)

/-- The rounded product. -/
def mul : Binary f → Binary f → Binary f
  | .nan, _ => .nan
  | _, .nan => .nan
  | .infinite s, .infinite t => .infinite (s != t)
  | .infinite s, .finite t n _ => if n = 0 then .nan else .infinite (s != t)
  | .finite s m _, .infinite t => if m = 0 then .nan else .infinite (s != t)
  | .finite s m e, .finite t n k => ofScaled (s != t) (m * n) (e + k)

/-- The rounded quotient. -/
def div : Binary f → Binary f → Binary f
  | .nan, _ => .nan
  | _, .nan => .nan
  | .infinite _, .infinite _ => .nan
  | .infinite s, .finite t _ _ => .infinite (s != t)
  | .finite s _ _, .infinite t => zero (s != t)
  | .finite s m e, .finite t n k =>
    if n = 0 then (if m = 0 then .nan else .infinite (s != t))
    else ofRatio (s != t) (m <<< (e - k).toNat) (n <<< (k - e).toNat)

instance : Add (Binary f) := ⟨add⟩
instance : Sub (Binary f) := ⟨sub⟩
instance : Mul (Binary f) := ⟨mul⟩
instance : Div (Binary f) := ⟨div⟩
instance : Neg (Binary f) := ⟨negate⟩

/-- `x` lies strictly below `y`; never so when one of them is no number, nor
between the two zeros. -/
def below : Binary f → Binary f → Bool
  | .nan, _ => false
  | _, .nan => false
  | .infinite s, .infinite t => s && !t
  | .infinite s, .finite .. => s
  | .finite .., .infinite t => !t
  | .finite s m e, .finite t n k =>
    let least := min e k
    decide (units s m e least < units t n k least)

/-- The lesser of two numbers, or the one that is a number. -/
def lesser (x y : Binary f) : Binary f :=
  match x, y with
  | .nan, y => y
  | x, .nan => x
  | x, y => if below y x then y else x

/-- The greater of two numbers, or the one that is a number; `y` when they are equal. -/
def greater (x y : Binary f) : Binary f :=
  match x, y with
  | .nan, y => y
  | x, .nan => x
  | x, y => if below y x then x else y

/-- The whole part of `m · 2 ^ e`. -/
def wholePart (m : Nat) (e : Int) : Nat := (m <<< e.toNat) >>> (-e).toNat

/-- Whether `m · 2 ^ e` is a whole number. -/
def isWhole (m : Nat) (e : Int) : Bool := (m <<< e.toNat) % (1 <<< (-e).toNat) == 0

/-- A finite number put through a rounding of its magnitude; the others stay. -/
def roundMagnitude (rule : Bool → Nat → Int → Nat) : Binary f → Binary f
  | .finite s m e => ofRatio s (rule s m e) 1
  | x => x

/-- The greatest whole number not above. -/
def floor : Binary f → Binary f :=
  roundMagnitude fun s m e => wholePart m e + if s && !isWhole m e then 1 else 0

/-- The least whole number not below. -/
def ceil : Binary f → Binary f :=
  roundMagnitude fun s m e => wholePart m e + if !s && !isWhole m e then 1 else 0

/-- The nearest whole number, the one farther from zero of two equally near. -/
def round : Binary f → Binary f :=
  roundMagnitude fun _ m e => roundHalfUp (m <<< e.toNat) (1 <<< (-e).toNat)

/-- The whole part as an integer, held between `low` and `high`; `0` when there
is no number. -/
def toInt (low high : Int) : Binary f → Int
  | .nan => 0
  | .infinite s => if s then low else high
  | .finite s m e =>
    let n : Int := wholePart m e
    max low (min high (if s then -n else n))

/-- The greatest 32-bit count. -/
def maxCount : Nat := 4294967295

/-- The whole part as a 32-bit count. -/
def toCount (x : Binary f) : Nat := (x.toInt 0 maxCount).toNat

/-- The whole part as a signed 64-bit integer. -/
def toInt64 (x : Binary f) : Int := x.toInt (-9223372036854775808) 9223372036854775807

/-- The nearest 32-bit number. -/
def toSingle : Binary f → Binary32
  | .nan => .nan
  | .infinite s => .infinite s
  | .finite s m e => ofScaled s m e

/-- The word of the interchange format: sign, biased exponent, fraction. -/
def toBits (x : Binary f) : Nat :=
  let fraction := 1 <<< (f.precision - 1)
  let allOnes := (f.maxExponent - f.minExponent + 2).toNat
  let word (s : Bool) (biased tail : Nat) : Nat :=
    (if s then (allOnes + 1) * fraction else 0) + biased * fraction + tail
  match x with
  | .nan => word false allOnes (fraction / 2)
  | .infinite s => word s allOnes 0
  | .finite s m e =>
    if m < fraction then word s 0 m
    else word s (e - f.minExponent + 1).toNat (m - fraction)

end Binary

example : (0.1 + 0.2 : Binary64).toBits = 0x3fd3333333333334 := by decide +kernel
example : (1 / 255 : Binary32).toBits = 0x3b808081 := by decide +kernel
example : ((-0.5 : Binary64).ceil).toBits = 0x8000000000000000 := by decide +kernel

end DialogueSheet
