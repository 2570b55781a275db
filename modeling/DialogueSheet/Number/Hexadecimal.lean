/-
# Hexadecimal digits

Digits are written in lower case and read in either case.
-/

namespace DialogueSheet

/-- The value of a hexadecimal digit. -/
def hexValue? (c : Char) : Option Nat :=
  if '0' ≤ c ∧ c ≤ '9' then some (c.toNat - '0'.toNat)
  else if 'a' ≤ c ∧ c ≤ 'f' then some (c.toNat - 'a'.toNat + 10)
  else if 'A' ≤ c ∧ c ≤ 'F' then some (c.toNat - 'A'.toNat + 10)
  else none

/-- The hexadecimal digit of a value below 16. -/
def hexDigit (n : Nat) : Char := Nat.digitChar n

/-- The hexadecimal digits of a number, most significant first. -/
def hexDigits (n : Nat) : List Char := Nat.toDigits 16 n

/-- The last `count` hexadecimal digits of a number, zeros included. -/
def hexDigitsOf : Nat → Nat → List Char
  | 0, _ => []
  | count + 1, n => hexDigitsOf count (n / 16) ++ [hexDigit (n % 16)]

example : hexDigitsOf 4 0x2f = ['0', '0', '2', 'f'] := by decide +kernel

end DialogueSheet
