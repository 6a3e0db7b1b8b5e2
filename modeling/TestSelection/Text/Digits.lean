/-
# Digits

The value of a digit in a base up to sixteen, and the number that some digits write. To base ten, a
number may have `mostDigits` digits.
-/

namespace TestSelection
namespace Text

/-- The value of a digit, letters counting from ten on in either case; sixteen for all else. -/
def digitValue (c : Char) : Nat :=
  let n := c.toNat
  if 0x30 ≤ n ∧ n ≤ 0x39 then n - 0x30
  else if 0x41 ≤ n ∧ n ≤ 0x46 then n - 0x41 + 10
  else if 0x61 ≤ n ∧ n ≤ 0x66 then n - 0x61 + 10
  else 16

/-- The value of a digit in a base. -/
def digit? (base : Nat) (c : Char) : Option Nat :=
  if digitValue c < base ∧ digitValue c < 16 then some (digitValue c) else none

/-- Whether the character is a digit in the base. -/
def isDigitIn (base : Nat) (c : Char) : Bool := (digit? base c).isSome

/-- The number that some digits write; what is not a digit counts as zero. -/
def ofDigits (base : Nat) (ds : List Char) : Nat :=
  ds.foldl (fun n c => base * n + (digit? base c).getD 0) 0

/-- How many digits a whole number to base ten may have. -/
def mostDigits : Nat := 4300

/-- What is wrong with a number of more digits. -/
def tooManyDigits (digits : Nat) : String :=
  "Exceeds the limit (" ++ toString mostDigits ++ " digits) for integer string conversion: " ++
    "value has " ++ toString digits ++
    " digits; use sys.set_int_max_str_digits() to increase the limit"

/-- Whether a whole number has too many digits to be written. -/
def isTooLong (n : Int) : Bool := mostDigits < (Nat.toDigits 10 n.natAbs).length

/-- What is wrong with a number that is to be written and has too many digits. -/
def tooLong : String :=
  "Exceeds the limit (" ++ toString mostDigits ++ " digits) for integer string conversion; " ++
    "use sys.set_int_max_str_digits() to increase the limit"

end Text
end TestSelection
