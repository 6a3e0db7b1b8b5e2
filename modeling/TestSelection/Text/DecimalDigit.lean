/-
# Decimal digits of all scripts

Unicode 14.0 has the ten decimal digits in many scripts, each time in one run from zero to nine.
`zeros` lists where these runs begin; `decimal?` is the value of a digit of any of them.

`plainDigits` writes a text with ASCII digits and spaces, as those who read numbers want it: every
other decimal digit becomes the ASCII one of its value, every other blank a space, and a code point
that is neither becomes a question mark, which ends the text, since no number holds one.
-/

import TestSelection.Text.Blank

namespace TestSelection
namespace Text

/-- The zeros outside ASCII. -/
def zeros : List Nat := [
  0x660, 0x6f0, 0x7c0, 0x966, 0x9e6, 0xa66, 0xae6, 0xb66, 0xbe6, 0xc66, 0xce6, 0xd66, 0xde6,
  0xe50, 0xed0, 0xf20, 0x1040, 0x1090, 0x17e0, 0x1810, 0x1946, 0x19d0, 0x1a80, 0x1a90, 0x1b50,
  0x1bb0, 0x1c40, 0x1c50, 0xa620, 0xa8d0, 0xa900, 0xa9d0, 0xa9f0, 0xaa50, 0xabf0, 0xff10, 0x104a0,
  0x10d30, 0x11066, 0x110f0, 0x11136, 0x111d0, 0x112f0, 0x11450, 0x114d0, 0x11650, 0x116c0,
  0x11730, 0x118e0, 0x11950, 0x11c50, 0x11d50, 0x11da0, 0x16a60, 0x16ac0, 0x16b50, 0x1d7ce,
  0x1d7d8, 0x1d7e2, 0x1d7ec, 0x1d7f6, 0x1e140, 0x1e2f0, 0x1e950, 0x1fbf0]

/-- The value of a decimal digit. -/
def decimal? (c : Char) : Option Nat :=
  let n := c.toNat
  if c.isDigit then some (n - 0x30)
  else if n < 0x80 then none
  else (zeros.find? fun first => first ≤ n && n < first + 10).map (n - ·)

/-- Whether the character is a decimal digit. -/
def isDecimal (c : Char) : Bool := (decimal? c).isSome

/-- A text with ASCII digits and spaces, up to what stands in no number. -/
def plainDigits : Text → List Char
  | [] => []
  | .char c :: rest =>
    if c.toNat < 0x7f then c :: plainDigits rest
    else if isBlank c then ' ' :: plainDigits rest
    else
      match decimal? c with
      | some d => Char.ofNat (0x30 + d) :: plainDigits rest
      | none => ['?']
  | .half _ :: _ => ['?']

end Text
end TestSelection
