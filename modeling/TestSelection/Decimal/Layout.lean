/-
# Decimal text of floating-point numbers

A layout says how the shortest digits of a number are arranged. The two layouts in use differ only
in what they write for the three numbers that have no digits:

| layout | infinities | not a number |
| --- | --- | --- |
| `Layout.message` | `inf`, `-inf` | `nan` |
| `Layout.json` | `Infinity`, `-Infinity` | `NaN` |

Reading goes the other way: `scaled` is the number nearest to a whole number times a power of ten.
-/

import TestSelection.Decimal.Shortest

namespace TestSelection
namespace Decimal

/-- How a number is written. -/
structure Layout where
  /-- The least power of ten, of the first digit, that is written with a point alone. -/
  leastPlain : Int
  /-- The least power of ten that is too large for that. -/
  firstTooLarge : Int
  /-- The least number of digits of a written exponent. -/
  exponentWidth : Nat
  /-- The text of an infinity without its sign. -/
  infinity : String
  /-- The text of what is not a number. -/
  notANumber : String

/-- Numbers in messages and in texts of keys. -/
def Layout.message : Layout := ⟨-4, 16, 2, "inf", "nan"⟩

/-- Numbers in a plan. -/
def Layout.json : Layout := ⟨-4, 16, 2, "Infinity", "NaN"⟩

/-- Digits with a point after the first `point` of them; at least one digit stands on each side. -/
def plain (ds : List Char) (point : Int) : List Char :=
  if point ≤ 0 then '0' :: '.' :: List.replicate point.natAbs '0' ++ ds
  else
    let before := point.toNat
    let padded := ds ++ List.replicate (before - ds.length) '0'
    let rest := padded.drop before
    padded.take before ++ '.' :: (if rest.isEmpty then ['0'] else rest)

/-- Digits with a point after the first of them and a power of ten. -/
def scientific (width : Nat) (ds : List Char) (exponent : Int) : List Char :=
  let size := Nat.toDigits 10 exponent.natAbs
  let fraction := ds.drop 1
  ds.take 1 ++ (if fraction.isEmpty then [] else '.' :: fraction) ++
    'e' :: (if exponent < 0 then '-' else '+') ::
    (List.replicate (width - size.length) '0' ++ size)

/-- The text of a number. -/
def Layout.text (layout : Layout) (x : Float) : String :=
  if x.isNaN then layout.notANumber
  else
    let bits := x.toBits.toNat
    let sign := if bits / Nat.pow 2 63 = 1 then "-" else ""
    if x.isInf then sign ++ layout.infinity
    else
      let (ds, point) := digits (Binary.ofBits bits)
      let exponent := point - 1
      sign ++ String.ofList (
        if layout.leastPlain ≤ exponent ∧ exponent < layout.firstTooLarge then plain ds point
        else scientific layout.exponentWidth ds exponent)

/-- Beyond this many places from the point no number other than zero is finite. -/
def farPlace : Int := 400

/-- The number nearest to `m · 10^exponent`; what is too large for any finite number is infinite. -/
def scaled (m : Nat) (exponent : Int) : Float :=
  let places := (Nat.toDigits 10 m).length + exponent
  if m = 0 then 0.0
  else if places < -farPlace then 0.0
  else if farPlace < places then 1.0 / 0.0
  else if exponent < 0 then Float.ofScientific m true exponent.natAbs
  else Float.ofScientific m false exponent.natAbs

/-- The whole number that a finite floating-point number is equal to, if there is one. -/
def whole? (x : Float) : Option Int :=
  if x.isNaN || x.isInf then none
  else
    let bits := x.toBits.toNat
    let size := Binary.ofBits bits
    let n : Nat := size.m * Nat.pow 2 size.raised
    if n % Nat.pow 2 1074 = 0 then
      let w : Int := (n / Nat.pow 2 1074 : Nat)
      some (if bits / Nat.pow 2 63 = 1 then -w else w)
    else none

end Decimal
end TestSelection
