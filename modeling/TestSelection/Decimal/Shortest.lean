/-
# The shortest decimal of a floating-point number

Every finite 64-bit number is `m · 2^q` with `m < 2^53` and `-1074 ≤ q`, hence a whole number of
units `10^-1076`, and so are the halves of its distances to its two neighbours. In these units all
of the following is exact arithmetic on natural numbers.

* `Binary.units` is the number itself, `Binary.below` and `Binary.above` are the ends of the range
  of numbers that read back as it (the ends belong to the range when `m` is even).
* `Binary.shortest` tries the grids of one, two, … seventeen digits. On each grid it looks at the
  two neighbours of the number; the first grid with a neighbour inside the range wins, of two
  neighbours inside it the nearer, and of two equally near ones the one with the even last digit.
-/

namespace TestSelection
namespace Decimal

/-- The finite number `m · 2^q`, without its sign. -/
structure Binary where
  /-- The whole number that is scaled. -/
  m : Nat
  /-- The exponent of two, counted from `-1074`. -/
  raised : Nat
  deriving DecidableEq

namespace Binary

/-- The size of a finite number by its bits: eleven bits of exponent above fifty-two of fraction.
The exponent zero has no hidden leading bit. -/
def ofBits (bits : Nat) : Binary :=
  let fraction := bits % Nat.pow 2 52
  let exponent := bits / Nat.pow 2 52 % Nat.pow 2 11
  if exponent = 0 then ⟨fraction, 0⟩ else ⟨Nat.pow 2 52 + fraction, exponent - 1⟩

/-- One unit in the last place of the number, in units of `10^-1076`. -/
def spacing (x : Binary) : Nat := Nat.pow 2 (x.raised + 2) * Nat.pow 5 1076

/-- The number in units of `10^-1076`. -/
def units (x : Binary) : Nat := x.m * x.spacing

/-- The lower end of what reads back as the number. Just above a power of two the numbers below
lie closer by half. -/
def below (x : Binary) : Nat :=
  if x.m = Nat.pow 2 52 ∧ 0 < x.raised then x.units - x.spacing / 4 else x.units - x.spacing / 2

/-- The upper end of what reads back as the number. -/
def above (x : Binary) : Nat := x.units + x.spacing / 2

/-- Whether a number of units reads back as `x`. -/
def holds (x : Binary) (n : Nat) : Bool :=
  if x.m % 2 = 0 then x.below ≤ n && n ≤ x.above else x.below < n && n < x.above

/-- The better of two neighbours on a grid, given in steps of the grid: one that reads back before
one that does not, then the nearer, then the even one. -/
def better? (x : Binary) (step lo : Nat) : Option Nat :=
  match x.holds (lo * step), x.holds ((lo + 1) * step) with
  | false, false => none
  | true, false => some lo
  | false, true => some (lo + 1)
  | true, true =>
    let left := x.units - lo * step
    let right := (lo + 1) * step - x.units
    if left < right then some lo
    else if right < left then some (lo + 1)
    else if lo % 2 = 0 then some lo
    else some (lo + 1)

/-- Tries the grid of `n` digits and then the finer ones, `tries` grids in all. `length` is the
number of digits before the unit's point. -/
def search (x : Binary) (length : Nat) : (tries n : Nat) → Nat × Int
  | 0, _ => (x.units, -1076)
  | tries + 1, n =>
    let step := Nat.pow 10 (length - n)
    match x.better? step (x.units / step) with
    | some digits => (digits, (length - n : Nat) - 1076)
    | none => search x length tries (n + 1)

/-- The number with the fewest digits that reads back as `x`, as a whole number and a power of
ten. -/
def shortest (x : Binary) : Nat × Int :=
  search x (Nat.toDigits 10 x.units).length 17 1

end Binary

/-- The digits of the shortest decimal without zeros at the end, and the place of its point: the
value is `0.d₁d₂… · 10^point`. Zero has the one digit `0`. -/
def digits (x : Binary) : List Char × Int :=
  let (n, e) := x.shortest
  let ds := Nat.toDigits 10 n
  let kept := (ds.reverse.dropWhile (· == '0')).reverse
  if kept.isEmpty then (['0'], 1) else (kept, ds.length + e)

end Decimal
end TestSelection
