/-
# Numbers and bytes in scalars

The numbers that the texts of scalars write, bars dropped, and the bytes that a text writes to base
sixty-four. A text that is tagged as a number need not look like one; it is read as far as it can
be, and the fault names what cannot. Digits of all scripts count there, and blanks around a number
do not.
-/

import TestSelection.Decimal.Layout
import TestSelection.Text.DecimalDigit
import TestSelection.Text.LetterCase
import TestSelection.Yaml.Scalars

namespace TestSelection
namespace Yaml

/-- A text without its bars. -/
def withoutBars (t : Text) : Text := t.filter (· != .char '_')

/-- A text without the sign at its front. -/
def afterSign : Text → Text
  | .char '+' :: rest => rest
  | .char '-' :: rest => rest
  | t => t

/-- Whether a number begins with a minus. -/
def beginsMinus (t : Text) : Bool := t.head? == some (.char '-')

/-- An ASCII character that may stand around a number. -/
def isMargin (c : Char) : Bool := c == ' ' || (0x09 ≤ c.toNat && c.toNat ≤ 0x0d)

/-- The characters of a number, without what may stand around it. -/
def digitsOf (t : Text) : List Char := Text.trim isMargin (Text.plainDigits t)

/-- A text without the mark of its base. -/
def dropBaseMark (base : Nat) : List Char → List Char
  | '0' :: x :: rest =>
    let letter := if base = 2 then 'b' else if base = 8 then 'o' else if base = 16 then 'x' else '0'
    if x.toLower = letter ∧ letter ≠ '0' then rest else '0' :: x :: rest
  | cs => cs

/-- A whole number in a base. To base ten it may not be too long, whatever follows it. -/
def integerIn (base : Nat) (t : Text) : Except Fault Int :=
  let size := digitsOf t
  let ds := dropBaseMark base (dropSign size)
  let found := (ds.takeWhile (Text.isDigitIn base)).length
  if base = 10 ∧ Text.mostDigits < found then .error (.longInteger found)
  else if ds.isEmpty || found < ds.length then .error (.badInteger base t)
  else
    let n : Int := (Text.ofDigits base ds : Nat)
    .ok (if isNegative size then -n else n)

/-- A whole number from its places to base sixty, the first one first. -/
def ofSixties (places : List Int) : Int := places.foldl (fun n place => 60 * n + place) 0

/-- The places of a number to base sixty, which stand between colons. -/
def sixties (t : Text) : List Text := Text.split (.char ':') t

/-- The size of a whole number, which is read after its sign. -/
def integerSize (t : Text) : Except Fault Int :=
  match t with
  | [] => .error .emptyNumber
  | [.char '0'] => .ok 0
  | .char '0' :: .char 'b' :: rest => integerIn 2 rest
  | .char '0' :: .char 'x' :: rest => integerIn 16 rest
  | .char '0' :: _ => integerIn 8 t
  | _ =>
    if t.contains (.char ':') then ((sixties t).mapM (integerIn 10)).map ofSixties
    else integerIn 10 t

/-- The whole number of a scalar. -/
def integer (t : Text) : Except Fault Int := do
  let t := withoutBars t
  let n ← integerSize (afterSign t)
  return if beginsMinus t then -n else n

/-- The power of ten at the end of a number. -/
def power? : List Char → Option Int
  | [] => some 0
  | 'e' :: rest =>
    let ds := dropSign rest
    let n : Int := (Text.ofDigits 10 ds : Nat)
    if ds.isEmpty || !ds.all isDigit then none else some (if isNegative rest then -n else n)
  | _ => none

/-- The size of a number without sign: a word, or digits with a point and a power of ten. -/
def floatSize? (cs : List Char) : Option Float :=
  if cs = "inf".toList ∨ cs = "infinity".toList then some (1.0 / 0.0)
  else if cs = "nan".toList then some (0.0 / 0.0)
  else
    let whole := cs.takeWhile isDigit
    let (places, rest) := match cs.dropWhile isDigit with
      | '.' :: rest => (rest.takeWhile isDigit, rest.dropWhile isDigit)
      | rest => ([], rest)
    if whole.isEmpty && places.isEmpty then none
    else (power? rest).map fun e =>
      Decimal.scaled (Text.ofDigits 10 (whole ++ places)) (e - (places.length : Int))

/-- A number. -/
def floatOf (t : Text) : Except Fault Float :=
  let size := digitsOf t
  match floatSize? (dropSign size) with
  | some x => .ok (if isNegative size then -x else x)
  | none => .error (.badFloat t)

/-- How many places to base sixty a number may have: one more is worth more than every number. -/
def mostPlaces : Nat := 174

/-- A number from its places to base sixty, the last one first, above what is known of it. -/
def addSixties (known : Float) (base : Nat) : List Float → Float
  | [] => known
  | place :: rest => addSixties (known + place * Float.ofNat base) (60 * base) rest

/-- Whether a text writes what is not a number by its own sign. -/
def isNaNSign (t : Text) : Bool := afterSign (Text.lower (withoutBars t)) = Text.ofString ".nan"

/-- The number of a scalar. -/
def float (t : Text) : Except Fault Float := do
  if isNaNSign t then return 0.0 / 0.0
  let t := Text.lower (withoutBars t)
  if t.isEmpty then throw .emptyNumber
  let size := afterSign t
  let x ←
    if size = Text.ofString ".inf" then pure (1.0 / 0.0)
    else if size.contains (.char ':') then do
      let places ← (sixties size).mapM floatOf
      if mostPlaces < places.length then throw .hugePlace
      pure (addSixties 0.0 1 places.reverse)
    else floatOf size
  return if beginsMinus t then -x else x

/-! ## Bytes -/

/-- The value of a digit to base sixty-four. -/
def sixtyFour? (c : Char) : Option Nat :=
  let n := c.toNat
  if 'A' ≤ c ∧ c ≤ 'Z' then some (n - 0x41)
  else if 'a' ≤ c ∧ c ≤ 'z' then some (n - 0x61 + 26)
  else if '0' ≤ c ∧ c ≤ '9' then some (n - 0x30 + 52)
  else if c = '+' then some 62
  else if c = '/' then some 63
  else none

/-- The bytes that digits to base sixty-four write. `held` are the bits that wait for more, `count`
says how many digits the group has, and `pads` how many signs for a missing one stand after them.
Other characters are passed over; a group is complete with four digits, or with those signs. -/
def bytesFrom (held count pads : Nat) : List Char → Option (List UInt8)
  | [] => if count = 0 then some [] else none
  | '=' :: rest =>
    if 2 ≤ count then
      if 4 ≤ count + pads + 1 then some [] else bytesFrom held count (pads + 1) rest
    else bytesFrom held count pads rest
  | c :: rest =>
    match sixtyFour? c with
    | none => bytesFrom held count pads rest
    | some d =>
      match count with
      | 0 => bytesFrom d 1 0 rest
      | 1 => (bytesFrom (d % 16) 2 0 rest).map (UInt8.ofNat (held * 4 + d / 16) :: ·)
      | 2 => (bytesFrom (d % 4) 3 0 rest).map (UInt8.ofNat (held * 16 + d / 4) :: ·)
      | _ => (bytesFrom 0 0 0 rest).map (UInt8.ofNat (held * 64 + d) :: ·)

/-- The bytes of a scalar, which holds ASCII characters only. -/
def bytes (t : Text) : Except Fault (List UInt8) :=
  match t.chars? with
  | none => .error .malformed
  | some cs =>
    if cs.all fun c => c.toNat < 0x80 then
      match bytesFrom 0 0 0 cs with
      | some found => .ok found
      | none => .error .malformed
    else .error .malformed

end Yaml
end TestSelection
