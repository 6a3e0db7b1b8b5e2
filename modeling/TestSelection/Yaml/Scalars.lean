/-
# What plain scalars stand for

A scalar without a tag and without quotes is looked at (`Kind.ofPlain`): it may be a truth value, a
number, nothing, a day or a moment, or one of the two signs `<<` and `=`; all else is a text. One
line end after it does not count.

| kind | for instance |
| --- | --- |
| truth value | `yes`, `Off`, `TRUE` |
| whole number | `12`, `-1_000`, `0x1f`, `0b101`, `017` (to base eight), `1:30` (to base sixty) |
| number | `1.5`, `1.`, `.5`, `1.5e+3`, `1:30.5`, `-.inf`, `.nan` |
| nothing | `~`, `null`, an empty text |
| day, moment | `2020-01-31`, `2020-01-31 09:30:00 +01:00` |
-/

import TestSelection.Text.Split
import TestSelection.Yaml.Cursor

namespace TestSelection
namespace Yaml

/-- What a part of a document stands for. -/
inductive Kind where
  | text
  | flag
  | integer
  | float
  | nothing
  | time
  | binary
  /-- The sign of a key whose value is merged into the mapping. -/
  | merge
  /-- The sign of a default value. -/
  | default
  | sequence
  | mapping
  /-- A list of pairs. -/
  | pairs
  | set
  /-- What has no meaning here. -/
  | unknown
  deriving DecidableEq

def isDigit (c : Char) : Bool := Text.isDigitIn 10 c

def isDigitOrBar (c : Char) : Bool := isDigit c || c == '_'

/-- A text without the sign at its front. -/
def dropSign : List Char → List Char
  | '+' :: rest => rest
  | '-' :: rest => rest
  | cs => cs

/-- Whether a number begins with a minus. -/
def isNegative (cs : List Char) : Bool := cs.head? == some '-'

/-- Whether a text begins with a digit and goes on with digits and bars. -/
def isDigits : List Char → Bool
  | [] => false
  | c :: rest => isDigit c && rest.all isDigitOrBar

/-- Whether a text is one of the places of a number to base sixty, after the first. -/
def isSixty : List Char → Bool
  | [a] => isDigit a
  | [a, b] => Text.isDigitIn 6 a && isDigit b
  | _ => false

/-- Whether a text without its sign is a whole number. -/
def isWhole (cs : List Char) : Bool :=
  match cs with
  | ['0'] => true
  | '0' :: 'b' :: rest => !rest.isEmpty && rest.all fun c => c == '0' || c == '1' || c == '_'
  | '0' :: 'x' :: rest => !rest.isEmpty && rest.all fun c => Text.isDigitIn 16 c || c == '_'
  | '0' :: rest => rest.all fun c => Text.isDigitIn 8 c || c == '_'
  | _ =>
    match Text.split ':' cs with
    | [] => false
    | first :: places => isDigits first && places.all isSixty

/-- Whether a text is nothing, or a power of ten with its sign. -/
def isPower : List Char → Bool
  | [] => true
  | e :: sign :: rest =>
    (e == 'e' || e == 'E') && (sign == '+' || sign == '-') && !rest.isEmpty && rest.all isDigit
  | _ => false

/-- Whether a text is a point, digits and perhaps a power of ten. -/
def isFraction : List Char → Bool
  | '.' :: rest => isPower (rest.dropWhile isDigitOrBar)
  | _ => false

/-- Whether a text without its sign is a number to base sixty with a point. -/
def isSixtyFraction (cs : List Char) : Bool :=
  match Text.split ':' cs with
  | first :: place :: more =>
    let places := place :: more
    let last := places.getLastD []
    let whole := last.takeWhile isDigit
    isDigits first && places.dropLast.all isSixty && isSixty whole &&
      match last.dropWhile isDigit with
      | '.' :: rest => rest.all isDigitOrBar
      | _ => false
  | _ => false

/-- Whether a text is a number with a point. -/
def isFloat (cs : List Char) : Bool :=
  let size := dropSign cs
  [".inf", ".Inf", ".INF"].contains (String.ofList size) ||
    [".nan", ".NaN", ".NAN"].contains (String.ofList cs) ||
    (isDigits (size.takeWhile isDigitOrBar) && isFraction (size.dropWhile isDigitOrBar)) ||
    ((cs[1]?.map isDigit).getD false && isFraction cs) ||
    isSixtyFraction size

/-! ## Days and moments -/

/-- Between `least` and `most` digits at the front, and the number they write. -/
def someDigits (least most : Nat) (cs : List Char) : Option (Nat × List Char) :=
  let ds := (cs.take most).takeWhile isDigit
  if ds.length < least then none else some (Text.ofDigits 10 ds, cs.drop ds.length)

/-- The given character at the front. -/
def mark (c : Char) : List Char → Option (List Char)
  | d :: rest => if d = c then some rest else none
  | [] => none

def isGap (c : Char) : Bool := c == ' ' || c == '\t'

/-- An offset from universal time that makes up a text: none, `Z`, or a sign with hours and perhaps
minutes. -/
def offset? (cs : List Char) : Option (Option Int) :=
  match cs.dropWhile isGap with
  | [] => if cs.isEmpty then some none else none
  | ['Z'] => some (some 0)
  | sign :: rest => do
    if sign ≠ '+' ∧ sign ≠ '-' then none
    let (hours, rest) ← someDigits 1 2 rest
    let minutes ← if rest.isEmpty then some 0 else do
      let (minutes, rest) ← someDigits 2 2 (← mark ':' rest)
      if rest.isEmpty then some minutes else none
    let size : Int := (60 * hours + minutes : Nat)
    return some (if sign = '-' then -size else size)

/-- The time of day in a text, with its offset. -/
structure Clock where
  hour : Nat
  minute : Nat
  second : Nat
  microsecond : Nat
  offset : Option Int

/-- A fraction of a second in millionths, further digits dropped. -/
def millionths (ds : List Char) : Nat :=
  let ds := ds.take 6
  Text.ofDigits 10 ds * Nat.pow 10 (6 - ds.length)

/-- The time of day that makes up a text. -/
def clock? (cs : List Char) : Option Clock := do
  let (hour, cs) ← someDigits 1 2 cs
  let (minute, cs) ← someDigits 2 2 (← mark ':' cs)
  let (second, cs) ← someDigits 2 2 (← mark ':' cs)
  let (fraction, cs) := match cs with
    | '.' :: rest => (rest.takeWhile isDigit, rest.dropWhile isDigit)
    | rest => ([], rest)
  return ⟨hour, minute, second, millionths fraction, ← offset? cs⟩

/-- The numbers of a day or a moment. -/
structure Stamp where
  year : Nat
  month : Nat
  day : Nat
  clock : Option Clock

/-- A text without one line end at its end. -/
def dropLineEnd (cs : List Char) : List Char :=
  if cs.getLast? = some '\n' then cs.dropLast else cs

/-- The day or the moment that a text of one line writes. -/
def stampOfLine? (cs : List Char) : Option Stamp := do
  let (year, cs) ← someDigits 4 4 cs
  let (month, cs) ← someDigits 1 2 (← mark '-' cs)
  let (day, cs) ← someDigits 1 2 (← mark '-' cs)
  match cs with
  | [] => return ⟨year, month, day, none⟩
  | c :: rest =>
    if c = 'T' ∨ c = 't' then return ⟨year, month, day, some (← clock? rest)⟩
    else if isGap c then return ⟨year, month, day, some (← clock? (rest.dropWhile isGap))⟩
    else none

/-- The day or the moment that a text writes. -/
def stamp? (t : Text) : Option Stamp := t.chars?.bind fun cs => stampOfLine? (dropLineEnd cs)

/-- Whether a text is a day or a moment. A day alone has all its digits. -/
def isTime (cs : List Char) : Bool :=
  match stampOfLine? cs with
  | none => false
  | some s => s.clock.isSome || cs.length == 10

/-! ## Kinds -/

/-- The words for truth values, in lower case. -/
def flags : List (String × Bool) := [
  ("yes", true), ("no", false), ("true", true), ("false", false), ("on", true), ("off", false)]

/-- The truth value of a word in lower case. -/
def flag? (word : Text) : Option Bool :=
  (flags.find? fun (name, _) => Text.ofString name == word).map (·.2)

/-- The ways to write a word: in lower case, capitalised, or in upper case. -/
def spellings (word : String) : List String := [word, word.capitalize, word.map Char.toUpper]

/-- What characters on one line stand for. -/
def Kind.ofLine (cs : List Char) : Kind :=
  let s := String.ofList cs
  if (flags.flatMap fun (name, _) => spellings name).contains s then .flag
  else if isFloat cs then .float
  else if isWhole (dropSign cs) then .integer
  else if s = "<<" then .merge
  else if s = "" ∨ s = "~" ∨ (spellings "null").contains s then .nothing
  else if isTime cs then .time
  else if s = "=" then .default
  else .text

/-- What a scalar without a tag and without quotes stands for. -/
def Kind.ofPlain (t : Text) : Kind :=
  match t.chars? with
  | none => .text
  | some cs => if cs = ['\n'] then .text else Kind.ofLine (dropLineEnd cs)

/-- The kind that a tag names. -/
def Kind.ofTag (tag : String) : Kind :=
  match tag with
  | "tag:yaml.org,2002:str" => .text
  | "tag:yaml.org,2002:bool" => .flag
  | "tag:yaml.org,2002:int" => .integer
  | "tag:yaml.org,2002:float" => .float
  | "tag:yaml.org,2002:null" => .nothing
  | "tag:yaml.org,2002:timestamp" => .time
  | "tag:yaml.org,2002:binary" => .binary
  | "tag:yaml.org,2002:merge" => .merge
  | "tag:yaml.org,2002:value" => .default
  | "tag:yaml.org,2002:seq" => .sequence
  | "tag:yaml.org,2002:map" => .mapping
  | "tag:yaml.org,2002:omap" => .pairs
  | "tag:yaml.org,2002:pairs" => .pairs
  | "tag:yaml.org,2002:set" => .set
  | _ => .unknown

end Yaml
end TestSelection
