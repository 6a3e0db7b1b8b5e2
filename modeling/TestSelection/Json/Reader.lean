/-
# Reading JSON

Each function reads one thing at the front of a text and gives what is left, or what is wrong with
it (`Fault`). Beyond the standard, `NaN`, `Infinity` and `-Infinity` are numbers. A text holds no
control characters; of two entries with one key the last one counts; the two halves of a surrogate
pair, each written by its number, are one character.

A value that holds others is read with an allowance of steps. Every step reads at least one
character, so the length of the text is allowance enough (`Json.read`). Lists and mappings may be
nested up to a depth.
-/

import TestSelection.Text.Digits
import TestSelection.Value.Basic

namespace TestSelection
namespace Json

/-- Why a text gives no value. -/
inductive Fault where
  | malformed
  /-- A whole number of too many digits. -/
  | longInteger (digits : Nat)
  /-- Lists and mappings too deep inside each other; the innermost may be a mapping. -/
  | tooDeep (mapping : Bool)
  deriving DecidableEq

/-- What is wrong with a text. -/
def Fault.message : Fault → String
  | .malformed => "not a value"
  | .longInteger digits => Text.tooManyDigits digits
  | .tooDeep mapping =>
    "maximum recursion depth exceeded while decoding a JSON " ++
      (if mapping then "object" else "array") ++ " from a unicode string"

/-- How deep lists and mappings may be nested. The reader ends with the interpreter's stack, so the
number depends on how many calls are open when it begins: this one is measured in a run as a module.
A run as a script has three levels more. -/
def deepest : Nat := 990

/-- A character that may stand between the parts of a JSON text. -/
def isSpace (c : Char) : Bool := c == ' ' || c == '\t' || c == '\n' || c == '\r'

/-- What is left of a text after the space at its front. -/
def skipSpace (cs : List Char) : List Char := cs.dropWhile isSpace

/-- A value that a word at the front stands for. -/
def readWord (value : Value) : (word text : List Char) → Except Fault (Value × List Char)
  | [], cs => .ok (value, cs)
  | w :: ws, c :: cs => if w = c then readWord value ws cs else .error .malformed
  | _ :: _, [] => .error .malformed

/-- The character that a letter after a backslash stands for. -/
def unescape? (c : Char) : Option Char :=
  if c = '"' ∨ c = '\\' ∨ c = '/' then some c
  else if c = 'b' then some '\x08'
  else if c = 'f' then some '\x0c'
  else if c = 'n' then some '\n'
  else if c = 'r' then some '\r'
  else if c = 't' then some '\t'
  else none

/-- The number that four hexadecimal digits write. -/
def unit? (a b c d : Char) : Option Nat :=
  if [a, b, c, d].all (Text.isDigitIn 16) then some (Text.ofDigits 16 [a, b, c, d]) else none

/-- The numbers of the code points up to a closing quote, those of an escape one by one. -/
def codes : List Char → Except Fault (List Nat × List Char)
  | [] => .error .malformed
  | '"' :: rest => .ok ([], rest)
  | '\\' :: 'u' :: a :: b :: c :: d :: rest =>
    match unit? a b c d with
    | none => .error .malformed
    | some n => (codes rest).map fun (ns, rest) => (n :: ns, rest)
  | '\\' :: c :: rest =>
    match unescape? c with
    | none => .error .malformed
    | some e => (codes rest).map fun (ns, rest) => (e.toNat :: ns, rest)
  | c :: rest =>
    if c.toNat < 0x20 ∨ c = '\\' then .error .malformed
    else (codes rest).map fun (ns, rest) => (c.toNat :: ns, rest)

/-- The text of some code points, with the two halves of a surrogate pair joined. -/
def joinHalves : List Nat → Text
  | [] => []
  | [n] => (Code.ofNumber? n).toList
  | a :: b :: rest =>
    if 0xd800 ≤ a ∧ a < 0xdc00 ∧ 0xdc00 ≤ b ∧ b < 0xe000 then
      (Code.ofNumber? (0x10000 + (a - 0xd800) * 0x400 + (b - 0xdc00))).toList ++ joinHalves rest
    else (Code.ofNumber? a).toList ++ joinHalves (b :: rest)

/-- A text after its opening quote. -/
def readString (cs : List Char) : Except Fault (Text × List Char) :=
  (codes cs).map fun (ns, rest) => (joinHalves ns, rest)

/-- The digits at the front of a text. -/
def digits (cs : List Char) : List Char × List Char :=
  (cs.takeWhile (Text.isDigitIn 10), cs.dropWhile (Text.isDigitIn 10))

/-- The fraction at the front of a text: a point and at least one digit. -/
def fraction : List Char → List Char × List Char
  | '.' :: rest =>
    let (ds, left) := digits rest
    if ds.isEmpty then ([], '.' :: rest) else (ds, left)
  | cs => ([], cs)

/-- The sign at the front of a text: whether it is a minus. -/
def sign : List Char → Bool × List Char
  | '-' :: rest => (true, rest)
  | '+' :: rest => (false, rest)
  | cs => (false, cs)

/-- The power of ten at the front of a text: a letter, perhaps a sign and at least one digit. -/
def power : List Char → Option Int × List Char
  | c :: rest =>
    if c = 'e' ∨ c = 'E' then
      let (minus, rest') := sign rest
      let (ds, left) := digits rest'
      let n : Int := (Text.ofDigits 10 ds : Nat)
      if ds.isEmpty then (none, c :: rest) else (some (if minus then -n else n), left)
    else (none, c :: rest)
  | [] => (none, [])

/-- The whole part of a number: a zero alone or digits that begin with another one. -/
def wholePart : List Char → Except Fault (List Char × List Char)
  | '0' :: rest => .ok (['0'], rest)
  | cs => match digits cs with
    | ([], _) => .error .malformed
    | found => .ok found

/-- A number at the front of a text, after its sign. Without fraction and power it is whole. -/
def readNumber (minus : Bool) (cs : List Char) : Except Fault (Value × List Char) := do
  let (whole, rest) ← wholePart cs
  let (places, rest) := fraction rest
  let (exponent, rest) := power rest
  if places.isEmpty && exponent.isNone then
    if Text.mostDigits < whole.length then throw (.longInteger whole.length)
    let n : Int := (Text.ofDigits 10 whole : Nat)
    return (.int (if minus then -n else n), rest)
  else
    let size := Decimal.scaled (Text.ofDigits 10 (whole ++ places))
      (exponent.getD 0 - (places.length : Int))
    return (.float (if minus then -size else size), rest)

mutual

/-- A value at the front of a text, inside of `depth` lists and mappings, in at most the given
number of steps. -/
def readValue (depth : Nat) : Nat → List Char → Except Fault (Value × List Char)
  | 0, _ => .error .malformed
  | steps + 1, cs =>
    match cs with
    | '"' :: rest => (readString rest).map fun (s, rest) => (.str s, rest)
    | '\x7b' :: rest =>
      if deepest ≤ depth then .error (.tooDeep true)
      else
        match skipSpace rest with
        | '\x7d' :: rest => .ok (.map [], rest)
        | rest =>
          (readEntries (depth + 1) steps rest).map fun (es, rest) =>
            (.map (Entries.ofList es), rest)
    | '[' :: rest =>
      if deepest ≤ depth then .error (.tooDeep false)
      else
        match skipSpace rest with
        | ']' :: rest => .ok (.list [], rest)
        | rest =>
          (readItems (depth + 1) steps rest).map fun (items, rest) => (.list items, rest)
    | 'n' :: _ => readWord .null "null".toList cs
    | 't' :: _ => readWord (.bool true) "true".toList cs
    | 'f' :: _ => readWord (.bool false) "false".toList cs
    | 'N' :: _ => readWord (.float (0.0 / 0.0)) "NaN".toList cs
    | 'I' :: _ => readWord (.float (1.0 / 0.0)) "Infinity".toList cs
    | '-' :: 'I' :: _ => readWord (.float (-1.0 / 0.0)) "-Infinity".toList cs
    | '-' :: rest => readNumber true rest
    | _ => readNumber false cs

/-- The items of a list up to its closing bracket; there is at least one. -/
def readItems (depth : Nat) : Nat → List Char → Except Fault (List Value × List Char)
  | 0, _ => .error .malformed
  | steps + 1, cs => do
    let (item, rest) ← readValue depth steps cs
    match skipSpace rest with
    | ']' :: rest => return ([item], rest)
    | ',' :: rest =>
      let (items, rest) ← readItems depth steps (skipSpace rest)
      return (item :: items, rest)
    | _ => throw .malformed

/-- The entries of a mapping up to its closing brace; there is at least one. -/
def readEntries (depth : Nat) : Nat → List Char → Except Fault (List (Value × Value) × List Char)
  | 0, _ => .error .malformed
  | steps + 1, cs =>
    match cs with
    | '"' :: rest => do
      let (name, rest) ← readString rest
      match skipSpace rest with
      | ':' :: rest =>
        let (value, rest) ← readValue depth steps (skipSpace rest)
        match skipSpace rest with
        | '\x7d' :: rest => return ([(.str name, value)], rest)
        | ',' :: rest =>
          let (entries, rest) ← readEntries depth steps (skipSpace rest)
          return ((.str name, value) :: entries, rest)
        | _ => throw .malformed
      | _ => throw .malformed
    | _ => .error .malformed

end

/-- The value that a text writes, if it is JSON as a whole. -/
def read (s : String) : Except Fault Value := do
  let cs := skipSpace s.toList
  let (value, rest) ← readValue 0 (cs.length + 1) cs
  if (skipSpace rest).isEmpty then return value else throw .malformed

end Json
end TestSelection
