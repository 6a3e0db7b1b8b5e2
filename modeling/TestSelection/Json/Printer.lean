/-
# Writing JSON

The text of a value with two spaces of indentation per level. Every list and mapping that is not
empty is spread over lines, one item or entry a line; tuples are written as lists. The text holds
printable ASCII characters and line ends only: in texts, everything else is escaped, as one or two
units of UTF-16 (`escapeCode`); half of a surrogate pair is such a unit.

Keys that are numbers, truth values or null are written as the text of that value. Days, moments,
bytes and sets have no form in JSON, a tuple cannot be a key, and a whole number may have
`Text.mostDigits` digits only; a value that holds one of these has no text (`Unwritable`).
-/

import TestSelection.Value.Basic
import TestSelection.Text.Digits
import TestSelection.Text.Quoted

namespace TestSelection
namespace Json

/-- Why a value has no JSON text. -/
inductive Unwritable where
  /-- JSON has no form for it. -/
  | noForm
  /-- A whole number of too many digits. -/
  | longInteger
  deriving DecidableEq

/-- One unit of UTF-16 as an escape. -/
def unit (n : Nat) : List Char := '\\' :: 'u' :: Text.hex 4 n

/-- A character inside a JSON text. -/
def escapeChar (c : Char) : List Char :=
  let n := c.toNat
  if c = '"' then ['\\', '"']
  else if c = '\\' then ['\\', '\\']
  else if c = '\n' then ['\\', 'n']
  else if c = '\r' then ['\\', 'r']
  else if c = '\t' then ['\\', 't']
  else if n = 0x0c then ['\\', 'f']
  else if n = 0x08 then ['\\', 'b']
  else if 0x20 ≤ n ∧ n < 0x7f then [c]
  else if n < 0x10000 then unit n
  else unit (0xd800 + (n - 0x10000) / 0x400) ++ unit (0xdc00 + (n - 0x10000) % 0x400)

/-- A code point inside a JSON text. -/
def escapeCode : Code → List Char
  | .char c => escapeChar c
  | .half n => unit (Code.half n).number

/-- A text in quotes. -/
def string (t : Text) : List Char := '"' :: t.flatMap escapeCode ++ ['"']

/-- A new line at a level of indentation. -/
def newLine (level : Nat) : List Char := '\n' :: List.replicate (2 * level) ' '

/-- The digits of a whole number, after its sign. -/
def integer (n : Int) : Except Unwritable String :=
  if Text.mostDigits < (Nat.toDigits 10 n.natAbs).length then .error .longInteger
  else .ok (toString n)

/-- The text of a scalar, without quotes. -/
def scalar : Value → Except Unwritable String
  | .null => .ok "null"
  | .bool b => .ok (if b then "true" else "false")
  | .int n => integer n
  | .float x => .ok (Decimal.Layout.json.text x)
  | _ => .error .noForm

/-- The text of a key. -/
def key (k : Value) : Except Unwritable (List Char) :=
  match k with
  | .str s => .ok (string s)
  | other => (scalar other).map fun s => string s

mutual

/-- The text of a value that stands at a level of indentation. -/
def render (level : Nat) : Value → Except Unwritable (List Char)
  | .str s => .ok (string s)
  | .list [] => .ok ['[', ']']
  | .list (item :: rest) => do
    let lines ← renderItems (level + 1) (item :: rest)
    return '[' :: lines ++ newLine level ++ [']']
  | .tuple [] => .ok ['[', ']']
  | .tuple (item :: rest) => do
    let lines ← renderItems (level + 1) (item :: rest)
    return '[' :: lines ++ newLine level ++ [']']
  | .map [] => .ok ['\x7b', '\x7d']
  | .map (entry :: rest) => do
    let lines ← renderEntries (level + 1) (entry :: rest)
    return '\x7b' :: lines ++ newLine level ++ ['\x7d']
  | .null => .ok "null".toList
  | .bool b => .ok (if b then "true".toList else "false".toList)
  | .int n => (integer n).map String.toList
  | .float x => .ok (Decimal.Layout.json.text x).toList
  | .bytes _ => .error .noForm
  | .date _ => .error .noForm
  | .dateTime _ => .error .noForm
  | .set _ => .error .noForm

/-- Items on lines of their own, with commas between them. -/
def renderItems (level : Nat) : List Value → Except Unwritable (List Char)
  | [] => .ok []
  | [item] => do
    let text ← render level item
    return newLine level ++ text
  | item :: rest => do
    let text ← render level item
    let others ← renderItems level rest
    return newLine level ++ text ++ ',' :: others

/-- Entries on lines of their own, with commas between them. -/
def renderEntries (level : Nat) : List (Value × Value) → Except Unwritable (List Char)
  | [] => .ok []
  | [(k, v)] => do
    let name ← key k
    let text ← render level v
    return newLine level ++ name ++ ':' :: ' ' :: text
  | (k, v) :: rest => do
    let name ← key k
    let text ← render level v
    let others ← renderEntries level rest
    return newLine level ++ name ++ ':' :: ' ' :: text ++ ',' :: others

end

/-- The JSON text of a value. -/
def text (v : Value) : Except Unwritable String := (render 0 v).map String.ofList

end Json
end TestSelection
