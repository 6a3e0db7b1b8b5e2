/-
# Values in messages

How a message shows a value: texts in quotes, lists in square brackets, tuples in round ones (a
tuple of one item keeps its comma), mappings as `key: value` between braces, and sets between
braces too, unless they are empty.

`Value.literal` shows every value like this; `Value.text` is the same except that a text, a day
and a moment stand for themselves. The latter is how a value becomes a name.

A whole number of too many digits cannot be written, and so neither can a value that holds one
(`Value.hasLongInteger`).
-/

import TestSelection.Text.Digits
import TestSelection.Text.Quoted
import TestSelection.Value.Basic

namespace TestSelection
namespace Value

/-- A truth value by its name. -/
def boolLiteral (b : Bool) : String := if b then "True" else "False"

mutual

/-- A value as messages show it. -/
def literal : Value → String
  | .null => "None"
  | .bool b => boolLiteral b
  | .int n => toString n
  | .float x => Decimal.Layout.message.text x
  | .str s => Text.quoted s
  | .bytes content => Text.quotedBytes content
  | .date d => d.shown
  | .dateTime t => t.shown
  | .list items => "[" ++ ", ".intercalate (literals items) ++ "]"
  | .tuple items =>
    match literals items with
    | [item] => "(" ++ item ++ ",)"
    | shown => "(" ++ ", ".intercalate shown ++ ")"
  | .set members =>
    if members.isEmpty then "set()"
    else "\x7b" ++ ", ".intercalate (literals members) ++ "\x7d"
  | .map entries => "\x7b" ++ ", ".intercalate (entryLiterals entries) ++ "\x7d"

/-- Each of some values as messages show it. -/
def literals : List Value → List String
  | [] => []
  | item :: rest => literal item :: literals rest

/-- Each entry of a mapping as messages show it. -/
def entryLiterals : List (Value × Value) → List String
  | [] => []
  | (key, value) :: rest => (literal key ++ ": " ++ literal value) :: entryLiterals rest

end

mutual

/-- Whether a value is or holds a whole number of too many digits. -/
def hasLongInteger : Value → Bool
  | .int n => Text.isTooLong n
  | .list items => anyLongInteger items
  | .tuple items => anyLongInteger items
  | .set members => anyLongInteger members
  | .map entries => anyLongEntry entries
  | _ => false

/-- Whether one of some values is or holds such a number. -/
def anyLongInteger : List Value → Bool
  | [] => false
  | item :: rest => hasLongInteger item || anyLongInteger rest

/-- Whether an entry of a mapping holds such a number, in its key or its value. -/
def anyLongEntry : List (Value × Value) → Bool
  | [] => false
  | (key, value) :: rest => hasLongInteger key || hasLongInteger value || anyLongEntry rest

end

/-- A value as a name. -/
def text : Value → Text
  | .str s => s
  | .date d => d.text
  | .dateTime t => t.text
  | other => other.literal

end Value
end TestSelection
