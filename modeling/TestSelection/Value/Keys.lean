/-
# Text keys

A configuration is used with texts as keys at every depth. `Value.keyText` is the text of a key,
and `Value.withTextKeys` puts it in the place of every key, also inside lists; tuples become lists
on the way, and sets stay as they are. Keys that have one text become one entry, at the place of the
first and with the value of the last (`Keyed.put`).

A key that is a whole number of too many digits, or a tuple with one, has no text; then the value
cannot be used (`Value.hasLongKey`), and there is nothing in its place (`Value.textKeyed?`).
-/

import TestSelection.Value.Literal

namespace TestSelection
namespace Value

/-- The text of a key. -/
def keyText : Value → Text
  | .bool b => if b then "true" else "false"
  | .null => ""
  | other => other.text

mutual

/-- The value with a text for every key at every depth, and a list for every tuple. -/
def withTextKeys : Value → Value
  | .list items => .list (itemsWithTextKeys items)
  | .tuple items => .list (itemsWithTextKeys items)
  | .map entries => .map (entriesWithTextKeys [] entries)
  | .null => .null
  | .bool b => .bool b
  | .int n => .int n
  | .float x => .float x
  | .str s => .str s
  | .bytes content => .bytes content
  | .date d => .date d
  | .dateTime t => .dateTime t
  | .set members => .set members

/-- The same for each of some values. -/
def itemsWithTextKeys : List Value → List Value
  | [] => []
  | item :: rest => withTextKeys item :: itemsWithTextKeys rest

/-- The same for the entries of a mapping, set one after another above those `done`. -/
def entriesWithTextKeys (done : Entries) : List (Value × Value) → Entries
  | [] => done
  | (key, value) :: rest =>
    entriesWithTextKeys (done.put (.str key.keyText) (withTextKeys value)) rest

end

mutual

/-- Whether a mapping in a value has a key without a text, at any depth. -/
def hasLongKey : Value → Bool
  | .list items => anyHasLongKey items
  | .tuple items => anyHasLongKey items
  | .map entries => anyLongKey entries
  | _ => false

/-- The same for some values. -/
def anyHasLongKey : List Value → Bool
  | [] => false
  | item :: rest => hasLongKey item || anyHasLongKey rest

/-- The same for the entries of a mapping. -/
def anyLongKey : List (Value × Value) → Bool
  | [] => false
  | (key, value) :: rest => key.hasLongInteger || hasLongKey value || anyLongKey rest

end

/-- The value with texts for keys, if every key has one. -/
def textKeyed? (v : Value) : Option Value := if v.hasLongKey then none else some v.withTextKeys

end Value
end TestSelection
