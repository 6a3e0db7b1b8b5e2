/-
# Configuration values

What a configuration holds: scalars, lists, tuples, sets and mappings, to any depth. A mapping is
its list of entries, in order; no two entries of one mapping have the same key.

Two keys are the same when they are equal as numbers (`1`, `1.0` and `true` are one key), when they
are one moment, though perhaps told by two clocks, or, for all other values, when they are alike in
kind and content (`Value.sameKey`). What is not a number equals nothing, not even itself. Setting a
key that is there already keeps its place and its first spelling and replaces the value
(`Keyed.put`).
-/

import TestSelection.Decimal.Layout
import TestSelection.Text.Basic
import TestSelection.Value.Calendar

namespace TestSelection

/-- A configuration value. -/
inductive Value where
  | null
  | bool (b : Bool)
  | int (n : Int)
  | float (x : Float)
  | str (s : Text)
  | bytes (content : List UInt8)
  | date (d : Date)
  | dateTime (t : DateTime)
  | list (items : List Value)
  | tuple (items : List Value)
  | set (members : List Value)
  | map (entries : List (Value × Value))
  deriving Inhabited

/-- What is kept under keys, in order. -/
abbrev Keyed (β : Type) := List (Value × β)

/-- The entries of a mapping, in order. -/
abbrev Entries := Keyed Value

namespace Value

/-- The list of some strings. -/
def ofStrings (strings : List String) : Value := .list (strings.map fun (s : String) => .str s)

/-- The size of a number, by which numbers of different kinds are compared. -/
inductive Size where
  | whole (n : Int)
  | other (x : Float)
  deriving DecidableEq

/-- The size of a value that counts as a number; truth values do. -/
def size? : Value → Option Size
  | .bool b => some (.whole (if b then 1 else 0))
  | .int n => some (.whole n)
  | .float x => if x.isNaN then none else some ((Decimal.whole? x).elim (.other x) .whole)
  | _ => none

mutual

/-- Whether two values are the same key. -/
def sameKey : Value → Value → Bool
  | .null, .null => true
  | .str s, .str t => s == t
  | .bytes s, .bytes t => s == t
  | .date d, .date e => decide (d = e)
  | .dateTime t, .dateTime u => t.sameMoment u
  | .tuple xs, .tuple ys => sameKeys xs ys
  | a, b =>
    match a.size?, b.size? with
    | some m, some n => decide (m = n)
    | _, _ => false

/-- Whether two tuples agree as keys, item by item. -/
def sameKeys : List Value → List Value → Bool
  | [], [] => true
  | x :: xs, y :: ys => sameKey x y && sameKeys xs ys
  | _, _ => false

end

/-- Two texts are the same key when they are equal. -/
@[simp] theorem sameKey_str (s t : Text) : sameKey (.str s) (.str t) = (s == t) := by
  simp [sameKey]

end Value

namespace Keyed

/-- Puts something under a key, in place of what is there. -/
def put {β : Type} : Keyed β → Value → β → Keyed β
  | [], key, new => [(key, new)]
  | (k, old) :: rest, key, new =>
    if k.sameKey key then (k, new) :: rest else (k, old) :: put rest key new

/-- A new key is put behind the keys that are there. -/
theorem put_of_forall_ne {β : Type} {kept : Keyed β} {key : Value} {new : β}
    (h : ∀ entry ∈ kept, entry.1.sameKey key = false) :
    kept.put key new = kept ++ [(key, new)] := by
  induction kept with
  | nil => rfl
  | cons entry rest ih =>
    obtain ⟨k, old⟩ := entry
    simp [put, h (k, old) (by simp), ih fun e he => h e (by simp [he])]

end Keyed

namespace Entries

/-- The value under a text as key. -/
def field? : Entries → Text → Option Value
  | [], _ => none
  | (.str k, v) :: rest, name => if k = name then some v else field? rest name
  | _ :: rest, name => field? rest name

/-- Sets keys one after another, in an empty mapping at first. -/
def ofList (pairs : List (Value × Value)) : Entries :=
  pairs.foldl (fun entries (k, v) => entries.put k v) []

end Entries
end TestSelection
