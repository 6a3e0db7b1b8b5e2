/-
# The values of scalars

The value of a text of each kind. What the kind asks for need not be what the text holds, and then
the fault tells which of the two it was. A mapping may stand in the place of a scalar: its text is
that under its sign `=`.
-/

import TestSelection.Value.Basic
import TestSelection.Yaml.Node
import TestSelection.Yaml.Number

namespace TestSelection
namespace Yaml

/-- A day or a moment. -/
def time (t : Text) : Except Fault Value :=
  match stamp? t with
  | none => .error .badTime
  | some s =>
    match s.clock with
    | none => ((Date.of? s.year s.month s.day).mapError .date).map .date
    | some t =>
      ((DateTime.of? s.year s.month s.day t.hour t.minute t.second t.microsecond
        t.offset).mapError .date).map .dateTime

/-- A truth value, in any case. -/
def flag (t : Text) : Except Fault Value :=
  match flag? (Text.lower t) with
  | some b => .ok (.bool b)
  | none => .error (.badFlag (Text.lower t))

/-- The value of a text of a kind. -/
def textValue (t : Text) : Kind → Except Fault Value
  | .text => .ok (.str t)
  | .flag => flag t
  | .integer => (integer t).map .int
  | .float => (float t).map .float
  | .nothing => .ok .null
  | .time => time t
  | .binary => (bytes t).map .bytes
  | _ => .error .malformed

/-- Whether a kind is one of scalars that have a value. -/
def Kind.isScalar : Kind → Bool
  | .text => true
  | .flag => true
  | .integer => true
  | .float => true
  | .nothing => true
  | .time => true
  | .binary => true
  | _ => false

namespace Nodes

/-- The text of a node that is to be a scalar, in at most so many steps from a mapping to what it
holds. -/
def scalarText (nodes : Nodes) : Nat → NodeId → Except Fault Text
  | 0, _ => .error .endless
  | steps + 1, id =>
    match nodes[id]? with
    | some (.scalar _ text) => .ok text
    | some (.mapping _ entries) =>
      match entries.find? fun (k, _) => nodes.kind k = .default with
      | some (_, v) => scalarText nodes steps v
      | none => .error .malformed
    | _ => .error .malformed

/-- The value of a node that is to be a scalar. A moment has to be one itself. -/
def scalarValue (nodes : Nodes) (id : NodeId) : Except Fault Value := do
  let kind := nodes.kind id
  if !kind.isScalar then throw .malformed
  let text ← nodes.scalarText (nodes.size + 1) id
  if kind = .time ∧ !(nodes[id]? matches some (.scalar _ _)) then throw .noTimeText
  textValue text kind

/-- Whether a scalar is written by the sign of what is not a number. -/
def isNaNSign (nodes : Nodes) (id : NodeId) : Bool :=
  match nodes.scalarText (nodes.size + 1) id with
  | .ok t => Yaml.isNaNSign t
  | .error _ => false

end Nodes
end Yaml
end TestSelection
