/-
# The value of a document

The value of a document is built level by level: first the root, then its parts, then theirs. What
stands deeper is not looked at before all that stands higher is in order, so of several faults that
of the highest level is reported, and on one level the first. A node that is part of several others
is built once.

Until all is built, the value of a node holds the numbers of its parts (`Cell`). Only then are they
replaced by their values (`Cells.value`), which takes a value without end for what contains itself.

Keys are set in order, so the entry of a mapping's own counts and not a merged one. What is not a
number is the same key again only where the same node stands again, and where both are written by
the sign `.nan` (`Key.isSame`).
-/

import TestSelection.Yaml.Graph
import TestSelection.Yaml.Merge
import TestSelection.Yaml.ScalarValue
import TestSelection.Yaml.Scanner

namespace TestSelection
namespace Yaml

/-- A key of a mapping, and the node that it comes from; none for the sign `.nan`. -/
structure Key where
  value : Value
  source : Option NodeId

/-- Whether a value is no number though it is of that kind. -/
def isNaN : Value → Bool
  | .float x => x.isNaN
  | _ => false

/-- Whether two keys are the same. -/
def Key.isSame (k l : Key) : Bool :=
  k.value.sameKey l.value || (isNaN k.value && isNaN l.value && k.source == l.source)

/-- Puts the number of a node under a key, in place of what is there. -/
def putKey : List (Key × NodeId) → Key → NodeId → List (Key × NodeId)
  | [], key, new => [(key, new)]
  | (k, old) :: rest, key, new =>
    if k.isSame key then (k, new) :: rest else (k, old) :: putKey rest key new

/-- The value of a node, with the numbers of its parts in their places. -/
inductive Cell where
  | scalar (v : Value)
  | list (items : List NodeId)
  | pairs (items : List (NodeId × NodeId))
  | map (entries : Keyed NodeId)
  | set (members : List Value)

/-- What a node of some kind holds before its parts are looked at; a scalar has none. -/
def Kind.emptyCell? : Kind → Option Cell
  | .sequence => some (.list [])
  | .pairs => some (.pairs [])
  | .mapping => some (.map [])
  | .set => some (.set [])
  | _ => none

/-- The values of nodes by their numbers, as far as they are there. -/
abbrev Cells := Array (Option Cell)

/-- The nodes, what is built of them, and those whose parts wait to be looked at. -/
structure Build where
  nodes : Nodes
  cells : Cells
  waiting : Array NodeId

/-- A change of what is built. -/
abbrev Builder := StateT Build (Except Fault)

namespace Builder

/-- Sets the value of a node. -/
def setCell (id : NodeId) (cell : Cell) : Builder Unit :=
  modify fun s => { s with cells := s.cells.setIfInBounds id (some cell) }

/-- Begins the value of a node, unless that is done. A scalar is complete at once; everything else
waits. -/
def start (id : NodeId) : Builder Unit := do
  let s ← get
  if (s.cells.getD id none).isSome then return
  match (s.nodes.kind id).emptyCell? with
  | some cell =>
    setCell id cell
    modify fun s => { s with waiting := s.waiting.push id }
  | none => setCell id (.scalar (← s.nodes.scalarValue id))

/-- A node as a key, which has to be a scalar. -/
def key (id : NodeId) : Builder Key := do
  let s ← get
  match s.cells.getD id none with
  | some (.scalar v) => return ⟨v, if s.nodes.isNaNSign id then none else some id⟩
  | _ => throw .malformed

/-- The entries of a mapping, its merges carried out. -/
def entries (id : NodeId) : Builder (Keyed NodeId) := do
  let s ← get
  let (own, nodes) ← (do merge id; entriesOf id).run s.nodes
  set { s with nodes }
  let kept ← own.foldlM (fun kept (k, v) => do
    start k
    let name ← key k
    start v
    return putKey kept name v) []
  return kept.map fun (k, v) => (k.value, v)

/-- The one entry of each of some mappings. -/
def singles (items : List NodeId) : Builder (List (NodeId × NodeId)) :=
  items.mapM fun item => do
    match (← get).nodes.entries? item with
    | some [(k, v)] =>
      start k
      start v
      return (k, v)
    | _ => throw .malformed

/-- The items of a sequence. -/
def items (id : NodeId) : Builder (List NodeId) := do
  match (← get).nodes.items? id with
  | some found => return found
  | none => throw .malformed

/-- Looks at the parts of a node that waits. -/
def complete (id : NodeId) : Builder Unit := do
  match (← get).nodes.kind id with
  | .sequence =>
    let found ← items id
    found.forM start
    setCell id (.list found)
  | .pairs => setCell id (.pairs (← singles (← items id)))
  | .mapping => setCell id (.map (← entries id))
  | .set => setCell id (.set ((← entries id).map (·.1)))
  | _ => throw .malformed

/-- Completes the nodes that wait, level by level. -/
def levels : Nat → Builder Unit
  | 0 => throw .malformed
  | steps + 1 => do
    let level := (← get).waiting
    if level.isEmpty then return
    modify fun s => { s with waiting := #[] }
    level.toList.forM complete
    levels steps

end Builder

/-- What is built of a document. Every level has a node of its own, so there are no more of them
than of nodes. -/
def Graph.cells (graph : Graph) : Except Fault Cells := do
  let build : Builder Unit := do
    Builder.start graph.root
    Builder.levels (graph.nodes.size + 1)
  let (_, s) ← build.run ⟨graph.nodes, .replicate graph.nodes.size none, #[]⟩
  return s.cells

/-- How deep lists and mappings may be nested in a value. References may nest them deeper than the
text does (`deepest`); then the stack ends while the keys are turned into texts. This number too is
measured in a run as a module. -/
def deepestValue : Nat := 495

namespace Cells

/-- The value of a node that is built, if it is not nested deeper than so many levels. -/
def value (cells : Cells) : Nat → NodeId → Except Fault Value
  | 0, _ => .error .endless
  | depth + 1, id =>
    match cells.getD id none with
    | none => .error .malformed
    | some (.scalar v) => .ok v
    | some (.list items) => (items.mapM (value cells depth)).map .list
    | some (.pairs items) => do
      let found ← items.mapM fun (k, v) => do
        return Value.tuple [← value cells (depth - 1) k, ← value cells (depth - 1) v]
      return .list found
    | some (.map entries) => do
      let found ← entries.mapM fun (k, v) => do return (k, ← value cells depth v)
      return .map found
    | some (.set members) => .ok (.set members)

end Cells

/-- What a document holds at its top. -/
inductive Content where
  | nothing
  | mapping (entries : Entries)
  | other
  deriving Inhabited

/-- What a text holds at its top. -/
def Content.ofText (s : String) : Except Fault Content := do
  match ← Graph.ofTokens? (Tokens.ofText s) with
  | none => return .nothing
  | some graph =>
    let cells ← graph.cells
    match cells.getD graph.root none with
    | some (.scalar .null) => return .nothing
    | some (.map _) =>
      match ← cells.value (deepestValue + 1) graph.root with
      | .map entries => return .mapping entries
      | _ => return .other
    | _ => return .other

end Yaml
end TestSelection
