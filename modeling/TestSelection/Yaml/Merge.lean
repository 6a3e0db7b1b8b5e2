/-
# Merging mappings

An entry under the sign `<<` brings the entries of the mapping, or of each of the mappings in the
list, that it holds; they go in front of the mapping's own, and of several mappings in one list the
last comes first. The entry itself is taken away first, and then the merges of the mappings that it
holds are carried out, so a mapping may merge one that it is part of, and itself.

All this changes the nodes: a mapping that is part of several nodes is merged once. It is also the
time at which the sign `=` of a key becomes a text, in this mapping and wherever else that node
stands.
-/

import TestSelection.Yaml.Node

namespace TestSelection
namespace Yaml

/-- The first entry under the sign of a merge: what it holds, and the entries without it. -/
def takeMerge (nodes : Nodes) :
    List (NodeId × NodeId) → Option (NodeId × List (NodeId × NodeId))
  | [] => none
  | (k, v) :: rest =>
    if nodes.kind k = .merge then some (v, rest)
    else (takeMerge nodes rest).map fun (found, others) => (found, (k, v) :: others)

/-- Makes the signs of default values among some keys texts. -/
def readDefaults (nodes : Nodes) (entries : List (NodeId × NodeId)) : Nodes :=
  entries.foldl
    (fun nodes (k, _) => if nodes.kind k = .default then nodes.withKind k .text else nodes) nodes

/-- A change of the nodes. -/
abbrev Merging := StateT Nodes (Except Fault)

/-- The entries of a mapping. -/
def entriesOf (id : NodeId) : Merging (List (NodeId × NodeId)) := do
  match (← get).entries? id with
  | some entries => return entries
  | none => throw .malformed

mutual

/-- Carries out the merges of a mapping; `brought` are the entries that they have brought so far. -/
def mergeInto (id : NodeId) (brought : List (NodeId × NodeId)) : Nat → Merging Unit
  | 0 => throw .malformed
  | steps + 1 => do
    let entries ← entriesOf id
    match takeMerge (← get) entries with
    | some (v, others) =>
      modify fun nodes => nodes.withEntries id others
      let more ← bring v steps
      mergeInto id (brought ++ more) steps
    | none => modify fun nodes => (readDefaults nodes entries).withEntries id (brought ++ entries)

/-- The entries that the mapping, or the list of mappings, under the sign of a merge brings. -/
def bring (id : NodeId) : Nat → Merging (List (NodeId × NodeId))
  | 0 => throw .malformed
  | steps + 1 => do
    match (← get).items? id with
    | none =>
      let _ ← entriesOf id
      mergeInto id [] steps
      entriesOf id
    | some items =>
      let found ← items.mapM fun item => do
        let _ ← entriesOf item
        mergeInto item [] steps
        entriesOf item
      return found.reverse.flatten

end

/-- How many entries the mappings among some nodes have. -/
def countEntries (nodes : Nodes) : Nat :=
  nodes.foldl (fun n node => match node with
    | .mapping _ entries => n + entries.length
    | _ => n) 0

/-- Carries out the merges of a mapping. Each one takes an entry away, so twice as many steps as
there are entries are enough. -/
def merge (id : NodeId) : Merging Unit := do
  mergeInto id [] (2 * countEntries (← get) + 2)

end Yaml
end TestSelection
