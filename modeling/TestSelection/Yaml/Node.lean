/-
# The nodes of a document

A document is a graph of scalars, sequences and mappings. A node is known by its number, and a
sequence or a mapping holds the numbers of its parts, so a node with an anchor may be part of
several nodes, and of itself. Each node is of a kind, which its tag gives or, without one, what it
looks like.
-/

import TestSelection.Yaml.Scalars

namespace TestSelection
namespace Yaml

/-- The number of a node. -/
abbrev NodeId := Nat

/-- A node of a document. -/
inductive Node where
  | scalar (kind : Kind) (text : Text)
  | sequence (kind : Kind) (items : List NodeId)
  | mapping (kind : Kind) (entries : List (NodeId × NodeId))
  deriving DecidableEq

/-- What a node stands for. -/
def Node.kind : Node → Kind
  | .scalar kind _ => kind
  | .sequence kind _ => kind
  | .mapping kind _ => kind

/-- The same node, standing for something else. -/
def Node.withKind (kind : Kind) : Node → Node
  | .scalar _ text => .scalar kind text
  | .sequence _ items => .sequence kind items
  | .mapping _ entries => .mapping kind entries

/-- The nodes of a document by their numbers. -/
abbrev Nodes := Array Node

namespace Nodes

/-- The kind of a node. -/
def kind (nodes : Nodes) (id : NodeId) : Kind := (nodes[id]?.map Node.kind).getD .unknown

/-- The entries of a node, if it is a mapping. -/
def entries? (nodes : Nodes) (id : NodeId) : Option (List (NodeId × NodeId)) :=
  match nodes[id]? with
  | some (.mapping _ entries) => some entries
  | _ => none

/-- The items of a node, if it is a sequence. -/
def items? (nodes : Nodes) (id : NodeId) : Option (List NodeId) :=
  match nodes[id]? with
  | some (.sequence _ items) => some items
  | _ => none

/-- The nodes with other entries of a mapping. -/
def withEntries (nodes : Nodes) (id : NodeId) (entries : List (NodeId × NodeId)) : Nodes :=
  nodes.modify id fun node => .mapping node.kind entries

/-- The nodes with one of them standing for something else. -/
def withKind (nodes : Nodes) (id : NodeId) (kind : Kind) : Nodes :=
  nodes.modify id (Node.withKind kind)

end Nodes

/-- A document. -/
structure Graph where
  nodes : Nodes
  root : NodeId

/-- What a sequence or a mapping stands for; a lone `!` is no tag. -/
def Kind.ofCollection (own : Kind) (tag : Option String) : Kind :=
  match tag with
  | none => own
  | some name => if name = "!" then own else Kind.ofTag name

/-- What a scalar stands for; with a lone `!` it counts as written without quotes. -/
def Kind.ofScalar (text : Text) (plain : Bool) (tag : Option String) : Kind :=
  match tag with
  | none => if plain then Kind.ofPlain text else .text
  | some name => if name = "!" then Kind.ofPlain text else Kind.ofTag name

end Yaml
end TestSelection
