/-
# From tokens to nodes

A node is read from the front of the tokens that are left (`Reader`). It gets its number when it
begins, and its parts are numbered after it, in their order. Anchors and references are resolved on
the way: an anchor names the number of a node, so a reference can stand inside the node that it
refers to. Each anchor names one node.

Every step either takes a token or goes down to a smaller rule, so a few steps per token are enough
(`Graph.ofTokens?`). Sequences and mappings may be nested up to a depth (`deepest`).
-/

import TestSelection.Yaml.Node
import TestSelection.Yaml.Token

namespace TestSelection
namespace Yaml

/-- How deep sequences and mappings may be nested. The reader ends with the interpreter's stack, so
the number depends on how many calls are open when it begins: it is measured in a run as a module,
as that for JSON is (`Json.deepest`). -/
def deepest : Nat := 490

/-- What is left of a document, and the nodes so far. -/
structure Unread where
  tokens : Tokens
  nodes : Nodes
  anchors : List (String × NodeId)
  handles : List (String × String)
  /-- How many sequences and mappings are open. -/
  depth : Nat

/-- A reader of what is left. -/
abbrev Reader := StateT Unread (Except Fault)

namespace Reader

/-- The next token. Where the text cannot be read on, that is at fault. -/
def peek : Reader (Option Token) := do
  let s ← get
  match s.tokens.settled, s.tokens.fault with
  | token :: _, _ => return some token
  | [], some fault => throw fault
  | [], none => return none

/-- Drops the next token. -/
def skip : Reader Unit :=
  modify fun s => { s with tokens := { s.tokens with settled := s.tokens.settled.tail } }

/-- Drops the next token if it is the given one, and says whether it was. -/
def accept (t : Token) : Reader Bool := do
  if (← peek) = some t then
    skip
    return true
  else return false

/-- Drops the next token, which must be the given one. -/
def expect (t : Token) : Reader Unit := do
  if !(← accept t) then throw .malformed

/-- Adds a node, perhaps with an anchor. -/
def add (anchor : Option String) (node : Node) : Reader NodeId := do
  let s ← get
  let id := s.nodes.size
  match anchor with
  | none => set { s with nodes := s.nodes.push node }
  | some name =>
    if (s.anchors.lookup name).isSome then throw .malformed
    set { s with nodes := s.nodes.push node, anchors := (name, id) :: s.anchors }
  return id

/-- Adds a node that holds others, which are read after it. -/
def addWith {α : Type} (anchor : Option String) (node : α → Node) (empty : α) (parts : Reader α) :
    Reader NodeId := do
  let id ← add anchor (node empty)
  let depth := (← get).depth
  if deepest ≤ depth then throw .endless
  modify fun s => { s with depth := depth + 1 }
  let found ← parts
  modify fun s => { s with nodes := s.nodes.setIfInBounds id (node found), depth }
  return id

/-- The node that a reference stands for. -/
def reference (name : String) : Reader NodeId := do
  match (← get).anchors.lookup name with
  | none => throw .malformed
  | some id => return id

/-- The tag at the front, if there is one: its handle and its suffix. -/
def tag : Reader (Option (Option String × String)) := do
  match ← peek with
  | some (.tag handle suffix) =>
    skip
    return some (handle, suffix)
  | _ => return none

/-- The full name of a tag. -/
def tagName (handle : Option String) (suffix : String) : Reader String := do
  match handle with
  | none => return suffix
  | some handle =>
    match (← get).handles.lookup handle with
    | none => throw .malformed
    | some expansion => return expansion ++ suffix

/-- The anchor at the front, if there is one. -/
def anchor : Reader (Option String) := do
  match ← peek with
  | some (.anchor name) =>
    skip
    return some name
  | _ => return none

/-- The anchor and the tag at the front, in either order. -/
def properties : Reader (Option String × Option String) := do
  let first ← anchor
  let found ← tag
  let name ← if first.isNone && found.isSome then anchor else pure first
  match found with
  | none => return (name, none)
  | some (handle, suffix) => return (name, some (← tagName handle suffix))

/-- A scalar that is not written. -/
def emptyScalar : Reader NodeId := add none (.scalar .nothing [])

/-- Whether the next token is one of some. -/
def isNext (ts : List (Option Token)) : Reader Bool := do return ts.contains (← peek)

/-- What stands where a node may be left out before one of some tokens. -/
def nodeUnless (ts : List Token) (node : Reader NodeId) : Reader NodeId := do
  if ← isNext (ts.map some) then emptyScalar else node

/-- A sequence with the items that are read next. -/
def sequence (anchor tag : Option String) (items : Reader (List NodeId)) : Reader NodeId :=
  addWith anchor (.sequence (Kind.ofCollection .sequence tag)) [] items

/-- A mapping with the entries that are read next. -/
def mapping (anchor tag : Option String) (entries : Reader (List (NodeId × NodeId))) :
    Reader NodeId :=
  addWith anchor (.mapping (Kind.ofCollection .mapping tag)) [] entries

/-- A scalar. -/
def scalar (anchor tag : Option String) (text : Text) (plain : Bool) : Reader NodeId :=
  add anchor (.scalar (Kind.ofScalar text plain tag) text)

mutual

/-- A node. Block collections are read only if `inBlock`, and a sequence that is not indented
further than its key only if `unindented`. -/
def node (inBlock unindented : Bool) : Nat → Reader NodeId
  | 0 => throw .malformed
  | steps + 1 => do
    match ← peek with
    | some (.reference name) =>
      skip
      reference name
    | _ =>
      let (name, tag) ← properties
      content inBlock unindented name tag steps

/-- What stands after the anchor and the tag of a node. -/
def content (inBlock unindented : Bool) (name tag : Option String) : Nat → Reader NodeId
  | 0 => throw .malformed
  | steps + 1 => do
    match ← peek with
    | some (.scalar text plain) =>
      skip
      scalar name tag text plain
    | some .flowSequence =>
      skip
      sequence name tag (flowItems true steps)
    | some .flowMapping =>
      skip
      mapping name tag (flowEntries true steps)
    | found =>
      if unindented && found == some .blockEntry then sequence name tag (openItems steps)
      else if inBlock && found == some .blockSequence then
        skip
        sequence name tag (blockItems steps)
      else if inBlock && found == some .blockMapping then
        skip
        mapping name tag (blockEntries steps)
      else if name.isSome || tag.isSome then scalar name tag [] true
      else throw .malformed

/-- The items of a block sequence up to its end. -/
def blockItems : Nat → Reader (List NodeId)
  | 0 => throw .malformed
  | steps + 1 => do
    if ← accept .blockEntry then
      let item ← nodeUnless [.blockEntry, .blockEnd] (node true false steps)
      return item :: (← blockItems steps)
    else
      expect .blockEnd
      return []

/-- The items of a sequence that is not indented further than its key. -/
def openItems : Nat → Reader (List NodeId)
  | 0 => throw .malformed
  | steps + 1 => do
    if ← accept .blockEntry then
      let item ← nodeUnless [.blockEntry, .key, .value, .blockEnd] (node true false steps)
      return item :: (← openItems steps)
    else return []

/-- The entries of a block mapping up to its end. -/
def blockEntries : Nat → Reader (List (NodeId × NodeId))
  | 0 => throw .malformed
  | steps + 1 => do
    if ← accept .key then
      let k ← nodeUnless [.key, .value, .blockEnd] (node true true steps)
      let v ←
        if ← accept .value then nodeUnless [.key, .value, .blockEnd] (node true true steps)
        else emptyScalar
      return (k, v) :: (← blockEntries steps)
    else
      expect .blockEnd
      return []

/-- The items of a flow sequence up to its end; `first` says that none has been read. -/
def flowItems (first : Bool) : Nat → Reader (List NodeId)
  | 0 => throw .malformed
  | steps + 1 => do
    if ← accept .flowSequenceEnd then return []
    if !first then expect .flowEntry
    if ← accept .key then
      let item ← mapping none none do
        let k ← nodeUnless [.value, .flowEntry, .flowSequenceEnd] (node false false steps)
        let v ←
          if ← accept .value then nodeUnless [.flowEntry, .flowSequenceEnd] (node false false steps)
          else emptyScalar
        return [(k, v)]
      return item :: (← flowItems false steps)
    else if ← accept .flowSequenceEnd then return []
    else
      let item ← node false false steps
      return item :: (← flowItems false steps)

/-- The entries of a flow mapping up to its end; `first` says that none has been read. -/
def flowEntries (first : Bool) : Nat → Reader (List (NodeId × NodeId))
  | 0 => throw .malformed
  | steps + 1 => do
    if ← accept .flowMappingEnd then return []
    if !first then expect .flowEntry
    if ← accept .key then
      let k ← nodeUnless [.value, .flowEntry, .flowMappingEnd] (node false false steps)
      let v ←
        if ← accept .value then nodeUnless [.flowEntry, .flowMappingEnd] (node false false steps)
        else emptyScalar
      return (k, v) :: (← flowEntries false steps)
    else if ← accept .flowMappingEnd then return []
    else
      let k ← node false false steps
      let v ← emptyScalar
      return (k, v) :: (← flowEntries false steps)

end

/-- The directives at the front. At most one may give a version, and at most one a meaning to each
handle. -/
def directives : Nat → (versioned : Bool) → (handles : List (String × String)) →
    Reader (List (String × String))
  | 0, _, _ => throw .malformed
  | steps + 1, versioned, handles => do
    match ← peek with
    | some (.version major) =>
      skip
      if versioned || major ≠ 1 then throw .malformed
      directives steps true handles
    | some (.tagHandle handle expansion) =>
      skip
      if (handles.lookup handle).isSome then throw .malformed
      directives steps versioned (handles ++ [(handle, expansion)])
    | some .directive =>
      skip
      directives steps versioned handles
    | _ => return handles

/-- Drops the lines that end a document. -/
def skipEnds : Nat → Reader Unit
  | 0 => return
  | steps + 1 => do
    if ← accept .documentEnd then skipEnds steps

end Reader

/-- The handles that every document knows. -/
def commonHandles : List (String × String) := [("!", "!"), ("!!", "tag:yaml.org,2002:")]

/-- The document that makes up a stream, of which there is at most one: what comes after it is read
up to where another one begins. -/
def document (steps : Nat) : Reader (Option NodeId) := do
  match ← Reader.peek with
  | none => return none
  | some t =>
    let marked := t matches .documentStart | .directive | .version _ | .tagHandle _ _
    if marked then
      let handles ← Reader.directives steps false []
      Reader.expect .documentStart
      modify fun s => { s with handles := handles ++ commonHandles }
    let root ←
      if marked && (← Reader.isNext [none, some .documentStart, some .documentEnd]) then
        Reader.emptyScalar
      else Reader.node true false steps
    Reader.skipEnds steps
    if (← Reader.peek).isSome then
      let _ ← Reader.directives steps false []
      throw .malformed
    return some root

/-- The nodes of a document; a text without anything has none. -/
def Graph.ofTokens? (tokens : Tokens) : Except Fault (Option Graph) := do
  let steps := 4 * (tokens.settled.length + 2)
  let (root, s) ← (document steps).run ⟨tokens, #[], [], commonHandles, 0⟩
  return root.map (⟨s.nodes, ·⟩)

end Yaml
end TestSelection
