/-
# The program

The only module that touches the world. It reads the directories that a run looks at into a tree
(`Disk.read`), lets `Command.run` work on the tree, and brings the disk to the tree that is left
(`Disk.save`).

The tree holds what is below the current directory and below the directory that is asked for. A link
is kept with the place that it leads to in the end; a file that lies elsewhere and is reached by a
link is read as well.
-/

import TestSelection.Command.Run

namespace TestSelection
namespace Disk

/-- The text of a place. -/
def text (place : Place) : String := Path.text ⟨1, place⟩

/-- The place that a path leads to, if anything is there. -/
def place? (path : String) : IO (Option Place) := do
  match ← (IO.FS.realPath path).toBaseIO with
  | .ok real => return some (Path.ofText real.toString).names
  | .error _ => return none

/-- A file, if it can be read. -/
def file? (place : Place) : IO (Option Node) := do
  match ← (IO.FS.readBinFile (text place)).toBaseIO with
  | .ok content => return some (.file content)
  | .error _ => return none

/-- What is at a place and below it. The places that links lead to are collected. -/
partial def read (place : Place) : StateT (List Place) IO (Option Node) := do
  let here ← IO.FS.realPath (text place)
  match ← here.readDir.toBaseIO with
  | .error _ => file? place
  | .ok found =>
    let entries ← found.toList.filterMapM fun entry => do
      let inner := place ++ [entry.fileName]
      match ← place? (text inner) with
      | none => return none
      | some target =>
        if target = inner then return (← read inner).map (entry.fileName, ·)
        else
          modify (target :: ·)
          return some (entry.fileName, .link (text target))
    return some (.dir (entries.mergeSort fun a b => decide (a.1 ≤ b.1)))

/-- A tree with a node at a place, and with directories above it. -/
def graft (tree : Tree) (place : Place) (node : Node) : Tree :=
  (tree.makeDirectories ⟨1, place.dropLast⟩).1.withNode place node

/-- The tree with what is below some places. -/
def readAll (here : Place) (places : List Place) : IO Tree := do
  let mut tree : Tree := ⟨.dir [], here⟩
  for place in places do
    let (found, targets) ← (read place).run []
    if let some node := found then tree := graft tree place node
    for target in targets do
      if !places.any (·.isPrefixOf target) then
        if let some node ← file? target then tree := graft tree target node
  return tree

/-- Brings what is at a place from one node to another. Files are replaced as a whole. -/
partial def save (place : Place) : Option Node → Node → IO Unit
  | _, .link _ => return
  | before, .file content => do
    if let some (.file old) := before then
      if old == content then return
    let path := text place
    IO.FS.writeBinFile (path ++ ".partial") content
    IO.FS.rename (path ++ ".partial") path
  | before, .dir entries => do
    let old := match before with
      | some (.dir old) => some old
      | _ => none
    if old.isNone then IO.FS.createDirAll (text place)
    for (name, node) in entries do
      save (place ++ [name]) (old.bind (Node.lookup name)) node

/-- The places that a run looks at: the current directory, and the directory that is asked for
unless it is below the current one. -/
def places (here : Place) (arguments : List String) : IO (List Place) := do
  match Command.Request.ofArguments arguments with
  | .ok (.run o) =>
    match ← place? (o.root.getD ".") with
    | some root => return if here.isPrefixOf root then [here] else [here, root]
    | none => return [here]
  | _ => return [here]

end Disk

/-- A text as it is printed: half of a surrogate pair, which is no character, by its number. -/
def Text.printed (t : Text) : String :=
  String.ofList (t.flatMap fun c => match c with
    | .char c => [c]
    | .half n => Text.numbered (Code.half n).number)

/-- The exit code of a way to end. -/
def Command.Ending.exitCode : Command.Ending → UInt32
  | .code n => n.toUInt32
  | .escaped _ => 1

end TestSelection

open TestSelection in
def main (arguments : List String) : IO UInt32 := do
  let here := (← Disk.place? ".").getD []
  let tree ← Disk.readAll here (← Disk.places here arguments)
  let outcome := Command.run true arguments tree
  IO.print outcome.output
  IO.eprint outcome.errors.printed
  Disk.save [] (some tree.top) outcome.tree.top
  return outcome.ending.exitCode
