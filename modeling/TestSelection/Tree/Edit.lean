/-
# Changing a tree

Making directories, writing and replacing files, making links and removing. Each gives the changed
tree or the fault that prevents the change. Making a directory with all those above it may do both:
the directories that it made before a fault stay (`makeDirectories`).

Only the system is at fault here. The interpreter goes up through the missing directories by calls
within calls (`makeAll`), and gives up where about a thousand of them are missing at once; this is
left out.
-/

import TestSelection.Tree.Resolve

namespace TestSelection
namespace Tree

/-- The tree with a node at a place. -/
def withNode (tree : Tree) (place : Place) (node : Node) : Tree :=
  { tree with top := node.put place tree.top }

/-- Adds a node at a path where nothing stands, not even a link. -/
def add (tree : Tree) (path : Path) (node : Node) : Except Fault Tree := do
  match ← tree.resolve false path with
  | (_, some _) => throw .exists
  | (place, none) => return tree.withNode place node

/-- Makes one directory. -/
def makeDirectory (tree : Tree) (path : Path) : Except Fault Tree := tree.add path (.dir [])

/-- Makes a link. Its target need not be there, but has to be a path. -/
def makeLink (tree : Tree) (path : Path) (target : String) : Except Fault Tree :=
  match textFault? target with
  | some fault => .error fault
  | none => if target.isEmpty then .error .missing else tree.add path (.link target)

/-- Makes a directory in a tree, unless it is there already. -/
def ensureDirectory (tree : Tree) (path : Path) : Tree × Option Fault :=
  match tree.makeDirectory path with
  | .ok made => (made, none)
  | .error fault => (tree, if tree.isDir path then none else some fault)

/-- Makes the directory that the names, given from the last on, lead to, and if need be those
above it. However many of them are missing, the stack is taken to be deep enough. -/
def makeAll (tree : Tree) (slashes : Nat) : List String → Tree × Option Fault
  | [] => (tree, none)
  | name :: above =>
    let path : Path := ⟨slashes, (name :: above).reverse⟩
    match tree.ensureDirectory path with
    | (tree, some .missing) =>
      match makeAll tree slashes above with
      | (tree, none) => tree.ensureDirectory path
      | failed => failed
    | done => done

/-- Makes a directory and those above it. -/
def makeDirectories (tree : Tree) (path : Path) : Tree × Option Fault :=
  makeAll tree path.slashes path.names.reverse

/-- Puts a file at a path, in place of what is no directory. A link at the end of the path is
followed if `last`, and else replaced. -/
def putFile (tree : Tree) (last : Bool) (path : Path) (content : ByteArray) :
    Except Fault Tree := do
  match ← tree.resolve last path with
  | (_, some (.dir _)) => throw .isDirectory
  | (place, _) => return tree.withNode place (.file content)

/-- Writes a file, through a link if one stands at its path. -/
def write (tree : Tree) (path : Path) (content : ByteArray) : Except Fault Tree :=
  tree.putFile true path content

/-- Puts a file at a path in the place of a file or a link. -/
def replace (tree : Tree) (path : Path) (content : ByteArray) : Except Fault Tree :=
  tree.putFile false path content

/-- Removes a file, a link, or a directory with all that is in it. -/
def remove (tree : Tree) (path : Path) : Except Fault Tree := do
  match ← tree.resolve false path with
  | (_, none) => throw .missing
  | (place, some _) => return { tree with top := tree.top.erase place }

end Tree
end TestSelection
