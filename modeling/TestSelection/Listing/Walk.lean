/-
# Listing by a walk

A walk goes through a directory and, from there, through every directory in it, and takes the
visible files on its way. It does not enter hidden directories and links; only the directory that
it starts from may be given by a link.

Where ignore files are respected, what the ignore file of some directory on the way ignores is left
out too (`isIgnored`). An ignored directory is not entered, so the ignore files in it do not count.

The system limits how long a path is, and a walk meets this limit in two ways. It asks of every
visible entry that is no directory what it is, and fails if the path of the entry is too long
(`View.check`). A directory that cannot be opened because its path is too long is passed over, with
all that is in it (`opens`). Besides, a walk fails in a directory that is nested too deeply
(`deepestWalk`).
-/

import TestSelection.Ignore.File
import TestSelection.Listing.Visible

namespace TestSelection
namespace Listing

/-- The rules that hold in a directory, each with the directory that they are relative to. -/
abbrev Rules := List (Place × Ignore.Spec)

/-- Whether some rules ignore what the names lead to. -/
def isIgnored (rules : Rules) (names : Place) (directory : Bool) : Bool :=
  rules.any fun (base, spec) =>
    spec.ignores (joined (names.drop base.length) ++ if directory then "/" else "")

/-- The rules that the ignore file of a directory adds. -/
abbrev Loader := Place → Except Ignore.Fault (Option Ignore.Spec)

/-- What a walk finds out at the names below the directory that it starts from. -/
structure View where
  /-- Whether the directory there can be opened. -/
  opens : Place → Bool
  /-- What is wrong with the path of what is no directory. -/
  fault? : Place → Option Fault
  /-- The rules of the directory there. -/
  load : Loader

/-- Whether a node is a directory. -/
def isDirectory : Node → Bool
  | .dir _ => true
  | _ => false

/-- What is wrong with the path of an entry that a walk has to look at: a visible one that is no
directory. -/
def View.entryFault? (view : View) (names : Place) (entry : String × Node) : Option Fault :=
  if isHidden entry.1 || isDirectory entry.2 then none else view.fault? (names ++ [entry.1])

/-- Looks at the entries of a directory. -/
def View.check (view : View) (names : Place) (entries : List (String × Node)) :
    Except Ignore.Fault Unit :=
  match entries.findSome? (view.entryFault? names) with
  | some fault => .error (.file fault)
  | none => .ok ()

/-- How many directories a walk can go down. A walk goes down by calls within calls, until the
interpreter's stack ends; the number is measured in a run as a module, and a run as a script has
three more. (Later interpreters walk without such calls, and then nothing stands in the way.) What
is said of walks in general holds whatever the number is. -/
def deepestWalk : Nat := 991

mutual

/-- The files at and below a node that the names lead to. All entries of a directory are looked at
before a directory in it is entered. -/
def visit (view : View) (rules : Rules) (names : Place) :
    Node → Except Ignore.Fault (List Place)
  | .dir entries =>
    if deepestWalk < names.length then .error (.file .tooDeep)
    else if view.opens names then do
      let own ← view.load names
      view.check names entries
      visitEntries view (rules ++ own.toList.map (names, ·)) names entries
    else .ok []
  | .file _ => .ok [names]
  | .link _ => .ok []

/-- The files at and below the entries of a directory. -/
def visitEntries (view : View) (rules : Rules) (names : Place) :
    List (String × Node) → Except Ignore.Fault (List Place)
  | [] => .ok []
  | (name, node) :: rest => do
    let inner := names ++ [name]
    let found ←
      if isHidden name || isIgnored rules inner (isDirectory node) then .ok []
      else visit view rules inner node
    let others ← visitEntries view rules names rest
    return found ++ others

end

/-- Texts in the order of their characters. -/
def sorted (paths : List String) : List String := paths.mergeSort fun a b => decide (a ≤ b)

/-- The loader of a walk: nothing is ignored, or what the ignore files below a directory say. -/
def loader (tree : Tree) (root : Path) (respectIgnore : Bool) : Loader := fun names =>
  if respectIgnore then Ignore.load tree (root.below names) else .ok none

/-- The text by which a walk opens a directory. Below the current directory it keeps the dot at its
front. -/
def openedText (root : Path) (names : Place) : String :=
  if root.slashes = 0 ∧ root.names = [] ∧ names ≠ [] then "./" ++ joined names
  else (root.below names).text

/-- Whether the path of a directory is none too long to open it. -/
def opens (root : Path) (names : Place) : Bool := (Tree.textFault? (openedText root names)).isNone

/-- What a walk finds out below a directory. -/
def view (tree : Tree) (root : Path) (respectIgnore : Bool) : View where
  opens := opens root
  fault? names := Tree.textFault? (root.below names).text
  load := loader tree root respectIgnore

/-- The files below a directory, in the order of their paths; nothing where there is none. -/
def walk (tree : Tree) (root : Path) (respectIgnore : Bool) :
    Except Ignore.Fault (List String) :=
  match tree.resolve true root with
  | .ok (_, some (.dir entries)) => do
    let found ← visit (view tree root respectIgnore) [] [] (.dir entries)
    return sorted (found.map joined)
  | .error .nul => .error (.file .nul)
  | _ => .ok []

end Listing
end TestSelection
