/-
# Following paths

A path is followed name by name, from the top or from the current directory. A link on the way is
replaced by its target, read from the directory that holds the link, and at most forty links are
followed. `..` goes to the directory above the one that was reached, which need not be the one
before it in the path.

The last name of a path may be missing (`Tree.resolve` then gives its place and no node), which is
how new files get their place. Everything else that does not lead on is a `Fault`; so are names and
paths that are too long, though a name only where it is looked for, and a path with a NUL in it.
-/

import TestSelection.Tree.Basic
import TestSelection.Tree.Path

namespace TestSelection

/-- Why a path cannot be used. -/
inductive Fault where
  | missing
  | exists
  | notDirectory
  | isDirectory
  | tooManyLinks
  | nameTooLong
  /-- The path holds a NUL, so it is no path. -/
  | nul
  /-- The path leads through more directories than can be gone down into. -/
  | tooDeep
  deriving DecidableEq

namespace Fault

/-- The number of a fault in the tables of the operating system; what is no path never gets
there, and neither does what is too deep. -/
def number? : Fault → Option Nat
  | .missing => some 2
  | .exists => some 17
  | .notDirectory => some 20
  | .isDirectory => some 21
  | .nameTooLong => some 36
  | .tooManyLinks => some 40
  | .nul => none
  | .tooDeep => none

/-- A fault in words: its number, if it has one. -/
def message (f : Fault) : String :=
  match f.number? with
  | some n => "[Errno " ++ toString n ++ "]"
  | none => if f = .tooDeep then "maximum recursion depth exceeded" else "embedded null byte"

/-- Whether a fault says that nothing is there, or nothing that can be reached. -/
def isAbsence : Fault → Bool
  | .missing => true
  | .notDirectory => true
  | .tooManyLinks => true
  | .nul => true
  | _ => false

end Fault

namespace Tree

/-- How many links may be followed for one path. -/
def mostLinks : Nat := 40

/-- How many bytes a name may have. -/
def longestName : Nat := 255

/-- How many bytes a path may have. -/
def longestPath : Nat := 4095

/-- What is wrong with the text of a path. -/
def textFault? (text : String) : Option Fault :=
  if text.toList.contains '\x00' then some .nul
  else if longestPath < text.utf8ByteSize then some .nameTooLong
  else none

/-- The names of a link's target. A slash at its end asks for a directory, as `.` does. -/
def targetNames (target : String) : List String :=
  let parts := (Path.split target.toList).map String.ofList
  parts.dropLast.filter (· ≠ "") ++ [if parts.getLast? = some "" then "." else parts.getLastD "."]

/-- Follows names from a place, with a number of links that may still be followed. `last` says
whether a link under the last name is followed too. -/
def follow (top : Node) (last : Bool) (links : Nat) (place : Place) (names : List String) :
    Except Fault (Place × Option Node) :=
  match names with
  | [] => .ok (place, top.at? place)
  | name :: rest =>
    match top.at? place with
    | some (.dir entries) =>
      if name = "." then follow top last links place rest
      else if name = ".." then follow top last links place.dropLast rest
      else if longestName < name.utf8ByteSize then .error .nameTooLong
      else
        match Node.lookup name entries with
        | none => if rest.isEmpty then .ok (place ++ [name], none) else .error .missing
        | some (.link target) =>
          if rest.isEmpty && !last then .ok (place ++ [name], some (.link target))
          else
            match links with
            | 0 => .error .tooManyLinks
            | fewer + 1 =>
              let base := if target.startsWith "/" then [] else place
              follow top last fewer base (targetNames target ++ rest)
        | some _ => follow top last links (place ++ [name]) rest
    | _ => .error .notDirectory
termination_by (links, names.length)

/-- The place and the node that a path leads to; a link at its end is followed if `last`. -/
def resolve (tree : Tree) (last : Bool) (path : Path) : Except Fault (Place × Option Node) :=
  match textFault? path.text with
  | some fault => .error fault
  | none => follow tree.top last mostLinks (if path.slashes = 0 then tree.here else []) path.names

/-- The node that a path leads to. -/
def node? (tree : Tree) (path : Path) : Option Node :=
  match tree.resolve true path with
  | .ok (_, found) => found
  | .error _ => none

/-- Whether a path leads to a regular file. It is a fault if that cannot be told. -/
def isFile (tree : Tree) (path : Path) : Except Fault Bool :=
  match tree.resolve true path with
  | .ok (_, found) => .ok (found matches some (.file _))
  | .error fault => if fault.isAbsence then .ok false else .error fault

/-- Whether a path leads to a directory. -/
def isDir (tree : Tree) (path : Path) : Bool := tree.node? path matches some (.dir _)

/-- The content of the file that a path leads to. -/
def read (tree : Tree) (path : Path) : Except Fault ByteArray := do
  match ← tree.resolve true path with
  | (_, some (.file content)) => return content
  | (_, some (.dir _)) => throw .isDirectory
  | (_, some (.link _)) => throw .tooManyLinks
  | (_, none) => throw .missing

end Tree
end TestSelection
