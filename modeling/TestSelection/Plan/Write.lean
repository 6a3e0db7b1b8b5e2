/-
# Writing a plan

A plan is written to a file as a whole: either the file holds the plan afterwards, or it holds what
it held before. This takes these steps, and the first that fails is reported:

1. the path must have a name at its end;
2. missing directories on the way to the file are made, and stay even if a later step fails;
3. the plan must have a text;
4. the text is put beside the file, under the name of the file with some more characters
   (`Path.besides`), which may be too long;
5. this file takes the place of the other one. A link is replaced, not followed; a directory is left
   alone.
-/

import TestSelection.Plan.Basic
import TestSelection.Text.WordChar
import TestSelection.Tree.Edit

namespace TestSelection

/-- Why a plan is not written. -/
inductive WriteError where
  | file (f : Fault)
  | unwritable
  /-- The path has no name. -/
  | noName
  | isDirectory (path : Path)
  deriving DecidableEq

/-- Whether a message shows a path with the character in it as it is. -/
def Path.isPlainChar (c : Char) : Bool := Text.isWordChar c || "@%+=:,./~-".toList.contains c

/-- A path in a message: in quotes if one could take it for something else. -/
def Path.shown (p : Path) : String :=
  if p.text.toList.all Path.isPlainChar then p.text else Text.quoted p.text

/-- What prevents the file. -/
def WriteError.message : WriteError → String
  | .file f => f.message
  | .unwritable => "the plan has no JSON text"
  | .noName => "the path has no name"
  | .isDirectory path => "Destination is a directory: " ++ path.shown

/-- A path with more characters at the end of its last name, as the file has it that is written
first. What the last thirteen of them are does not matter. -/
def Path.besides (p : Path) : Path :=
  { p with names := p.names.dropLast ++ [p.names.getLastD "" ++ ".partial.0123456789abc"] }

/-- Writes a plan to a path. -/
def Plan.write (plan : Plan) (tree : Tree) (path : Path) : Tree × Except WriteError Unit :=
  if path.names.isEmpty then (tree, .error .noName)
  else
    match tree.makeDirectories path.parent with
    | (tree, some fault) => (tree, .error (.file fault))
    | (tree, none) =>
      match plan.json with
      | .error _ => (tree, .error .unwritable)
      | .ok text =>
        match tree.resolve false path.besides with
        | .error fault => (tree, .error (.file fault))
        | .ok _ =>
          if tree.isDir path then (tree, .error (.isDirectory path))
          else
            match tree.replace path text.toUTF8 with
            | .error fault => (tree, .error (.file fault))
            | .ok written => (written, .ok ())

end TestSelection
