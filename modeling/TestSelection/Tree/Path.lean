/-
# Paths

A path is a list of names, from the top or from the current directory. Its text has one `/`
between names; writing it drops doubled and trailing slashes and every `.`, and keeps every `..`,
since the directory above a linked one is not the one that the text suggests. The path without
names is written `.`.
-/

import TestSelection.Text.Split

namespace TestSelection

/-- A path. -/
structure Path where
  /-- The slashes at its front: none, one or two. -/
  slashes : Nat
  names : List String
  deriving DecidableEq

namespace Path

/-- The parts of a text between its slashes. -/
def split (cs : List Char) : List (List Char) := Text.split '/' cs

/-- How many slashes at its front a path keeps: more than two count as one. -/
def leading : List Char → Nat
  | '/' :: '/' :: '/' :: _ => 1
  | '/' :: '/' :: _ => 2
  | '/' :: _ => 1
  | _ => 0

/-- The path that a text writes. -/
def ofText (s : String) : Path :=
  ⟨leading s.toList,
    ((split s.toList).map String.ofList).filter fun name => name ≠ "" ∧ name ≠ "."⟩

/-- The text of a path. -/
def text (p : Path) : String :=
  let names := "/".intercalate p.names
  match p.slashes with
  | 0 => if p.names.isEmpty then "." else names
  | n => String.ofList (List.replicate n '/') ++ names

/-- A path below another one; a path from the top stands for itself. -/
def join (p q : Path) : Path := if q.slashes = 0 then ⟨p.slashes, p.names ++ q.names⟩ else q

/-- The path that a text writes below another path. -/
def under (p : Path) (s : String) : Path := p.join (ofText s)

/-- Names below a path. -/
def below (root : Path) (names : List String) : Path := ⟨root.slashes, root.names ++ names⟩

/-- The path without its last name. -/
def parent (p : Path) : Path := ⟨p.slashes, p.names.dropLast⟩

end Path
end TestSelection
