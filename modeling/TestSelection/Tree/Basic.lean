/-
# Directory trees

A tree of regular files, symbolic links and directories. The entries of a directory are kept in
the order of their names, and a place in the tree is the list of names that leads to it from the
top, through directories only (`Node.at?`). Changing what stands at one place leaves every other
place as it is.
-/

namespace TestSelection

/-- A file, a link or a directory. -/
inductive Node where
  | file (content : ByteArray)
  | link (target : String)
  | dir (entries : List (String × Node))
  deriving Inhabited

/-- The names that lead to a node from the top. -/
abbrev Place := List String

namespace Node

/-- The entry of a name. -/
def lookup (name : String) : List (String × Node) → Option Node
  | [] => none
  | (n, node) :: rest => if n = name then some node else lookup name rest

/-- Puts a node under a name, in place of what stands there or else in the order of names. -/
def insert (name : String) (node : Node) : List (String × Node) → List (String × Node)
  | [] => [(name, node)]
  | (n, old) :: rest =>
    if n = name then (name, node) :: rest
    else if name < n then (name, node) :: (n, old) :: rest
    else (n, old) :: insert name node rest

/-- The node at a place. -/
def at? : Node → Place → Option Node
  | node, [] => some node
  | .dir entries, name :: rest => (lookup name entries).bind fun node => node.at? rest
  | _, _ :: _ => none

/-- The tree with a node at a place. The directory above the place must be there; without it
nothing changes. -/
def put (new : Node) : Place → Node → Node
  | [], _ => new
  | [name], .dir entries => .dir (insert name new entries)
  | name :: rest, .dir entries =>
    match lookup name entries with
    | some node => .dir (insert name (put new rest node) entries)
    | none => .dir entries
  | _ :: _, node => node

/-- The tree without the node at a place. -/
def erase : Place → Node → Node
  | [], node => node
  | [name], .dir entries => .dir (entries.filter (·.1 != name))
  | name :: rest, .dir entries =>
    match lookup name entries with
    | some node => .dir (insert name (erase rest node) entries)
    | none => .dir entries
  | _ :: _, node => node

/-- What was put under a name is found under it. -/
@[simp] theorem lookup_insert_self (name : String) (node : Node) (entries : List (String × Node)) :
    lookup name (insert name node entries) = some node := by
  induction entries with
  | nil => simp [insert, lookup]
  | cons entry rest ih =>
    obtain ⟨n, old⟩ := entry
    unfold insert
    split
    · simp [lookup]
    · split <;> simp_all [lookup]

/-- Putting something under one name leaves the other names alone. -/
theorem lookup_insert_of_ne {name other : String} (h : other ≠ name) (node : Node)
    (entries : List (String × Node)) :
    lookup other (insert name node entries) = lookup other entries := by
  induction entries with
  | nil => simp [insert, lookup, h.symm]
  | cons entry rest ih =>
    obtain ⟨n, old⟩ := entry
    unfold insert
    split
    · simp_all [lookup, h.symm]
    · split <;> simp_all [lookup, h.symm]

end Node

/-- A tree from its top, and the place of the current directory. -/
structure Tree where
  top : Node
  here : Place

end TestSelection
