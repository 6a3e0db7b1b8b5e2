/-
# What stands in a tree

A tree seen as a function from its places to what stands there: a file with its content, a link
with its target, or a directory, or nothing (`Node.item?`). What a directory holds is said by the
places below it, so putting a file or an empty directory into one changes this function at a single
place (`Node.item?_put`), and two trees with the same function hold the same.
-/

import Mathlib.Logic.Function.Basic
import TestSelection.Tree.Edit

namespace TestSelection

/-- What stands at a place, without what is below it. -/
inductive Item where
  | file (content : ByteArray)
  | link (target : String)
  | directory

namespace Node

/-- A node without what is below it. -/
def item : Node → Item
  | .file content => .file content
  | .link target => .link target
  | .dir _ => .directory

/-- What stands at a place of a tree. -/
def item? (node : Node) (place : Place) : Option Item := (node.at? place).map item

variable {node new top : Node} {place rest : Place} {name : String} {i : Item}

/-- A directory, told by its item. -/
theorem item_eq_directory : node.item = .directory ↔ ∃ entries, node = .dir entries := by
  cases node <;> simp [item]

/-- A link, told by its item. -/
theorem item_eq_link {target : String} : node.item = .link target ↔ node = .link target := by
  cases node <;> simp [item]

/-- At no names stands the node itself. -/
@[simp] theorem item?_nil : node.item? [] = some node.item := by
  cases node <;> rfl

/-- Below a directory the first name leads to an entry, and the others on from there. -/
theorem item?_dir_cons (entries : List (String × Node)) :
    (Node.dir entries).item? (name :: rest) = (lookup name entries).bind (·.item? rest) := by
  cases h : lookup name entries <;> simp [item?, at?, h]

/-- Only a directory has something below it. -/
theorem exists_dir_of_item?_cons (h : node.item? (name :: rest) = some i) :
    ∃ entries child, node = .dir entries ∧ lookup name entries = some child ∧
      child.item? rest = some i := by
  cases node with
  | file | link => exact absurd h nofun
  | dir entries =>
    rw [item?_dir_cons] at h
    obtain ⟨child, hc, hi⟩ := Option.bind_eq_some_iff.1 h
    exact ⟨entries, child, rfl, hc, hi⟩

/-- Names one after another lead on from each other. -/
theorem at?_append : top.at? (place ++ rest) = (top.at? place).bind (·.at? rest) := by
  induction place generalizing top with
  | nil => cases top <;> rfl
  | cons name place ih =>
    cases top with
    | file | link => rfl
    | dir entries =>
      rw [List.cons_append, at?, at?]
      cases lookup name entries with
      | none => rfl
      | some child => exact ih

/-- The entry of a name is what stands at the name below the directory. -/
theorem at?_concat {entries : List (String × Node)} (h : top.at? place = some (.dir entries)) :
    top.at? (place ++ [name]) = lookup name entries := by
  rw [at?_append, h, Option.bind_some, at?]
  cases lookup name entries with
  | none => rfl
  | some child => cases child <;> rfl

/-- The item at a place is that of the node there. -/
theorem item?_eq_some :
    top.item? place = some i ↔ ∃ node, top.at? place = some node ∧ node.item = i :=
  Option.map_eq_some_iff

/-- There is no item where there is no node. -/
theorem item?_eq_none : top.item? place = none ↔ top.at? place = none :=
  Option.map_eq_none_iff

/-- A directory at a place, with its entries. -/
theorem item?_eq_directory :
    top.item? place = some .directory ↔ ∃ entries, top.at? place = some (.dir entries) := by
  rw [item?_eq_some]
  constructor
  · rintro ⟨node, h, hi⟩
    obtain ⟨entries, rfl⟩ := item_eq_directory.1 hi
    exact ⟨entries, h⟩
  · rintro ⟨entries, h⟩
    exact ⟨_, h, rfl⟩

/-- Above what stands somewhere are directories. -/
theorem item?_eq_directory_of_append (hrest : rest ≠ []) (h : top.item? (place ++ rest) = some i) :
    top.item? place = some .directory := by
  induction place generalizing top with
  | nil =>
    obtain ⟨name, below, rfl⟩ := List.exists_cons_of_ne_nil hrest
    obtain ⟨entries, child, rfl, -⟩ := exists_dir_of_item?_cons h
    rfl
  | cons name place ih =>
    obtain ⟨entries, child, rfl, hc, hi⟩ := exists_dir_of_item?_cons h
    rw [item?_dir_cons, hc]
    exact ih hi

/-- Below what is no directory there is nothing. -/
theorem item?_append_eq_none (h : top.item? place ≠ some .directory) (hrest : rest ≠ []) :
    top.item? (place ++ rest) = none :=
  Option.eq_none_iff_forall_ne_some.2 fun _ hi => h (item?_eq_directory_of_append hrest hi)

/-- The place above a directory is one. -/
theorem item?_dropLast (h : top.item? place = some .directory) :
    top.item? place.dropLast = some .directory := by
  by_cases hp : place = []
  · rw [hp] at h ⊢
    exact h
  · rw [← List.dropLast_concat_getLast hp] at h
    exact item?_eq_directory_of_append (List.cons_ne_nil _ _) h

/-- A node with nothing below it. -/
def IsBare (node : Node) : Prop := ∀ rest, rest ≠ [] → node.item? rest = none

/-- A file has no entries that could be in the way. -/
theorem isBare_file (content : ByteArray) : IsBare (.file content) := by
  intro rest hrest
  obtain ⟨name, rest, rfl⟩ := List.exists_cons_of_ne_nil hrest
  rfl

/-- Nor has an empty directory. -/
theorem isBare_dir_nil : IsBare (.dir []) := by
  intro rest hrest
  obtain ⟨name, rest, rfl⟩ := List.exists_cons_of_ne_nil hrest
  rfl

/-- Changing what a name stands for, at one place below it, changes the directory there. -/
theorem item?_dir_insert {entries : List (String × Node)} {child : Node}
    (h : ∀ rest, child.item? rest =
      if rest = place then some i else (Node.dir entries).item? (name :: rest)) :
    (Node.dir (insert name child entries)).item? =
      Function.update (Node.dir entries).item? (name :: place) (some i) := by
  funext q
  cases q with
  | nil =>
    have hne : [] ≠ name :: place := nofun
    rw [Function.update_of_ne hne, item?_nil, item?_nil]
    rfl
  | cons other rest =>
    by_cases hname : other = name
    · rw [hname, item?_dir_cons, lookup_insert_self, Option.bind_some, h, Function.update_apply]
      simp only [List.cons.injEq, true_and]
    · have hne : other :: rest ≠ name :: place := fun he => hname (List.cons.inj he).1
      rw [item?_dir_cons, lookup_insert_of_ne hname, Function.update_of_ne hne, item?_dir_cons]

/-- Putting a node further down changes the entry on the way. -/
theorem put_of_lookup {entries : List (String × Node)} {name next : String} {child : Node}
    (h : lookup name entries = some child) : put new (name :: next :: place) (.dir entries) =
      .dir (insert name (put new (next :: place) child) entries) := by
  rw [put, h]
  exact List.cons_ne_nil _ _

/-- Without an entry on the way nothing changes. -/
theorem put_of_lookup_eq_none {entries : List (String × Node)} {name next : String}
    (h : lookup name entries = none) :
    put new (name :: next :: place) (.dir entries) = .dir entries := by
  rw [put, h]
  exact List.cons_ne_nil _ _

/-- **Putting changes one place.**  A node with nothing below it, put into a directory in place of
what is no directory, is found where it was put; everywhere else stands what stood there. -/
theorem item?_put (habove : top.item? place.dropLast = some .directory)
    (hold : top.item? place ≠ some .directory) (hnew : new.IsBare) :
    (put new place top).item? = Function.update top.item? place (some new.item) := by
  induction place generalizing top with
  | nil => exact absurd habove hold
  | cons name place ih =>
    cases place with
    | nil =>
      obtain ⟨entries, rfl⟩ := item_eq_directory.1 (Option.some.inj (item?_nil ▸ habove))
      refine item?_dir_insert fun rest => ?_
      by_cases hrest : rest = []
      · rw [if_pos hrest, hrest, item?_nil]
      · rw [if_neg hrest, hnew rest hrest]
        exact (item?_append_eq_none hold hrest).symm
    -- Further up, the entry on the way is replaced by one that has changed at one place below it.
    | cons next place =>
      rw [List.dropLast_cons_cons] at habove
      obtain ⟨entries, child, rfl, hc, hi⟩ := exists_dir_of_item?_cons habove
      have hbelow : ∀ rest, (Node.dir entries).item? (name :: rest) = child.item? rest := by
        intro rest
        rw [item?_dir_cons, hc]
        rfl
      rw [put_of_lookup hc]
      refine item?_dir_insert fun rest => ?_
      rw [ih hi (hbelow _ ▸ hold), Function.update_apply, hbelow]

end Node

namespace Tree

/-- What stands at a place of a tree. -/
def item? (tree : Tree) (place : Place) : Option Item := tree.top.item? place

end Tree
end TestSelection
