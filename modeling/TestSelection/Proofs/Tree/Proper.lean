/-
# Trees as a system has them

In a proper tree the entries of a directory are in the order of their names, no two of them have the
same name, and these are names: neither `.` nor `..`, not too long, and without a slash
(`Node.IsProper`). In such a tree a name and its entry determine each other (`lookup_eq_some_iff`),
so the files of the tree, which are collected entry by entry, are the places where a file stands,
each of them once (`mem_files_iff`, `nodup_files`). A node that is put into a proper tree under
names leaves it proper (`IsProper.put`).
-/

import TestSelection.Listing.Visible
import TestSelection.Proofs.Tree.Follow

namespace TestSelection

/-- A name that an entry of a directory may have. -/
structure IsFileName (name : String) : Prop extends Tree.IsEntryName name where
  no_slash : '/' ∉ name.toList

instance : DecidablePred IsFileName := fun name =>
  decidable_of_iff
    ((name ≠ "." ∧ name ≠ ".." ∧ name.utf8ByteSize ≤ Tree.longestName) ∧ '/' ∉ name.toList)
    ⟨fun ⟨⟨h₁, h₂, h₃⟩, h₄⟩ => ⟨⟨h₁, h₂, h₃⟩, h₄⟩, fun ⟨⟨h₁, h₂, h₃⟩, h₄⟩ => ⟨⟨h₁, h₂, h₃⟩, h₄⟩⟩

namespace Node

/-- A tree whose directories have entries of different names, in their order. -/
def IsProper (top : Node) : Prop :=
  ∀ place entries, top.at? place = some (.dir entries) →
    (entries.map Prod.fst).Pairwise (· < ·) ∧ ∀ entry ∈ entries, IsFileName entry.1

variable {top node : Node} {entries : List (String × Node)} {name : String} {place : Place}
  {i : Item}

/-- Among entries of different names, looking a name up finds its entry. -/
theorem lookup_eq_some_iff (h : (entries.map Prod.fst).Nodup) :
    lookup name entries = some node ↔ (name, node) ∈ entries := by
  induction entries with
  | nil => exact ⟨nofun, nofun⟩
  | cons entry entries ih =>
    obtain ⟨n, old⟩ := entry
    rw [List.map_cons, List.nodup_cons] at h
    rw [lookup, List.mem_cons, Prod.mk.injEq]
    by_cases hn : n = name
    · have hnot : (name, node) ∉ entries := fun hm =>
        h.1 (hn ▸ List.mem_map.2 ⟨(name, node), hm, rfl⟩)
      rw [if_pos hn, Option.some.injEq]
      exact ⟨fun he => .inl ⟨hn.symm, he.symm⟩, fun he => he.elim (·.2.symm) (absurd · hnot)⟩
    · rw [if_neg hn, ih h.2]
      exact ⟨.inr, fun he => he.elim (fun he => absurd he.1.symm hn) id⟩

/-- What is found under a name is an entry. -/
theorem mem_of_lookup (h : lookup name entries = some node) : (name, node) ∈ entries := by
  induction entries with
  | nil => exact absurd h nofun
  | cons entry entries ih =>
    obtain ⟨n, old⟩ := entry
    rw [lookup] at h
    split at h
    · next hn =>
      obtain rfl := Option.some.inj h
      exact hn ▸ List.mem_cons_self ..
    · exact List.mem_cons_of_mem _ (ih h)

/-- What stands below a directory is the directory itself, or stands below one of its entries. -/
theorem item?_dir_cases {i : Item} (h : (dir entries).item? place = some i) :
    place = [] ∧ i = .directory ∨ ∃ name child rest,
      (name, child) ∈ entries ∧ place = name :: rest ∧ child.item? rest = some i := by
  cases place with
  | nil => exact .inl ⟨rfl, (Option.some.inj h).symm⟩
  | cons name rest =>
    rw [item?_dir_cons] at h
    obtain ⟨child, hl, hi⟩ := Option.bind_eq_some_iff.1 h
    exact .inr ⟨name, child, rest, mem_of_lookup hl, rfl, hi⟩

namespace IsProper

/-- What stands somewhere in a proper tree is a proper tree. -/
theorem at_place (h : top.IsProper) (hp : top.at? place = some node) : node.IsProper := by
  intro rest entries hr
  refine h (place ++ rest) entries ?_
  rw [at?_append, hp]
  exact hr

/-- The names of a directory are in order. -/
theorem sorted (h : (dir entries).IsProper) : (entries.map Prod.fst).Pairwise (· < ·) :=
  (h [] entries rfl).1

/-- No name of a directory stands twice. -/
theorem nodup (h : (dir entries).IsProper) : (entries.map Prod.fst).Nodup := by
  refine h.sorted.imp ?_
  rintro a _ hlt rfl
  exact String.lt_irrefl a hlt

/-- The names of a directory are ones that a file can have. -/
theorem isFileName (h : (dir entries).IsProper) (hm : (name, node) ∈ entries) : IsFileName name :=
  (h [] entries rfl).2 _ hm

/-- An entry is found under its name, since no other has it. -/
theorem at?_singleton (h : (dir entries).IsProper) (hm : (name, node) ∈ entries) :
    (dir entries).at? [name] = some node := by
  rw [at?, (lookup_eq_some_iff h.nodup).2 hm]
  cases node <;> rfl

/-- What is in a directory of a proper tree is proper. -/
theorem child (h : (dir entries).IsProper) (hm : (name, node) ∈ entries) : node.IsProper :=
  h.at_place (h.at?_singleton hm)

/-- The names that lead to something are names of entries. -/
theorem isFileName_of_item? (h : top.IsProper) (hi : top.item? place = some i) :
    ∀ name ∈ place, IsFileName name := by
  induction place generalizing top with
  | nil => nofun
  | cons name place ih =>
    obtain ⟨entries, child, rfl, hc, hi⟩ := exists_dir_of_item?_cons hi
    have hm := mem_of_lookup hc
    exact List.forall_mem_cons.2 ⟨h.isFileName hm, ih (h.child hm) hi⟩

end IsProper

/-- A file has no entries to check. -/
theorem isProper_file (content : ByteArray) : IsProper (.file content) := by
  intro place entries h
  cases place <;> cases h

/-- Nor has a link, wherever it leads. -/
theorem isProper_link (target : String) : IsProper (.link target) := by
  intro place entries h
  cases place <;> cases h

/-- A directory is a proper tree if its entries are. -/
theorem isProper_dir_iff : IsProper (.dir entries) ↔ (entries.map Prod.fst).Pairwise (· < ·) ∧
    ∀ entry ∈ entries, IsFileName entry.1 ∧ entry.2.IsProper := by
  constructor
  · exact fun h => ⟨h.sorted, fun _ hm => ⟨h.isFileName hm, h.child hm⟩⟩
  · rintro ⟨hn, h⟩ place below hp
    cases place with
    | nil =>
      obtain rfl := dir.inj (Option.some.inj hp)
      exact ⟨hn, fun entry hm => (h entry hm).1⟩
    | cons name rest =>
      rw [at?] at hp
      obtain ⟨node, hl, hp⟩ := Option.bind_eq_some_iff.1 hp
      exact (h _ (mem_of_lookup hl)).2 rest below hp

/-! ### Putting nodes into a tree -/

/-- What is put under a name is the only new entry. -/
theorem mem_of_mem_insert {entry : String × Node} (h : entry ∈ insert name node entries) :
    entry = (name, node) ∨ entry ∈ entries := by
  induction entries with
  | nil => exact .inl (List.mem_singleton.1 h)
  | cons first rest ih =>
    obtain ⟨n, old⟩ := first
    rw [insert] at h
    split at h
    · exact (List.mem_cons.1 h).imp_right (List.mem_cons_of_mem _)
    · split at h
      · exact List.mem_cons.1 h
      · rcases List.mem_cons.1 h with rfl | h
        · exact .inr List.mem_cons_self
        · exact (ih h).imp_right (List.mem_cons_of_mem _)

/-- An entry is inserted at its place in the order of names. -/
theorem pairwise_insert (h : (entries.map Prod.fst).Pairwise (· < ·)) :
    ((insert name node entries).map Prod.fst).Pairwise (· < ·) := by
  induction entries with
  | nil => exact List.pairwise_singleton _ _
  | cons first rest ih =>
    obtain ⟨n, old⟩ := first
    rw [List.map_cons, List.pairwise_cons] at h
    rw [insert]
    split
    · next hn =>
      rw [List.map_cons, List.pairwise_cons, ← hn]
      exact h
    · next hn =>
      split
      · next hlt =>
        rw [List.map_cons, List.pairwise_cons, List.map_cons, List.pairwise_cons]
        exact ⟨List.forall_mem_cons.2 ⟨hlt, fun m hm => String.lt_trans hlt (h.1 m hm)⟩, h⟩
      · next hge =>
        -- The first name stays in front of the new one, and of the others.
        have hlt : n < name := Std.lt_of_le_of_ne (String.not_lt.1 hge) hn
        rw [List.map_cons, List.pairwise_cons]
        refine ⟨fun m hm => ?_, ih h.2⟩
        obtain ⟨entry, he, rfl⟩ := List.mem_map.1 hm
        rcases mem_of_mem_insert he with rfl | he
        · exact hlt
        · exact h.1 _ (List.mem_map_of_mem he)

/-- **A proper tree stays one** when a proper node is put into it under names. -/
theorem IsProper.put {new : Node} (h : top.IsProper) (hnew : new.IsProper)
    (hnames : ∀ name ∈ place, IsFileName name) : (put new place top).IsProper := by
  have hinsert : ∀ {entries : List (String × Node)} {name : String} {child : Node},
      (Node.dir entries).IsProper → IsFileName name → child.IsProper →
        (Node.dir (insert name child entries)).IsProper := by
    intro entries name child he hname hchild
    refine isProper_dir_iff.2 ⟨pairwise_insert he.sorted, fun entry hm => ?_⟩
    rcases mem_of_mem_insert hm with rfl | hm
    · exact ⟨hname, hchild⟩
    · exact (isProper_dir_iff.1 he).2 entry hm
  -- Down the names: only at the last one is an entry inserted, and further up the changed entries
  -- are put back under their names.
  induction place generalizing top with
  | nil => exact hnew
  | cons name place ih =>
    rw [List.forall_mem_cons] at hnames
    cases top with
    | file | link => cases place <;> exact h
    | dir entries =>
      cases place with
      | nil => exact hinsert h hnames.1 hnew
      | cons next place =>
        cases hc : lookup name entries with
        | none =>
          rw [put_of_lookup_eq_none hc]
          exact h
        | some child =>
          rw [put_of_lookup hc]
          exact hinsert h hnames.1 (ih (h.child (mem_of_lookup hc)) hnames.2)

mutual

/-- Whether a tree is proper, found out entry by entry. -/
def checkProper : Node → Bool
  | .file _ => true
  | .link _ => true
  | .dir entries => decide ((entries.map Prod.fst).Pairwise (· < ·)) && checkEntries entries

/-- Whether some entries are proper ones. -/
def checkEntries : List (String × Node) → Bool
  | [] => true
  | (name, node) :: rest => decide (IsFileName name) && checkProper node && checkEntries rest

end

mutual

/-- The check of a tree, node by node, decides whether it is proper. -/
theorem checkProper_iff : ∀ {node : Node}, checkProper node = true ↔ node.IsProper
  | .file content => iff_of_true rfl (isProper_file content)
  | .link target => iff_of_true rfl (isProper_link target)
  | .dir entries => by
    rw [checkProper, Bool.and_eq_true, decide_eq_true_iff, checkEntries_iff, isProper_dir_iff]

/-- The same for the entries of a directory, whose order is checked apart. -/
theorem checkEntries_iff : ∀ {entries : List (String × Node)},
    checkEntries entries = true ↔ ∀ entry ∈ entries, IsFileName entry.1 ∧ entry.2.IsProper
  | [] => iff_of_true rfl nofun
  | (name, node) :: rest => by
    rw [checkEntries, Bool.and_eq_true, Bool.and_eq_true, decide_eq_true_iff, checkProper_iff,
      checkEntries_iff, List.forall_mem_cons]

end

instance : DecidablePred IsProper := fun _ => decidable_of_iff _ checkProper_iff

/-! ### Files -/

mutual

/-- **The files of a tree** are the places where a regular file stands. -/
theorem mem_files_iff : ∀ {node : Node} {names : Place}, node.IsProper →
    (names ∈ node.files ↔ ∃ content, node.item? names = some (.file content))
  | .file content, names, _ => by
    rw [files, List.mem_singleton]
    constructor
    · rintro rfl
      exact ⟨content, rfl⟩
    · rintro ⟨other, h⟩
      by_contra hne
      rw [isBare_file content names hne] at h
      cases h
  | .link target, names, _ => by
    constructor
    · exact nofun
    · rintro ⟨content, h⟩
      cases names <;> cases h
  | .dir entries, names, h => by
    rw [files, mem_entryFiles_iff fun entry hm => h.child hm]
    constructor
    · rintro ⟨name, node, rest, hm, rfl, content, hc⟩
      refine ⟨content, ?_⟩
      rw [item?_dir_cons, (lookup_eq_some_iff h.nodup).2 hm]
      exact hc
    · rintro ⟨content, hc⟩
      cases names with
      | nil => cases hc
      | cons name rest =>
        rw [item?_dir_cons] at hc
        obtain ⟨node, hl, hc⟩ := Option.bind_eq_some_iff.1 hc
        exact ⟨name, node, rest, mem_of_lookup hl, rfl, content, hc⟩

/-- The files below some entries are those of each entry, after its name. -/
theorem mem_entryFiles_iff : ∀ {entries : List (String × Node)} {names : Place},
    (∀ entry ∈ entries, entry.2.IsProper) →
    (names ∈ entryFiles entries ↔ ∃ name node rest, (name, node) ∈ entries ∧ names = name :: rest ∧
      ∃ content, node.item? rest = some (.file content))
  | [], _, _ => ⟨nofun, fun ⟨_, _, _, h, _⟩ => absurd h nofun⟩
  | (name, node) :: entries, names, h => by
    have hnode : node.IsProper := h _ (List.mem_cons_self ..)
    have hrest : ∀ entry ∈ entries, entry.2.IsProper := fun entry hm =>
      h entry (List.mem_cons_of_mem _ hm)
    rw [entryFiles, List.mem_append, List.mem_map, mem_entryFiles_iff hrest]
    constructor
    · rintro (⟨rest, hm, rfl⟩ | ⟨other, node', rest, hm, he⟩)
      · exact ⟨name, node, rest, List.mem_cons_self .., rfl, (mem_files_iff hnode).1 hm⟩
      · exact ⟨other, node', rest, List.mem_cons_of_mem _ hm, he⟩
    · rintro ⟨other, node', rest, hm, rfl, hc⟩
      rcases List.mem_cons.1 hm with he | hm
      · obtain ⟨rfl, rfl⟩ := Prod.mk.inj he
        exact .inl ⟨rest, (mem_files_iff hnode).2 hc, rfl⟩
      · exact .inr ⟨other, node', rest, hm, rfl, hc⟩

end

mutual

/-- Each file of a tree is collected once. -/
theorem nodup_files : ∀ (node : Node), node.IsProper → node.files.Nodup
  | .file _, _ => List.pairwise_singleton _ _
  | .link _, _ => List.nodup_nil
  | .dir entries, h => nodup_entryFiles entries h.nodup fun _ hm => h.child hm

/-- Below distinct names are distinct files, since a path begins with the name of its entry. -/
theorem nodup_entryFiles : ∀ (entries : List (String × Node)), (entries.map Prod.fst).Nodup →
    (∀ entry ∈ entries, entry.2.IsProper) → (entryFiles entries).Nodup
  | [], _, _ => List.nodup_nil
  | (name, node) :: entries, hn, h => by
    have hproper : ∀ entry ∈ entries, entry.2.IsProper := fun entry hm =>
      h entry (List.mem_cons_of_mem _ hm)
    rw [List.map_cons, List.nodup_cons] at hn
    rw [entryFiles, List.nodup_append]
    refine ⟨?_, nodup_entryFiles entries hn.2 hproper, ?_⟩
    · have hinj : ∀ a b : Place, a ≠ b → name :: a ≠ name :: b := fun _ _ hne he =>
        hne (List.cons.inj he).2
      exact List.Pairwise.map _ hinj (nodup_files node (h _ (List.mem_cons_self ..)))
    · -- the two parts differ in their first names
      rintro _ hm _ hm' rfl
      obtain ⟨rest, -, rfl⟩ := List.mem_map.1 hm
      obtain ⟨other, node', rest', he, hname, -⟩ := (mem_entryFiles_iff hproper).1 hm'
      exact hn.1 ((List.cons.inj hname).1 ▸ List.mem_map.2 ⟨(other, node'), he, rfl⟩)

end

end Node
end TestSelection
