/-
# The paths in a listing

A listing has the path of each file once, in the order of their characters. Different files of a
proper tree have different paths, since the names of a file can be read off its path
(`namesOf_joined`), so sorting the paths gives a strictly increasing list (`pairwise_lt_sorted`). It
depends on which paths they are and not on their order (`sorted_eq_sorted_iff`).
-/

import TestSelection.Listing.Walk
import TestSelection.Proofs.Tree.Proper

namespace TestSelection
namespace Listing

variable {entries : List (String × Node)} {names others : Place} {paths : List String}

/-! ### Names and paths -/

/-- Names without slashes stand between the slashes of the path that they make. -/
theorem splitOn_joined (hnames : ∀ name ∈ names, '/' ∉ name.toList) (hne : names ≠ []) :
    List.splitOn '/' (joined names).toList = names.map String.toList := by
  have hmap : ∀ part ∈ names.map String.toList, '/' ∉ part := by
    simpa using hnames
  rw [joined, String.toList_intercalate]
  exact List.splitOn_intercalate '/' hmap (by simpa using hne)

/-- Names without slashes can be read off the path that they make. -/
theorem joined_injOn (hnames : ∀ name ∈ names, '/' ∉ name.toList)
    (hothers : ∀ name ∈ others, '/' ∉ name.toList) (hne : names ≠ []) (hne' : others ≠ [])
    (h : joined names = joined others) : names = others := by
  have hmap : names.map String.toList = others.map String.toList := by
    rw [← splitOn_joined hnames hne, h, splitOn_joined hothers hne']
  exact (List.map_inj_right fun _ _ => String.toList_inj.1).1 hmap

/-- The path of names of which none is empty is not empty. -/
theorem joined_ne_empty (hne : names ≠ []) (h : "" ∉ names) : joined names ≠ "" := by
  obtain ⟨name, rest, rfl⟩ := List.exists_cons_of_ne_nil hne
  have hname : name ≠ "" := fun he => h (he ▸ List.mem_cons_self ..)
  intro he
  have hl := congrArg String.toList he
  rw [joined, String.toList_intercalate] at hl
  cases rest <;> simp_all [List.intercalate]

/-- The names on a path. -/
def namesOf (path : String) : Place := (path.toList.splitOn '/').map String.ofList

/-! ### Files below a directory -/

/-- A directory is no file, so there are names on the way to a file in it. -/
theorem ne_nil_of_mem_entryFiles (h : names ∈ Node.entryFiles entries) : names ≠ [] := by
  induction entries with
  | nil => cases h
  | cons entry rest ih =>
    obtain ⟨name, node⟩ := entry
    rcases List.mem_append.1 h with h | h
    · obtain ⟨inner, -, rfl⟩ := List.mem_map.1 h
      nofun
    · exact ih h

/-- A file below a directory has a name, and no name on the way to it holds a slash. -/
theorem ne_nil_and_no_slash_of_mem_files (h : (Node.dir entries).IsProper)
    (hn : names ∈ (Node.dir entries).files) : names ≠ [] ∧ ∀ name ∈ names, '/' ∉ name.toList := by
  obtain ⟨content, hi⟩ := (Node.mem_files_iff h).1 hn
  refine ⟨?_, fun name hm => (h.isFileName_of_item? hi name hm).no_slash⟩
  rintro rfl
  cases hi

/-- The names of a file can be read off its path. -/
theorem namesOf_joined (h : (Node.dir entries).IsProper) (hn : names ∈ (Node.dir entries).files) :
    namesOf (joined names) = names := by
  obtain ⟨hne, hslash⟩ := ne_nil_and_no_slash_of_mem_files h hn
  rw [namesOf, splitOn_joined hslash hne, List.map_map]
  simp [Function.comp_def]

/-- Different files below a directory have different paths. -/
theorem nodup_map_joined (h : (Node.dir entries).IsProper) :
    ((Node.dir entries).files.map joined).Nodup := by
  rw [List.Nodup, List.pairwise_map]
  refine (Node.nodup_files _ h).imp_of_mem fun {a b} ha hb hne he => hne ?_
  obtain ⟨hane, ha⟩ := ne_nil_and_no_slash_of_mem_files h ha
  obtain ⟨hbne, hb⟩ := ne_nil_and_no_slash_of_mem_files h hb
  exact joined_injOn ha hb hane hbne he

/-! ### Sorting -/

/-- Sorting changes the order only. -/
theorem sorted_perm (paths : List String) : (sorted paths).Perm paths := List.mergeSort_perm ..

/-- Sorting neither adds nor drops a path. -/
theorem mem_sorted {path : String} : path ∈ sorted paths ↔ path ∈ paths :=
  (sorted_perm paths).mem_iff

/-- The sorted paths are in order. -/
theorem pairwise_sorted (paths : List String) : (sorted paths).Pairwise (· ≤ ·) := by
  have htrans : ∀ a b c : String, decide (a ≤ b) = true → decide (b ≤ c) = true →
      decide (a ≤ c) = true := by
    intro a b c hab hbc
    rw [decide_eq_true_iff] at hab hbc ⊢
    exact String.le_trans hab hbc
  have htotal : ∀ a b : String, (decide (a ≤ b) || decide (b ≤ a)) = true := by
    intro a b
    simpa using String.le_total a b
  exact (List.pairwise_mergeSort htrans htotal paths).imp of_decide_eq_true

/-- Different paths are strictly increasing once they are sorted. -/
theorem pairwise_lt_sorted (h : paths.Nodup) : (sorted paths).Pairwise (· < ·) := by
  have hnodup : (sorted paths).Nodup := (sorted_perm paths).nodup_iff.2 h
  exact (pairwise_sorted paths).imp₂ (fun _ _ => Std.lt_of_le_of_ne) hnodup

/-- Two lists are the same when sorted if and only if each is an arrangement of the other. -/
theorem sorted_eq_sorted_iff {paths others : List String} :
    sorted paths = sorted others ↔ paths.Perm others := by
  constructor
  · intro h
    exact (sorted_perm paths).symm.trans (h ▸ sorted_perm others)
  · intro h
    have hp : (sorted paths).Perm (sorted others) :=
      (sorted_perm paths).trans (h.trans (sorted_perm others).symm)
    exact hp.eq_of_pairwise (fun a b _ _ hab hba => String.le_antisymm hab hba)
      (pairwise_sorted paths) (pairwise_sorted others)

/-- What is left of sorted paths is sorted. -/
theorem filter_sorted (p : String → Bool) :
    (sorted paths).filter p = sorted (paths.filter p) := by
  have hperm : ((sorted paths).filter p).Perm (sorted (paths.filter p)) :=
    ((sorted_perm paths).filter p).trans (sorted_perm _).symm
  exact hperm.eq_of_pairwise (fun _ _ _ _ => String.le_antisymm)
    ((pairwise_sorted paths).filter p) (pairwise_sorted _)

end Listing
end TestSelection
