/-
# Walks that respect ignore files

A walk that respects ignore files lists the files that a plain walk lists and that are kept
(`walk_eq_filter_kept`). For that nothing may stop the plain walk, and the ignore files of the
directories that are entered have to be ones that can be used (`Walkable`).
-/

import TestSelection.Proofs.Ignore.Usable
import TestSelection.Proofs.Listing.Walked

namespace TestSelection
namespace Listing

/-- A walk that respects ignore files enters a directory: names that are visible and kept lead
there, through directories that can be opened, as it can itself. -/
structure Entered (tree : Tree) (root : Path) (names : Place) : Prop where
  directory : ∃ place, tree.Leads true root place ∧ tree.item? (place ++ names) = some .directory
  comes : Comes root names
  opened : opens root names = true
  kept : Kept (loader tree root true) true names

/-- A tree in which a walk from a directory can respect the ignore files. -/
structure Walkable (tree : Tree) (root : Path) : Prop where
  proper : tree.top.IsProper
  usable : ∀ names, Entered tree root names → Ignore.Usable tree (root.below names)

variable {tree : Tree} {root : Path} {path : String}

/-- What a plain walk lists shows that nothing stops it. -/
theorem Lists.unhindered (hproper : tree.top.IsProper) (h : Lists tree root false path) :
    Unhindered tree root := by
  obtain ⟨place, hl, -⟩ := h.exists_leads
  obtain ⟨listed, hw, -⟩ := h
  exact (exists_walk_iff hproper (Tree.textFault?_eq_none_iff.1 hl.isText).1).1 ⟨listed, hw⟩

/-- **What a walk that respects ignore files lists:** the files that a walk without them lists and
that are kept. -/
theorem walk_eq_filter_kept (h : Walkable tree root) (hfree : Unhindered tree root) :
    walk tree root true = (walk tree root false).map
      (List.filter fun path => Kept (loader tree root true) false (namesOf path)) := by
  cases hr : tree.resolve true root with
  | error fault => rw [walk, walk, hr]; cases fault <;> rfl
  | ok found =>
    obtain ⟨place, node⟩ := found
    rcases node with _ | content | target | entries
    · rw [walk, walk, hr]; rfl
    · rw [walk, walk, hr]; rfl
    · rw [walk, walk, hr]; rfl
    · obtain ⟨hleads, he⟩ := Tree.resolve_eq_ok_iff.1 hr
      have hbelow : (Node.dir entries).IsProper := h.proper.at_place he.symm
      have hdir : tree.item? place = some .directory :=
        Node.item?_eq_directory.2 ⟨entries, he.symm⟩
      obtain ⟨plain, hplain⟩ : ∃ plain, walk tree root false = .ok plain :=
        (walk_spec h.proper hleads hdir).1.2 fun names hd hcomes _ =>
          hfree.clear hleads hd hcomes fun _ => ⟨none, rfl⟩
      obtain ⟨listed, hlisted⟩ : ∃ listed, walk tree root true = .ok listed :=
        (walk_spec h.proper hleads hdir).1.2 fun names hd hcomes hk =>
          hfree.clear hleads hd hcomes fun hopen =>
            Ignore.exists_load_iff.2 (h.usable names ⟨⟨place, hleads, hd⟩, hcomes, hopen, hk⟩)
      have hfiles : ∀ names ∈ (Node.dir entries).files,
          spares (view tree root true) false (ownRules (loader tree root true) []) [] names =
            (decide (Kept (loader tree root true) false (namesOf (joined names))) &&
              spares (view tree root false) false (ownRules (loader tree root false) []) []
                names) := by
        intro names hn
        rw [namesOf_joined hbelow hn, Bool.eq_iff_iff, Bool.and_eq_true, spares_view_iff,
          spares_view_iff, decide_eq_true_iff, and_iff_left kept_plain, and_comm]
      rw [hplain, hlisted, ((walk_eq_ok_iff hbelow hr).1 hplain).2,
        ((walk_eq_ok_iff hbelow hr).1 hlisted).2, List.filter_congr hfiles]
      show Except.ok _ = Except.ok _
      rw [filter_sorted, List.filter_map, List.filter_filter]
      rfl

/-- A walk that respects ignore files lists what a plain walk lists and what is kept. -/
theorem Walkable.lists_iff (h : Walkable tree root) (hfree : Unhindered tree root) :
    Lists tree root true path ↔
      Lists tree root false path ∧ Kept (loader tree root true) false (namesOf path) := by
  have hw := walk_eq_filter_kept h hfree
  constructor
  · rintro ⟨listed, hlisted, hm⟩
    obtain ⟨plain, hplain, rfl⟩ := Outcome.map_eq_ok_iff.1 (hw.symm.trans hlisted)
    obtain ⟨hm, hk⟩ := List.mem_filter.1 hm
    exact ⟨⟨plain, hplain, hm⟩, of_decide_eq_true hk⟩
  · rintro ⟨⟨plain, hplain, hm⟩, hk⟩
    rw [hplain] at hw
    exact ⟨_, hw, List.mem_filter.2 ⟨hm, decide_eq_true hk⟩⟩

end Listing
end TestSelection
