/-
# A tree with another file

When a file is put somewhere and directories are made for it, the tree that is left has the files of
the tree before, this one file aside, and its directories, and all new directories are above the
file (`Tree.Remade`). Paths still lead where they led (`Remade.leads`), and where they do not lead
to the new file they are read as before (`Remade.sameFile`).
-/

import TestSelection.Proofs.Tree.Linkless

namespace TestSelection
namespace Tree

/-- A path is read alike in two trees: it leads to a file in both or in none of them, and if it does
the files hold the same. -/
structure SameFile (before after : Tree) (path : Path) : Prop where
  isFile_eq : after.isFile path = before.isFile path
  read_eq : before.isFile path = .ok true → after.read path = before.read path

/-- A tree without links after a file was put somewhere, and directories were made for it. -/
structure Remade (p : Place) (before after : Tree) : Prop where
  here_eq : after.here = before.here
  plain : before.IsPlain
  plain_after : after.IsPlain
  written : ∃ content, after.item? p = some (.file content)
  directory : ∀ q, before.item? q = some .directory → after.item? q = some .directory
  file_iff : ∀ q content, q ≠ p →
    (after.item? q = some (.file content) ↔ before.item? q = some (.file content))
  added : ∀ q, after.item? q = some .directory → before.item? q = some .directory ∨
    before.item? q = none ∧ ∃ rest, rest ≠ [] ∧ p = q ++ rest

namespace Remade

variable {before after : Tree} {p q r : Place} {last last' : Bool} {path root : Path}
  {ns : List String}

/-- Where a path led it leads. -/
theorem leads (h : Remade p before after) (hl : before.Leads last path q) :
    after.Leads last' path q := by
  refine ⟨hl.isText, ?_⟩
  rw [h.here_eq]
  exact hl.follows.of_directories h.plain.linkless h.plain_after.linkless h.directory

/-- **A path below a directory is read as before** unless it leads to the new file. -/
theorem sameFile (h : Remade p before after) (hroot : before.Leads true root r)
    (hdir : before.item? r = some .directory) (hns : ∀ name ∈ ns, IsEntryName name)
    (hnot : ¬after.Leads true (root.below ns) p) : SameFile before after (root.below ns) := by
  have hdir' := h.directory r hdir
  cases htext : textFault? (root.below ns).text with
  | some fault =>
    have hfault : ∀ tree : Tree, tree.resolve true (root.below ns) = .error fault := fun tree => by
      rw [resolve, htext]
    have hfile : ∀ tree : Tree, tree.isFile (root.below ns) =
        if fault.isAbsence then .ok false else .error fault := fun tree => by
      rw [isFile, hfault tree]
    refine ⟨(hfile after).trans (hfile before).symm, fun hb => ?_⟩
    rw [hfile before] at hb
    split at hb <;> cases hb
  | none =>
    have hne : r ++ ns ≠ p := by
      rintro rfl
      obtain hr | ⟨hnone, -⟩ :=
        resolve_below h.plain_after.linkless (h.leads hroot) hdir' hns htext
      · exact hnot (resolve_eq_ok_iff.1 hr).1
      · obtain ⟨content, hc⟩ := h.written
        cases hnone.symm.trans hc
    obtain ⟨b, hafter, hb⟩ := isFile_below h.plain_after.linkless (h.leads hroot) hdir' hns htext
    obtain ⟨b', hbefore, hb'⟩ := isFile_below h.plain.linkless hroot hdir hns htext
    have hiff := fun content => h.file_iff (r ++ ns) content hne
    constructor
    · have hsame : b = b' := Bool.eq_iff_iff.2 (hb.trans ((exists_congr hiff).trans hb'.symm))
      rw [hafter, hbefore, hsame]
    · intro hfile
      obtain ⟨content, hc⟩ := hb'.1 (Except.ok.inj (hbefore.symm.trans hfile))
      rw [read_below h.plain.linkless hroot hdir hns htext hc]
      exact read_below h.plain_after.linkless (h.leads hroot) hdir' hns htext ((hiff content).2 hc)

end Remade
end Tree
end TestSelection
