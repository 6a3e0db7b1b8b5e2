/-
# Listing a tree again

After a file was put into a tree, and directories were made for it, a walk lists what it listed
before, except perhaps the path of this file (`walk_of_remade`): the same rules hold on the way to
every other file, and there are none in the new directories. Only the new paths have to be ones that
a walk gets through.
-/

import TestSelection.Proofs.Listing.Limits
import TestSelection.Proofs.Tree.Remade

namespace TestSelection
namespace Listing

open TestSelection.Tree (IsEntryName Remade)

variable {before after : Tree} {root : Path} {p r : Place} {respectIgnore : Bool}
  {listed : List String}

/-- What was kept is kept, and nothing else, if the rules are the same. -/
theorem kept_iff_of_loader_eq {directory : Bool} {names : Place}
    (hload : ∀ names, (∀ name ∈ names, IsEntryName name) →
      loader after root respectIgnore names = loader before root respectIgnore names)
    (hnames : ∀ name ∈ names, IsEntryName name) :
    Kept (loader after root respectIgnore) directory names ↔
      Kept (loader before root respectIgnore) directory names :=
  kept_congr fun _ hbase => hload _ fun name hm => hnames name (hbase.1.subset hm)

/-- What is new and no directory is the new file. -/
theorem fits_of_remade {names : Place} {name : String} {i : Item} (h : Remade p before after)
    (hfile : ∀ names, p = r ++ names → Comes root names → Fits root names)
    (hold : ∀ content, before.item? (r ++ names ++ [name]) = some (.file content) →
      Fits root (names ++ [name]))
    (hcomes : Comes root (names ++ [name])) (hi : after.item? (r ++ names ++ [name]) = some i)
    (hne : i ≠ .directory) : Fits root (names ++ [name]) := by
  cases i with
  | directory => exact absurd rfl hne
  | link target => exact absurd hi (h.plain_after.linkless _ target)
  | file content =>
    by_cases hp : r ++ names ++ [name] = p
    · exact hfile _ (by rw [← hp, List.append_assoc]) hcomes
    · exact hold content ((h.file_iff _ content hp).1 hi)

/-- **A walk after a file was put into the tree.**  If the rules in all directories are those that
were there, the path of the new file is none too long, and a walk gets through the new directories,
it lists the same files, this one aside. -/
theorem walk_of_remade (h : Remade p before after) (hroot : before.Leads true root r)
    (hdir : before.item? r = some .directory)
    (hload : ∀ names, (∀ name ∈ names, IsEntryName name) →
      loader after root respectIgnore names = loader before root respectIgnore names)
    (hfile : ∀ names, p = r ++ names → Comes root names → Fits root names)
    (hnew : ∀ names rest, (∀ name ∈ names, IsEntryName name) → rest ≠ [] →
      p = r ++ names ++ rest → before.item? (r ++ names) = none → Comes root names →
        names.length ≤ deepestWalk ∧
          (opens root names = true → ∃ own, loader before root respectIgnore names = .ok own))
    (hw : walk before root respectIgnore = .ok listed) :
    ∃ listed', walk after root respectIgnore = .ok listed' ∧ listed.Pairwise (· < ·) ∧
      listed'.Pairwise (· < ·) ∧
      ∀ path, (∀ names, p = r ++ names → path ≠ joined names) →
        (path ∈ listed' ↔ path ∈ listed) := by
  have hnames : ∀ {tree : Tree} {rest i}, tree.IsPlain → tree.item? (r ++ rest) = some i →
      ∀ name ∈ rest, IsEntryName name := fun hplain hi name hm =>
    (hplain.proper.isFileName_of_item? hi name (List.mem_append_right _ hm)).toIsEntryName
  obtain ⟨hsuccess, hlisted⟩ := @walk_spec before root r respectIgnore h.plain.proper hroot hdir
  obtain ⟨hsuccess', hlisted'⟩ := @walk_spec after root r respectIgnore h.plain_after.proper
    (h.leads hroot) (h.directory r hdir)
  obtain ⟨listed', hw'⟩ := hsuccess'.2 fun names hd hcomes hkept => by
    have hentries := hnames h.plain_after hd
    rw [kept_iff_of_loader_eq hload hentries] at hkept
    obtain hd | ⟨hnone, rest, hne, hp⟩ := h.added _ hd
    · have hclear := hsuccess.1 ⟨listed, hw⟩ names hd hcomes hkept
      refine ⟨hclear.shallow, fun hopen => ?_, fun hopen name i hname hi hne => ?_⟩
      · rw [hload names hentries]
        exact hclear.loads hopen
      · exact fits_of_remade h hfile (fun _ hold => hclear.fits hopen name _ hname hold nofun)
          (comes_concat_iff.2 ⟨hcomes, hopen, hname⟩) hi hne
    · obtain ⟨hshallow, hloads⟩ := hnew names rest hentries hne hp hnone hcomes
      refine ⟨hshallow, fun hopen => ?_, fun hopen name i hname hi hne => ?_⟩
      · rw [hload names hentries]
        exact hloads hopen
      · -- nothing was below what was not there
        have habove : ∀ content, before.item? (r ++ names ++ [name]) ≠ some (.file content) :=
          fun content hold => absurd
            (hnone.symm.trans (Node.item?_eq_directory_of_append (List.cons_ne_nil _ _) hold)) nofun
        exact fits_of_remade h hfile (fun content hold => absurd hold (habove content))
          (comes_concat_iff.2 ⟨hcomes, hopen, hname⟩) hi hne
  obtain ⟨hlt, hmem⟩ := hlisted listed hw
  obtain ⟨hlt', hmem'⟩ := hlisted' listed' hw'
  refine ⟨listed', hw', hlt, hlt', fun path hpath => ?_⟩
  rw [hmem', hmem]
  have hne : ∀ {names}, path = joined names → r ++ names ≠ p := fun hj hp => hpath _ hp.symm hj
  constructor
  · rintro ⟨names, content, hi, hcomes, hkept, hj⟩
    rw [kept_iff_of_loader_eq hload (hnames h.plain_after hi)] at hkept
    exact ⟨names, content, (h.file_iff _ content (hne hj)).1 hi, hcomes, hkept, hj⟩
  · rintro ⟨names, content, hi, hcomes, hkept, hj⟩
    rw [← kept_iff_of_loader_eq hload (hnames h.plain hi)] at hkept
    exact ⟨names, content, (h.file_iff _ content (hne hj)).2 hi, hcomes, hkept, hj⟩

end Listing
end TestSelection
