/-
# Making a plan again

A run reads its configuration, the plan variables and ignore files (`Run.Reads`), and lists the
other files. So in a tree with another file that it does not read, it asks for the same
(`Run.outlineFor_eq`) and finds the same rules (`Run.loader_eq`), and a walk lists the same apart
from this file (`Listing.walk_of_remade`). If what is asked for does not pick this file
(`Outline.Picks`), the same plan is made (`Run.planFor_of_remade`).
-/

import TestSelection.Proofs.Command.Planning
import TestSelection.Proofs.Config.FilesRead
import TestSelection.Proofs.Ignore.Usable
import TestSelection.Proofs.Listing.Relisting
import TestSelection.Proofs.Plan.Unpicked

namespace TestSelection

/-- An ignore file has the path of its directory with one more name. -/
theorem Listing.fits_fileName_iff {root : Path} {names : Place} :
    Listing.Fits root (names ++ [Ignore.fileName]) ↔
      Tree.textFault? ((root.below names).under Ignore.fileName).text = none := by
  rw [Ignore.under_fileName, Path.below_below]
  exact Iff.rfl

namespace Command

open TestSelection.Listing (Comes Fits deepestWalk opens)
open TestSelection.Tree (IsEntryName Remade SameFile)

variable {o : Options} {before after tree : Tree} {root : Path} {p r : Place} {plan : Plan}

namespace Run

/-- The paths of the files that a run reads, apart from what it lists. -/
inductive Reads (o : Options) (root : Path) : Path → Prop
  | config {s : String} (search : s ∈ Config.searchPaths) : Reads o root (root.under s)
  /-- The plan variables are read where no profile is asked for. -/
  | planVariables (blank : (Text.strip ((o.profile.map Text.ofString).getD [])).isEmpty = true) :
      Reads o root (root.under Config.variablesFile)
  | ignore (names : Place) (respected : o.respectIgnore = true) :
      Reads o root ((root.below names).under Ignore.fileName)

/-- What the profile of a run asks for, before any file is listed. -/
def outlineFor (o : Options) (tree : Tree) (root : Path) : Except RunError Outline := do
  let name ← (Config.profileName tree root (o.profile.map Text.ofString)
    (o.defaultProfile.map Text.ofString)).mapError .load
  let (_, config) ← (Config.loadBelow tree root).mapError .load
  (Outline.ofConfig config name).mapError ofOutline

/-- The plan of a run is filled from its listing. -/
theorem planFor_eq : planFor o tree root = (do
    let outline ← outlineFor o tree root
    let files ← listing o tree root
    (outline.fill files).mapError .pattern) := by
  rw [planFor, outlineFor]
  cases (Config.profileName tree root (o.profile.map Text.ofString)
    (o.defaultProfile.map Text.ofString)).mapError RunError.load with
  | error e => rfl
  | ok name =>
    cases (Config.loadBelow tree root).mapError RunError.load with
    | error e => rfl
    | ok loaded => exact mapError_build ..

/-- The files that are read for the configuration are under names. -/
theorem under_eq_below {s : String} (h : s ∈ Config.variablesFile :: Config.searchPaths) :
    root.under s = root.below (Path.ofText s).names ∧ (Path.ofText s).names ≠ [] ∧
      ∀ name ∈ (Path.ofText s).names, IsEntryName name := by
  have hall : ∀ s ∈ Config.variablesFile :: Config.searchPaths, (Path.ofText s).slashes = 0 ∧
      (Path.ofText s).names ≠ [] ∧ ∀ name ∈ (Path.ofText s).names, IsFileName name := by
    decide
  obtain ⟨hslashes, hne, hnames⟩ := hall s h
  exact ⟨Path.under_eq_below hslashes, hne, fun name hm => (hnames name hm).toIsEntryName⟩

/-- A plan is made below a directory that is there. -/
theorem exists_root_of_planFor (h : planFor o tree root = .ok plan) :
    ∃ r, tree.Leads true root r ∧ tree.item? r = some .directory := by
  rw [planFor_eq, Outcome.bind_eq_ok_iff] at h
  obtain ⟨outline, h, -⟩ := h
  rw [outlineFor, Outcome.bind_eq_ok_iff] at h
  obtain ⟨name, -, h⟩ := h
  obtain ⟨⟨path, config⟩, hload, -⟩ := Outcome.bind_eq_ok_iff.1 h
  -- The configuration is a file below the root, so the root is a directory.
  obtain ⟨s, hs, rfl, hfile⟩ := Config.exists_of_loadBelow (Outcome.mapError_eq_ok_iff.1 hload)
  obtain ⟨hbelow, hne, -⟩ := @under_eq_below root s (List.mem_cons_of_mem _ hs)
  obtain ⟨q, hq⟩ := Tree.exists_leads_of_isFile hfile
  rw [hbelow] at hq
  exact hq.exists_root hne

section Remade

variable (h : Remade p before after) (hroot : before.Leads true root r)
  (hdir : before.item? r = some .directory)
  (hunread : ∀ path, Reads o root path → ¬after.Leads true path p)
include h hroot hdir hunread

/-- **What is asked for** does not depend on a file that is not read. -/
theorem outlineFor_eq : outlineFor o after root = outlineFor o before root := by
  have hsame : ∀ s ∈ Config.variablesFile :: Config.searchPaths, Reads o root (root.under s) →
      SameFile before after (root.under s) := by
    intro s hs hreads
    obtain ⟨hbelow, -, hnames⟩ := @under_eq_below root s hs
    have hnot := hunread _ hreads
    rw [hbelow] at hnot ⊢
    exact h.sameFile hroot hdir hnames hnot
  have hconfig : Config.loadBelow after root = Config.loadBelow before root :=
    Config.loadBelow_eq fun s hs => hsame s (List.mem_cons_of_mem _ hs) (.config hs)
  have hname : Config.profileName after root (o.profile.map Text.ofString)
      (o.defaultProfile.map Text.ofString) = Config.profileName before root
        (o.profile.map Text.ofString) (o.defaultProfile.map Text.ofString) :=
    Config.profileName_eq fun hblank => hsame _ List.mem_cons_self (.planVariables hblank)
  rw [outlineFor, outlineFor, hconfig, hname]

/-- The rules that a walk finds do not depend on a file that is not read. -/
theorem loader_eq {names : Place} (hnames : ∀ name ∈ names, IsEntryName name) :
    Listing.loader after root o.respectIgnore names =
      Listing.loader before root o.respectIgnore names := by
  rw [Listing.loader, Listing.loader]
  split
  · next hrespect =>
    have hnot := hunread _ (.ignore names hrespect)
    have hsame : SameFile before after ((root.below names).under Ignore.fileName) := by
      rw [Ignore.under_fileName, Path.below_below] at hnot ⊢
      exact h.sameFile hroot hdir (Ignore.isEntryName_concat hnames) hnot
    exact Ignore.load_eq hsame
  · rfl

/-- **The same plan is made** again after the output file was written, if the next walk gets through
the directories that were made and the path of the file is none too long. -/
theorem planFor_of_remade (hwalk : o.lister = .walk)
    (hfile : ∀ names, p = r ++ names → Comes root names → Fits root names)
    (hnew : ∀ names rest, rest ≠ [] → p = r ++ names ++ rest → before.item? (r ++ names) = none →
      Comes root names → names.length ≤ deepestWalk ∧ (o.respectIgnore = true →
        opens root names = true → Fits root (names ++ [Ignore.fileName])))
    (hunpicked : ∀ outline names, outlineFor o before root = .ok outline → p = r ++ names →
      ¬outline.Picks (Listing.joined names))
    (hplan : planFor o before root = .ok plan) : planFor o after root = .ok plan := by
  rw [planFor_eq, Outcome.bind_eq_ok_iff] at hplan
  obtain ⟨outline, houtline, hplan⟩ := hplan
  obtain ⟨files, hfiles, hplan⟩ := Outcome.bind_eq_ok_iff.1 hplan
  have hlisting : ∀ tree, listing o tree root =
      (Listing.walk tree root o.respectIgnore).mapError .ignore := by
    intro tree
    rw [listing, hwalk]
  have hwalked : Listing.walk before root o.respectIgnore = .ok files := by
    rw [hlisting, Outcome.mapError_eq_ok_iff] at hfiles
    exact hfiles
  -- In a directory that was made there is no ignore file, so its rules can be read if there is room
  -- for asking.
  have hthrough : ∀ names rest, (∀ name ∈ names, IsEntryName name) → rest ≠ [] →
      p = r ++ names ++ rest → before.item? (r ++ names) = none → Comes root names →
        names.length ≤ deepestWalk ∧ (opens root names = true →
          ∃ own, Listing.loader before root o.respectIgnore names = .ok own) := by
    intro names rest hnames hne hp hnone hcomes
    obtain ⟨hshallow, hroom⟩ := hnew names rest hne hp hnone hcomes
    have hmissing : before.item? (r ++ (names ++ [Ignore.fileName])) = none := by
      have hnot : before.top.item? (r ++ names) ≠ some .directory := by
        rw [← Tree.item?, hnone]
        exact (Option.some_ne_none _).symm
      rw [← List.append_assoc]
      exact Node.item?_append_eq_none hnot (List.cons_ne_nil _ _)
    refine ⟨hshallow, fun hopen => ?_⟩
    rw [Listing.loader]
    split
    · next hrespect => exact ⟨none, Ignore.load_of_missing h.plain.linkless hroot hdir hnames
        (Listing.fits_fileName_iff.1 (hroom hrespect hopen)) hmissing⟩
    · exact ⟨none, rfl⟩
  obtain ⟨files', hwalked', hlt, hlt', hmem⟩ := Listing.walk_of_remade h hroot hdir
    (fun names hnames => loader_eq h hroot hdir hunread hnames) hfile hthrough hwalked
  -- The second listing has one path more at most, and nothing in the plan picks it.
  have hfill : outline.fill files' = outline.fill files :=
    Outline.fill_eq_of_unpicked hlt hlt' fun path hpicks => hmem path fun names hp hj =>
      hunpicked outline names houtline hp (hj ▸ hpicks)
  have hfiles' : listing o after root = .ok files' := by
    rw [hlisting, Outcome.mapError_eq_ok_iff]
    exact hwalked'
  rw [planFor_eq, outlineFor_eq h hroot hdir hunread, houtline, hfiles']
  show (outline.fill files').mapError _ = _
  rw [hfill]
  exact hplan

end Remade

end Run

end Command
end TestSelection
