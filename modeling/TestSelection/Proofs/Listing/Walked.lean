/-
# The files of a walk

A walk that ignores nothing lists the regular files below its directory, each by the names that lead
to it through directories, unless one of these names is hidden or one of the directories cannot be
opened (`mem_walk_iff`). Where the directory is missing, or is none, the list is empty.

The walk fails if the system or the interpreter stops it (`Unhindered`): in a directory that it
opens there is a file or a link, not a hidden one, with a path that is too long, or directories are
nested too deeply. A path with a NUL, which is no path, makes it fail at once (`walk_of_nul`).
-/

import TestSelection.Proofs.Listing.Limits
import TestSelection.Proofs.Tree.Detours

namespace TestSelection

/-! ### Paths that are none -/

namespace Tree

variable {top : Node} {last : Bool} {links : Nat} {place : Place} {names : List String}

/-- What is found on the way never makes a path none. -/
theorem follow_ne_nul : follow top last links place names ≠ .error .nul := by
  fun_induction follow top last links place names with
  | case1 | case4 | case5 | case6 | case7 | case8 | case11 => rintro ⟨⟩
  | case2 | case3 | case9 | case10 => assumption

/-- Only a path with a NUL is none. -/
theorem resolve_eq_nul_iff {tree : Tree} {path : Path} :
    tree.resolve last path = .error .nul ↔ '\x00' ∈ path.text.toList := by
  rw [resolve, textFault?]
  by_cases hnul : '\x00' ∈ path.text.toList
  · rw [if_pos (List.contains_iff_mem.2 hnul)]
    exact ⟨fun _ => hnul, fun _ => rfl⟩
  · rw [if_neg fun h => hnul (List.contains_iff_mem.1 h)]
    refine iff_of_false (fun h => ?_) hnul
    split at h
    · next fault hf =>
      split at hf
      · obtain rfl := Option.some.inj hf
        cases h
      · cases hf
    · exact follow_ne_nul h

end Tree

namespace Listing

variable {tree : Tree} {root : Path} {place names : Place} {path : String} {respectIgnore : Bool}

/-- A walk from what is no directory finds nothing. -/
theorem walk_of_not_isDir (respectIgnore : Bool) (hroot : '\x00' ∉ root.text.toList)
    (h : tree.isDir root = false) : walk tree root respectIgnore = .ok [] := by
  rw [walk]
  split
  · next place entries hr =>
    rw [Tree.isDir, Tree.node?, hr] at h
    cases h
  · next hr => exact absurd (Tree.resolve_eq_nul_iff.1 hr) hroot
  · rfl

/-- A path with a NUL is no directory to walk from. -/
theorem walk_of_nul (respectIgnore : Bool) (hroot : '\x00' ∈ root.text.toList) :
    walk tree root respectIgnore = .error (.file .nul) := by
  rw [walk, Tree.resolve_eq_nul_iff.2 hroot]

/-! ### Walks that ignore nothing -/

/-- Nothing stops a walk that ignores nothing. -/
structure Unhindered (tree : Tree) (root : Path) : Prop where
  /-- No file and no link that it comes to has a path that is too long. -/
  fits : ∀ place names i, tree.Leads true root place → Comes root names →
    tree.item? (place ++ names) = some i → i ≠ .directory → Fits root names
  /-- No directory that it comes to is nested too deeply. -/
  shallow : ∀ place names, tree.Leads true root place → Comes root names →
    tree.item? (place ++ names) = some .directory → names.length ≤ deepestWalk

/-- A walk that ignores nothing gets through a directory that it comes to if nothing stops it. -/
theorem Unhindered.clear (h : Unhindered tree root) (hroot : tree.Leads true root place)
    (hd : tree.item? (place ++ names) = some .directory) (hcomes : Comes root names)
    (hloads : opens root names = true → ∃ own, loader tree root respectIgnore names = .ok own) :
    Clear tree root respectIgnore place names where
  shallow := h.shallow place names hroot hcomes hd
  loads := hloads
  fits hopen name i hname hi hne :=
    h.fits place (names ++ [name]) i hroot (comes_concat_iff.2 ⟨hcomes, hopen, hname⟩)
      (by rwa [← List.append_assoc]) hne

/-- A walk that ignores nothing keeps everything. -/
theorem kept_plain {directory : Bool} : Kept (loader tree root false) directory names :=
  kept_of_noRules fun _ _ => rfl

/-- **When a walk succeeds.**  A walk that ignores nothing succeeds if nothing stops it. -/
theorem exists_walk_iff (hproper : tree.top.IsProper) (hroot : '\x00' ∉ root.text.toList) :
    (∃ listed, walk tree root false = .ok listed) ↔ Unhindered tree root := by
  by_cases hd : tree.isDir root = true
  · obtain ⟨place, hl, hp⟩ := Tree.isDir_iff.1 hd
    rw [(walk_spec hproper hl hp).1]
    refine ⟨fun hclear => ⟨?_, ?_⟩, fun h names hd hcomes _ => ?_⟩
    · intro other names i hother hcomes hi hne
      obtain rfl := hother.unique hl
      -- a file or a link is an entry of a directory that the walk gets through
      rcases names.eq_nil_or_concat with rfl | ⟨init, name, rfl⟩
      · rw [List.append_nil, hp] at hi
        exact absurd (Option.some.inj hi).symm hne
      · rw [List.concat_eq_append, comes_concat_iff] at hcomes
        rw [List.concat_eq_append, ← List.append_assoc] at hi
        rw [List.concat_eq_append]
        have hinit := Node.item?_eq_directory_of_append (List.cons_ne_nil name []) hi
        exact (hclear init hinit hcomes.1 kept_plain).fits hcomes.2.1 name i hcomes.2.2 hi hne
    · intro other names hother hcomes hd
      obtain rfl := hother.unique hl
      exact (hclear names hd hcomes kept_plain).shallow
    · exact h.clear hl hd hcomes fun _ => ⟨none, rfl⟩
  · -- below what is no directory there is nothing
    have hnil : ∀ {place names i}, tree.Leads true root place →
        tree.item? (place ++ names) = some i → names = [] ∧ i ≠ .directory := by
      intro place names i hl hi
      have hp : tree.item? place ≠ some .directory := fun hp =>
        hd (Tree.isDir_iff.2 ⟨place, hl, hp⟩)
      have hnames : names = [] := by
        by_contra hne
        exact hp (Node.item?_eq_directory_of_append hne hi)
      refine ⟨hnames, ?_⟩
      rintro rfl
      rw [hnames, List.append_nil] at hi
      exact hp hi
    refine iff_of_true ⟨[], walk_of_not_isDir false hroot (Bool.eq_false_iff.2 hd)⟩ ⟨?_, ?_⟩
    · intro place names i hl _ hi _
      rw [(hnil hl hi).1, Fits, Path.below_nil]
      exact hl.isText
    · intro place names hl _ hi
      exact absurd rfl (hnil hl hi).2

/-- What a walk from a directory lists: the visible files that it comes to, if nothing stops it. -/
theorem walk_plain_eq_ok_iff {entries : List (String × Node)} {listed : List String}
    (hproper : tree.top.IsProper) (h : tree.resolve true root = .ok (place, some (.dir entries))) :
    walk tree root false = .ok listed ↔ Unhindered tree root ∧
      listed = sorted (((visibleFiles (.dir entries)).filter fun names =>
        Comes root names).map joined) := by
  obtain ⟨hl, he⟩ := Tree.resolve_eq_ok_iff.1 h
  have hbelow : (Node.dir entries).IsProper := hproper.at_place he.symm
  have hnul := (Tree.textFault?_eq_none_iff.1 hl.isText).1
  have hfiles : ∀ names ∈ (Node.dir entries).files,
      spares (view tree root false) false (ownRules (loader tree root false) []) [] names =
        (decide (Comes root names) && isVisible names) := by
    intro names _
    have hvisible : Comes root names → isVisible names = true := fun hcomes => by
      simpa [isVisible] using hcomes.visible
    rw [Bool.eq_iff_iff, spares_view_iff, and_iff_left kept_plain, Bool.and_eq_true,
      decide_eq_true_iff]
    exact ⟨fun hcomes => ⟨hcomes, hvisible hcomes⟩, And.left⟩
  have hfilter : (Node.dir entries).files.filter
      (spares (view tree root false) false (ownRules (loader tree root false) []) []) =
        (visibleFiles (.dir entries)).filter fun names => Comes root names := by
    rw [visibleFiles, List.filter_filter, List.filter_congr hfiles]
  rw [← exists_walk_iff hproper hnul]
  simp only [walk_eq_ok_iff hbelow h, hfilter, exists_and_left, exists_eq, and_true]

/-- A walk lists a path. -/
def Lists (tree : Tree) (root : Path) (respectIgnore : Bool) (path : String) : Prop :=
  ∃ listed, walk tree root respectIgnore = .ok listed ∧ path ∈ listed

/-- What is listed is below a directory. -/
theorem Lists.exists_leads (h : Lists tree root respectIgnore path) :
    ∃ place, tree.Leads true root place ∧ tree.item? place = some .directory := by
  obtain ⟨listed, hw, hm⟩ := h
  by_cases hd : tree.isDir root = true
  · exact Tree.isDir_iff.1 hd
  · by_cases hnul : '\x00' ∈ root.text.toList
    · rw [walk_of_nul respectIgnore hnul] at hw
      cases hw
    · rw [walk_of_not_isDir respectIgnore hnul (Bool.eq_false_iff.2 hd)] at hw
      obtain rfl := Except.ok.inj hw
      cases hm

/-- A walk that nothing stops lists the files that it comes to. -/
theorem lists_iff_of_leads (hproper : tree.top.IsProper) (h : Unhindered tree root)
    (hl : tree.Leads true root place) (hp : tree.item? place = some .directory) :
    Lists tree root false path ↔ ∃ names content,
      tree.item? (place ++ names) = some (.file content) ∧ Comes root names ∧
        path = joined names := by
  obtain ⟨hsuccess, hlisted⟩ := @walk_spec tree root place false hproper hl hp
  obtain ⟨listed, hw⟩ := hsuccess.2 fun names hd hcomes _ =>
    h.clear hl hd hcomes fun _ => ⟨none, rfl⟩
  -- There is one list, so being listed is being in it.
  have hself : Lists tree root false path ↔ path ∈ listed := by
    constructor
    · rintro ⟨other, hother, hm⟩
      obtain rfl := Except.ok.inj (hother.symm.trans hw)
      exact hm
    · exact fun hm => ⟨listed, hw, hm⟩
  rw [hself, (hlisted listed hw).2]
  simp only [kept_plain, true_and]

/-- A name of 16 characters. -/
def wideName : String := "abcdefghijklmnop"

/-- A directory with a hidden one and with a node of this name. -/
def besideHidden (node : Node) : Tree := ⟨.dir [(".d", .dir []), (wideName, node)], []⟩

open TestSelection.Tree (longDirectory leads_longDirectory)

/-- The long way through the hidden directory and back leads to the directory it starts from. -/
theorem leads_besideHidden {node : Node} :
    (besideHidden node).Leads true (.ofText longDirectory) [] :=
  leads_longDirectory rfl rfl rfl

/-- Its path is just short enough to be opened. -/
theorem opens_longDirectory : opens (.ofText longDirectory) [] = true := by
  rw [opens_iff_fits Tree.names_longDirectory, Fits, Path.below_nil]
  exact (@leads_besideHidden (.dir [])).isText

/-- One more name of 16 characters makes it too long. -/
theorem not_fits_wideName : ¬Fits (.ofText longDirectory) [wideName] := by
  rw [Fits, Tree.textFault?_longDirectory (List.cons_ne_nil _ _) (by decide)]
  decide

/-- **A path may be too long for a walk.**  A file in the directory that it starts from makes it
fail, whether or not it respects ignore files. -/
theorem walk_of_longFile (respectIgnore : Bool) : ∀ listed,
    walk (besideHidden (.file .empty)) (.ofText longDirectory) respectIgnore ≠ .ok listed := by
  intro listed hw
  have hkept : Kept (loader (besideHidden (.file .empty)) (.ofText longDirectory) respectIgnore)
      true [] :=
    kept_of_noRules fun base hb => absurd (List.prefix_nil.1 hb.1) hb.2
  have hclear :=
    (walk_spec (by decide) leads_besideHidden rfl).1.1 ⟨listed, hw⟩ [] rfl comes_nil hkept
  exact not_fits_wideName (hclear.fits opens_longDirectory wideName _ (by decide) rfl nofun)

end Listing
end TestSelection
