/-
# What a walk lists, and what stops it

A walk below a directory comes to names if none of them is hidden and every directory on the way can
be opened (`Comes`). It gets through a directory if this is not nested too deeply, its rules can be
read and the paths of its visible entries are not too long; a directory that cannot be opened is
passed over (`Clear`). If a walk gets through every directory that it comes to and that no rule
ignores, it lists the files that it comes to and that no rule ignores; otherwise it fails
(`walk_spec`).

All of this is said of the tree and of the path that the walk starts from, and no longer of the
steps of a walk.
-/

import TestSelection.Proofs.Listing.Kept
import TestSelection.Proofs.Tree.Linkless

namespace TestSelection
namespace Listing

/-- The path of names below a directory is none too long for the system. -/
def Fits (root : Path) (names : Place) : Prop := Tree.textFault? (root.below names).text = none

/-- A walk comes to names: none of them is hidden, and every directory on the way can be opened. -/
structure Comes (root : Path) (names : Place) : Prop where
  visible : ∀ name ∈ names, isHidden name = false
  opened : ∀ base, OnWay names base → opens root base = true

/-- A walk gets through a directory. -/
structure Clear (tree : Tree) (root : Path) (respectIgnore : Bool) (place names : Place) :
    Prop where
  shallow : names.length ≤ deepestWalk
  loads : opens root names = true → ∃ own, loader tree root respectIgnore names = .ok own
  fits : opens root names = true → ∀ name i, isHidden name = false →
    tree.item? (place ++ names ++ [name]) = some i → i ≠ .directory → Fits root (names ++ [name])

variable {tree : Tree} {root : Path} {place names base : Place} {name : String}
  {respectIgnore directory : Bool} {entries : List (String × Node)} {listed : List String}

/-! ### Ways and paths -/

/-- On the way to an entry are its directory and what is on the way to that. -/
theorem onWay_concat_iff : OnWay (names ++ [name]) base ↔ base = names ∨ OnWay names base := by
  constructor
  · rintro ⟨hstart, hne⟩
    rcases List.prefix_concat_iff.1 hstart with he | hstart
    · exact absurd he hne
    · exact or_iff_not_imp_left.2 fun hother => ⟨hstart, hother⟩
  · have hlonger : names ≠ names ++ [name] := fun he => by
      have hlength := congrArg List.length he
      simp at hlength
    rintro (rfl | ⟨hstart, hne⟩)
    · exact ⟨List.prefix_append .., hlonger⟩
    · refine ⟨hstart.trans (List.prefix_append ..), ?_⟩
      rintro rfl
      have hlength := hstart.length_le
      rw [List.length_append, List.length_singleton] at hlength
      omega

/-- A walk comes to an entry if it comes to its directory and opens it, unless the entry is
hidden. -/
theorem comes_concat_iff : Comes root (names ++ [name]) ↔
    Comes root names ∧ opens root names = true ∧ isHidden name = false := by
  constructor
  · rintro ⟨hvisible, hopened⟩
    rw [List.forall_mem_append, List.forall_mem_singleton] at hvisible
    exact ⟨⟨hvisible.1, fun base hb => hopened base (onWay_concat_iff.2 (.inr hb))⟩,
      hopened names (onWay_concat_iff.2 (.inl rfl)), hvisible.2⟩
  · rintro ⟨⟨hvisible, hopened⟩, hopen, hname⟩
    refine ⟨?_, fun base hb => ?_⟩
    · rw [List.forall_mem_append, List.forall_mem_singleton]
      exact ⟨hvisible, hname⟩
    · rcases onWay_concat_iff.1 hb with rfl | hb
      · exact hopen
      · exact hopened base hb

/-- A walk comes to the directory that it starts from. -/
theorem comes_nil : Comes root [] :=
  ⟨nofun, fun _ ⟨hstart, hne⟩ => absurd (List.prefix_nil.1 hstart) hne⟩

/-- Whether a walk comes to names is found out from the directories on the way. -/
theorem comes_iff_inits : Comes root names ↔ (∀ name ∈ names, isHidden name = false) ∧
    ∀ base ∈ names.inits, base ≠ names → opens root base = true := by
  constructor
  · exact fun h => ⟨h.visible, fun base hb hne => h.opened base ⟨(List.mem_inits ..).1 hb, hne⟩⟩
  · exact fun h => ⟨h.1, fun base hb => h.2 base ((List.mem_inits ..).2 hb.1) hb.2⟩

instance : Decidable (Comes root names) := decidable_of_iff' _ comes_iff_inits

instance : Decidable (Fits root names) := inferInstanceAs (Decidable (_ = _))

/-- A directory is opened by its path, unless it is below the current one. -/
theorem opens_iff_fits (h : root.names ≠ []) : opens root names = true ↔ Fits root names := by
  have htext : openedText root names = (root.below names).text := if_neg fun he => h he.2.1
  rw [opens, htext, Option.isNone_iff_eq_none]
  rfl

/-- Whether a directory can be opened does not depend on ignore files. -/
theorem view_opens : (view tree root respectIgnore).opens = opens root := rfl

/-- What a walk comes to, without looking at its steps. -/
theorem spares_view_iff : spares (view tree root respectIgnore) directory
    (ownRules (loader tree root respectIgnore) []) [] names = true ↔
      Comes root names ∧ Kept (loader tree root respectIgnore) directory names := by
  refine spares_iff_kept.trans ?_
  rw [← and_assoc]
  exact and_congr_left fun _ => ⟨fun h => ⟨h.1, h.2⟩, fun h => ⟨h.visible, h.opened⟩⟩

/-- A walk passes a directory if it gets through what stands there. -/
theorem passable_iff_clear (hproper : (Node.dir entries).IsProper)
    (h : tree.top.at? (place ++ names) = some (.dir entries)) :
    Passable (view tree root respectIgnore) names entries ↔
      Clear tree root respectIgnore place names := by
  -- What stands under a name of the directory is the item of an entry.
  have hentry : ∀ {name i}, tree.item? (place ++ names ++ [name]) = some i ↔
      ∃ node, (name, node) ∈ entries ∧ node.item = i := by
    intro name i
    rw [Tree.item?, Node.item?, Node.at?_append, h]
    show (Node.dir entries).item? [name] = some i ↔ _
    rw [Node.item?_dir_cons]
    simp only [Node.item?_nil, Option.bind_eq_some_iff, Node.lookup_eq_some_iff hproper.nodup,
      Option.some.injEq]
  have hkind : ∀ node, isDirectory node = false ↔ node.item ≠ .directory := by
    intro node
    cases node <;> simp [isDirectory, Node.item]
  constructor
  · rintro ⟨hshallow, hloads, hfits⟩
    refine ⟨hshallow, hloads, fun hopen name i hname hi hne => ?_⟩
    obtain ⟨node, hm, rfl⟩ := hentry.1 hi
    exact hfits hopen (name, node) hm hname ((hkind node).2 hne)
  · rintro ⟨hshallow, hloads, hfits⟩
    refine ⟨hshallow, hloads, fun hopen entry hm hname hd => ?_⟩
    exact hfits hopen entry.1 _ hname (hentry.2 ⟨entry.2, hm, rfl⟩) ((hkind entry.2).1 hd)

/-- **What a walk lists, and when it fails.**  Below a directory it lists the paths of the files
that it comes to and that are kept, in a strictly increasing list, if it gets through all
directories that it comes to and that are kept. Otherwise it fails. -/
theorem walk_spec (hproper : tree.top.IsProper) (hroot : tree.Leads true root place)
    (hdir : tree.item? place = some .directory) :
    ((∃ listed, walk tree root respectIgnore = .ok listed) ↔
      ∀ names, tree.item? (place ++ names) = some .directory → Comes root names →
        Kept (loader tree root respectIgnore) true names →
          Clear tree root respectIgnore place names) ∧
    ∀ listed, walk tree root respectIgnore = .ok listed → listed.Pairwise (· < ·) ∧
      ∀ path, path ∈ listed ↔ ∃ names content,
        tree.item? (place ++ names) = some (.file content) ∧ Comes root names ∧
          Kept (loader tree root respectIgnore) false names ∧ path = joined names := by
  obtain ⟨entries, he⟩ := Node.item?_eq_directory.1 hdir
  have hbelow : (Node.dir entries).IsProper := hproper.at_place he
  have hresolve : tree.resolve true root = .ok (place, some (.dir entries)) :=
    Tree.resolve_eq_ok_iff.2 ⟨hroot, he.symm⟩
  -- What is said of the tree below the place is said of the directory that stands there.
  have hat : ∀ names, tree.top.at? (place ++ names) = (Node.dir entries).at? names := by
    intro names
    rw [Node.at?_append, he]
    rfl
  have hitem : ∀ names, tree.item? (place ++ names) = (Node.dir entries).item? names := by
    intro names
    rw [Tree.item?, Node.item?, hat]
    rfl
  constructor
  · simp only [walk_eq_ok_iff hbelow hresolve, exists_and_left, exists_eq, and_true]
    constructor
    · intro hpasses names hd hcomes hkept
      obtain ⟨inside, hi⟩ := Node.item?_eq_directory.1 hd
      exact (passable_iff_clear (hproper.at_place hi) hi).1 <|
        hpasses names inside ((hat names).symm.trans hi) (spares_view_iff.2 ⟨hcomes, hkept⟩)
    · intro hclear names inside hi hs
      obtain ⟨hcomes, hkept⟩ := spares_view_iff.1 hs
      have hi : tree.top.at? (place ++ names) = some (.dir inside) := (hat names).trans hi
      exact (passable_iff_clear (hproper.at_place hi) hi).2 <|
        hclear names (Node.item?_eq_directory.2 ⟨inside, hi⟩) hcomes hkept
  · intro listed hw
    obtain ⟨-, rfl⟩ := (walk_eq_ok_iff hbelow hresolve).1 hw
    refine ⟨pairwise_lt_sorted ((nodup_map_joined hbelow).sublist (List.filter_sublist.map joined)),
      fun path => ?_⟩
    rw [mem_sorted, List.mem_map]
    simp only [List.mem_filter, Node.mem_files_iff hbelow, hitem, spares_view_iff]
    constructor
    · rintro ⟨names, ⟨⟨content, hi⟩, hcomes, hkept⟩, rfl⟩
      exact ⟨names, content, hi, hcomes, hkept, rfl⟩
    · rintro ⟨names, content, hi, hcomes, hkept, rfl⟩
      exact ⟨names, ⟨⟨content, hi⟩, hcomes, hkept⟩, rfl⟩

/-- A walk that finds files lists their paths. -/
theorem walk_of_visit {found : List Place}
    (h : tree.resolve true root = .ok (place, some (.dir entries)))
    (hvisit : visit (view tree root respectIgnore) [] [] (.dir entries) = .ok found) :
    walk tree root respectIgnore = .ok (sorted (found.map joined)) := by
  rw [walk, h]
  dsimp only
  rw [hvisit]
  rfl

end Listing
end TestSelection
