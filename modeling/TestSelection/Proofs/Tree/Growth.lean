/-
# Making directories

Making a directory with those above it changes nothing that is there: every file, every link and
every directory stays, and what is new are directories, each at a place that the path or a path
above it leads to (`Tree.Grown`). This holds of the tree that is left whether or not all of them
could be made (`Tree.grown_makeDirectories`). Where the directory is there already, the tree stays
as it is (`Tree.makeDirectories_of_isDir`).
-/

import TestSelection.Proofs.Outcome
import TestSelection.Proofs.Tree.Follow

namespace TestSelection

/-- A path that another one begins with. -/
structure Path.IsAbove (q path : Path) : Prop where
  slashes_eq : q.slashes = path.slashes
  names_prefix : q.names <+: path.names

namespace Tree

variable {tree before mid after : Tree} {last : Bool} {path q : Path} {p : Place}
  {found : Option Node} {node : Node} {content : ByteArray}

/-! ### A node at the end of a path -/

/-- **A new node changes one place.**  A file, or a directory with nothing in it, at the place that
a path leads to in place of what is no directory: everywhere else stands what stood there. -/
theorem Leads.item?_withNode (h : tree.Leads last path p) (hnames : path.names ≠ [])
    (hold : tree.item? p ≠ some .directory) (hnew : node.IsBare) :
    (tree.withNode p node).item? = Function.update tree.item? p (some node.item) := by
  obtain ⟨hn, -⟩ | hd | hd := h.follows.directory
  · exact absurd hn hnames
  · exact absurd hd hold
  · exact Node.item?_put hd hold hnew

/-! ### Trees with more directories -/

/-- A tree has all that another one has, and directories besides, each where a path leads that the
given one begins with. -/
structure Grown (path : Path) (before after : Tree) : Prop where
  here_eq : after.here = before.here
  kept : ∀ p i, before.item? p = some i → after.item? p = some i
  added : ∀ p i, before.item? p = none → after.item? p = some i →
    i = .directory ∧ ∃ q : Path, q.IsAbove path ∧ after.Leads true q p

/-- What is found at the end of a path, and is no link, is found in a tree that has more. -/
theorem Leads.mono (h : before.Leads last q p) (hg : Grown path before after)
    (hlink : ∀ target, after.item? p ≠ some (.link target)) : after.Leads true q p := by
  refine ⟨h.isText, ?_⟩
  rw [hg.here_eq]
  exact h.follows.mono hg.kept (fun _ => rfl) fun _ => hlink

namespace Grown

/-- A tree that nothing was added to has grown by nothing. -/
theorem refl (path : Path) (tree : Tree) : Grown path tree tree :=
  ⟨rfl, fun _ _ h => h, fun _ _ h h' => absurd (h.symm.trans h') nofun⟩

/-- Growth goes on from growth: what was added first is kept, and the path above still leads to
it. -/
theorem trans (h : Grown path before mid) (h' : Grown path mid after) :
    Grown path before after := by
  refine ⟨h'.here_eq.trans h.here_eq, fun p i hi => h'.kept p i (h.kept p i hi),
    fun p i hn hi => ?_⟩
  -- What is new at the end was new before, or was added since.
  cases hm : mid.item? p with
  | none => exact h'.added p i hm hi
  | some j =>
    obtain ⟨rfl, q, hq, hl⟩ := h.added p j hn hm
    obtain rfl := Option.some.inj ((h'.kept p _ hm).symm.trans hi)
    refine ⟨rfl, q, hq, hl.mono h' fun target ht => ?_⟩
    exact absurd (ht.symm.trans hi) nofun

/-- Making one directory. -/
theorem withNode (h : tree.Leads false q p) (hnames : q.names ≠ []) (hq : q.IsAbove path)
    (hnone : tree.item? p = none) : Grown path tree (tree.withNode p (.dir [])) := by
  have hitem : (tree.withNode p (.dir [])).item? =
      Function.update tree.item? p (some Item.directory) :=
    h.item?_withNode hnames (hnone ▸ nofun) Node.isBare_dir_nil
  have hkept : ∀ r i, tree.item? r = some i → (tree.withNode p (.dir [])).item? r = some i := by
    intro r i hi
    have hne : r ≠ p := by
      rintro rfl
      exact absurd (hnone.symm.trans hi) nofun
    rw [hitem, Function.update_of_ne hne, hi]
  refine ⟨rfl, hkept, fun r i hn hi => ?_⟩
  -- The one new place is that of the directory, and the path to it is the one it was made by.
  by_cases hr : r = p
  · obtain rfl := hr
    rw [hitem, Function.update_self] at hi
    obtain rfl := Option.some.inj hi
    refine ⟨rfl, q, hq, h.isText, h.follows.mono hkept (fun _ => rfl) fun _ target ht => ?_⟩
    rw [← item?, hitem, Function.update_self] at ht
    exact absurd ht nofun
  · rw [hitem, Function.update_of_ne hr, hn] at hi
    exact absurd hi nofun

end Grown

/-! ### Directories on the way to a path -/

/-- A node is added where a path leads to a place without one. -/
theorem add_eq_ok_iff : tree.add path node = .ok after ↔
    ∃ p, tree.Leads false path p ∧ tree.item? p = none ∧ after = tree.withNode p node := by
  rw [add, Outcome.bind_eq_ok_iff]
  constructor
  · rintro ⟨⟨p, found⟩, hr, h⟩
    obtain ⟨hp, rfl⟩ := resolve_eq_ok_iff.1 hr
    cases hf : tree.top.at? p with
    | none =>
      rw [hf] at h
      exact ⟨p, hp, Node.item?_eq_none.2 hf, (Except.ok.inj h).symm⟩
    | some node =>
      rw [hf] at h
      exact absurd h nofun
  · rintro ⟨p, hp, hn, rfl⟩
    refine ⟨(p, none), ?_, rfl⟩
    rw [hp.resolve_eq, Node.item?_eq_none.1 hn]

section Preserved

variable {P : Tree → Prop}
  (hadd : ∀ {tree q p}, q.IsAbove path → q.names ≠ [] → tree.Leads false q p →
    tree.item? p = none → P tree → P (tree.withNode p (.dir [])))
include hadd

/-- What holds of a tree holds after a directory is made sure of, if adding an empty directory keeps
it. -/
theorem ensureDirectory_preserves {q : Path} (hq : q.IsAbove path) (hnames : q.names ≠ [])
    (h : P tree) : P (tree.ensureDirectory q).1 := by
  rw [ensureDirectory, makeDirectory]
  cases hm : tree.add q (.dir []) with
  | error fault => exact h
  | ok made =>
    obtain ⟨p, hp, hnone, rfl⟩ := add_eq_ok_iff.1 hm
    exact hadd hq hnames hp hnone h

/-- The same of all directories that are made above a path. The induction goes up the names, and
each directory is made sure of before and after those above it. -/
theorem makeAll_preserves (names : List String) (hstart : names.reverse <+: path.names)
    (h : P tree) : P (tree.makeAll path.slashes names).1 := by
  induction names generalizing tree with
  | nil => exact h
  | cons name above ih =>
    have hne : (name :: above).reverse ≠ [] := by simp
    have hq : Path.IsAbove ⟨path.slashes, (name :: above).reverse⟩ path := ⟨rfl, hstart⟩
    have habove : above.reverse <+: path.names := by
      rw [List.reverse_cons] at hstart
      exact (List.prefix_append _ _).trans hstart
    have hfirst := ensureDirectory_preserves hadd hq hne h
    rw [makeAll]
    split
    · next mid hm =>
      rw [hm] at hfirst
      have hnext := ih habove hfirst
      split
      · next made ha =>
        rw [ha] at hnext
        exact ensureDirectory_preserves hadd hq hne hnext
      · exact hnext
    · exact hfirst

/-- **What each new directory preserves** is preserved when directories are made, whether or not all
of them can be. -/
theorem makeDirectories_preserves (h : P tree) : P (tree.makeDirectories path).1 :=
  makeAll_preserves hadd _ (List.reverse_reverse _ ▸ List.prefix_refl _) h

end Preserved

/-- **Making directories.**  Whether or not all directories to a path could be made, the tree that
is left has what it had, and directories on the path besides. -/
theorem grown_makeDirectories : Grown path tree (tree.makeDirectories path).1 :=
  makeDirectories_preserves (fun hq hnames hp hnone h => h.trans (.withNode hp hnames hq hnone))
    (.refl path tree)

/-- What is there already is not made. -/
theorem makeDirectories_of_isDir (h : tree.isDir path = true) :
    tree.makeDirectories path = (tree, none) := by
  obtain ⟨p, hp, hd⟩ := isDir_iff.1 h
  obtain ⟨q, i, hq, hi⟩ := hp.follows.exists_item hd
  have hadd : tree.add path (.dir []) = .error .exists := by
    obtain ⟨node, hn, -⟩ := Node.item?_eq_some.1 hi
    rw [add, (Leads.mk hp.isText hq).resolve_eq, hn]
    rfl
  -- The first try finds the directory, so none above it is looked at.
  have hensure : tree.ensureDirectory path = (tree, none) := by
    rw [ensureDirectory, makeDirectory, hadd, h]
    rfl
  rw [makeDirectories]
  generalize hn : path.names.reverse = names
  cases names with
  | nil => rfl
  | cons name above =>
    have hpath : (⟨path.slashes, (name :: above).reverse⟩ : Path) = path := by
      rw [← hn, List.reverse_reverse]
    rw [makeAll, hpath, hensure]

/-! ### Files -/

/-- A file takes the place of what is no directory. -/
theorem replace_eq_ok_iff : tree.replace path content = .ok after ↔
    ∃ p, tree.Leads false path p ∧ tree.item? p ≠ some .directory ∧
      after = tree.withNode p (.file content) := by
  rw [replace, putFile, Outcome.bind_eq_ok_iff]
  constructor
  · rintro ⟨⟨p, found⟩, hr, h⟩
    obtain ⟨hp, rfl⟩ := resolve_eq_ok_iff.1 hr
    refine ⟨p, hp, fun hd => ?_, ?_⟩
    · obtain ⟨entries, he⟩ := Node.item?_eq_directory.1 hd
      rw [he] at h
      exact absurd h nofun
    · split at h
      · exact absurd h nofun
      · next he =>
        obtain ⟨rfl, -⟩ := Prod.mk.inj he
        exact (Except.ok.inj h).symm
  · rintro ⟨p, hp, hd, rfl⟩
    refine ⟨(p, tree.top.at? p), hp.resolve_eq, ?_⟩
    split
    · next entries he =>
      exact absurd (Node.item?_eq_directory.2 ⟨entries, (Prod.mk.inj he).2⟩) hd
    · next place found he =>
      obtain ⟨rfl, -⟩ := Prod.mk.inj he
      rfl

end Tree
end TestSelection
