/-
# What a walk comes to

A walk hands the rules of the directories on its way down and prunes what they ignore. What it comes
to can be said of each file or directory alone (`spares_iff_kept`): the directories on the way can
be opened (`OnWay`), no name is hidden, and for every directory on the way the ignore file there
ignores neither the file nor a directory between the two (`Kept`).
-/

import TestSelection.Proofs.Listing.Spared
import Mathlib.Data.List.Infix
import Mathlib.Tactic.Tauto

namespace TestSelection
namespace Listing

/-- No ignore file on the way to a file or a directory ignores it, or a directory that it is in. The
file in the directory `base` is asked for the path from there; that of a directory has a slash at
its end. -/
def Kept (load : Loader) (directory : Bool) (names : Place) : Prop :=
  ∀ base inner rest, names = base ++ inner ++ rest → inner ≠ [] → ∀ spec,
    load base = .ok (some spec) →
      spec.ignores (joined inner ++ if directory || !rest.isEmpty then "/" else "") = false

/-- A directory on the way to what the names lead to. -/
def OnWay (names base : Place) : Prop := base <+: names ∧ base ≠ names

variable {view : View} {load load' : Loader} {directory : Bool} {held rules : Rules}
  {base inner names rest : Place}

/-- A directory is on the way if there are more names behind it. -/
theorem onWay_iff : OnWay names base ↔ ∃ more, names = base ++ more ∧ more ≠ [] := by
  constructor
  · rintro ⟨⟨more, rfl⟩, hne⟩
    refine ⟨more, rfl, ?_⟩
    rintro rfl
    exact hne (List.append_nil base).symm
  · rintro ⟨more, rfl, hne⟩
    exact ⟨⟨more, rfl⟩, fun he => hne (List.self_eq_append_right.1 he)⟩

/-! ### From the rules at hand to the rules of each directory -/

section Cuts

variable {α : Type} {a : α} {l : List α}

/-- The ways to cut a front off a list with a first item. -/
theorem forall_front_cons {P : List α → List α → Prop} :
    (∀ front rest, a :: l = front ++ rest → front ≠ [] → P front rest) ↔
      P [a] l ∧ ∀ front rest, l = front ++ rest → front ≠ [] → P (a :: front) rest := by
  constructor
  · intro h
    refine ⟨h [a] l rfl (List.cons_ne_nil _ _), fun front rest he _ => ?_⟩
    exact h (a :: front) rest (congrArg _ he) (List.cons_ne_nil _ _)
  · rintro ⟨hone, hmore⟩ front rest he hne
    cases front with
    | nil => exact absurd rfl hne
    | cons b front =>
      rw [List.cons_append, List.cons.injEq] at he
      obtain ⟨rfl, rfl⟩ := he
      cases front with
      | nil => exact hone
      | cons b front => exact hmore _ rest rfl (List.cons_ne_nil _ _)

/-- The ways to cut a back off a list with a first item: all of it, or what is left of the rest. -/
theorem forall_back_cons {P : List α → Prop} :
    (∀ front back, a :: l = front ++ back → back ≠ [] → P front) ↔
      P [] ∧ ∀ front back, l = front ++ back → back ≠ [] → P (a :: front) := by
  constructor
  · intro h
    exact ⟨h [] (a :: l) rfl (List.cons_ne_nil _ _), fun front back he =>
      h (a :: front) back (congrArg _ he)⟩
  · rintro ⟨hall, hrest⟩ front back he hne
    cases front with
    | nil => exact hall
    | cons b front =>
      rw [List.cons_append, List.cons.injEq] at he
      obtain ⟨rfl, he⟩ := he
      exact hrest front back he hne

/-- The ways to cut something out of a list with a first item: at its front, or behind it. -/
theorem forall_middle_cons {P : List α → List α → List α → Prop} :
    (∀ base inner rest, a :: l = base ++ inner ++ rest → inner ≠ [] → P base inner rest) ↔
      (∀ front rest, a :: l = front ++ rest → front ≠ [] → P [] front rest) ∧
        ∀ base inner rest, l = base ++ inner ++ rest → inner ≠ [] → P (a :: base) inner rest := by
  constructor
  · intro h
    exact ⟨fun front rest => h [] front rest, fun base inner rest he =>
      h (a :: base) inner rest (congrArg _ he)⟩
  · rintro ⟨hfront, hbehind⟩ base inner rest he hne
    cases base with
    | nil => exact hfront inner rest he hne
    | cons b base =>
      rw [List.cons_append, List.cons_append, List.cons.injEq] at he
      obtain ⟨rfl, rfl⟩ := he
      exact hbehind base inner rest rfl hne

end Cuts

/-- Rules of more directories ignore what the rules of one of them ignore. -/
theorem isIgnored_append :
    isIgnored (held ++ rules) names directory =
      (isIgnored held names directory || isIgnored rules names directory) :=
  List.any_append

/-- The rules of one directory are asked for the path from there. -/
theorem isIgnored_ownRules_eq_false_iff :
    isIgnored (ownRules load base) (base ++ inner) directory = false ↔
      ∀ spec, load base = .ok (some spec) →
        spec.ignores (joined inner ++ if directory then "/" else "") = false := by
  rw [ownRules]
  cases load base with
  | error fault => exact iff_of_true rfl (by rintro spec ⟨⟩)
  | ok own =>
    cases own with
    | none => exact iff_of_true rfl (by rintro spec ⟨⟩)
    | some spec => simp [isIgnored]

/-- What is kept is found out from the directories above each front of the names. -/
theorem kept_iff_inits :
    Kept load directory names ↔ ∀ front ∈ names.inits, ∀ base ∈ front.inits, base ≠ front →
      isIgnored (ownRules load base) front (directory || decide (front ≠ names)) = false := by
  -- A front is a directory if names are left behind it.
  have hend : ∀ front rest : Place, decide (front ≠ front ++ rest) = !rest.isEmpty := by
    intro front rest
    cases rest <;> simp
  constructor
  · intro h front hf base hb hne
    obtain ⟨rest, rfl⟩ := List.mem_inits front names |>.1 hf
    obtain ⟨inner, rfl⟩ := List.mem_inits base front |>.1 hb
    rw [hend, isIgnored_ownRules_eq_false_iff]
    refine h base inner rest rfl ?_
    rintro rfl
    exact hne (List.append_nil base).symm
  · rintro h base inner rest rfl hne
    have hcut := h (base ++ inner) (List.mem_inits _ _ |>.2 ⟨rest, rfl⟩) base
      (List.mem_inits _ _ |>.2 ⟨inner, rfl⟩) fun he => hne (List.self_eq_append_right.1 he)
    rwa [hend, isIgnored_ownRules_eq_false_iff] at hcut

instance : Decidable (Kept load directory names) := decidable_of_iff' _ kept_iff_inits

/-- **The invariant of the walk.**  With the rules from above and those of the directory at hand,
names are spared if they are not hidden, the directories before them can be opened, the rules from
above ignore nothing on the way, and neither do those of the directory and of all directories below
it on the way. -/
theorem spares_iff :
    spares view directory (held ++ ownRules view.load names) names rest = true ↔
      (∀ name ∈ rest, isHidden name = false) ∧
        (∀ front more, rest = front ++ more → more ≠ [] → view.opens (names ++ front) = true) ∧
        (∀ front more, rest = front ++ more → front ≠ [] →
          isIgnored held (names ++ front) (directory || !more.isEmpty) = false) ∧
        ∀ base inner more, rest = base ++ inner ++ more → inner ≠ [] →
          isIgnored (ownRules view.load (names ++ base)) (names ++ base ++ inner)
            (directory || !more.isEmpty) = false := by
  induction rest generalizing held names with
  | nil =>
    refine ⟨fun _ => ⟨nofun, ?_, ?_, ?_⟩, fun _ => rfl⟩
    · intro front more he hne
      exact absurd (List.append_eq_nil_iff.1 he.symm).2 hne
    · intro front more he hne
      exact absurd (List.append_eq_nil_iff.1 he.symm).1 hne
    · intro base inner more he hne
      exact absurd (List.append_eq_nil_iff.1 (List.append_eq_nil_iff.1 he.symm).1).2 hne
  -- A cut of the longer names takes the first name alone, or is a cut of the others; the rest of
  -- the step is propositional.
  | cons name rest ih =>
    rw [spares, Bool.and_eq_true, Bool.and_eq_true, Bool.and_eq_true, ih, forall_middle_cons,
      forall_back_cons, forall_front_cons, forall_front_cons, List.forall_mem_cons]
    simp only [isIgnored_append, Bool.not_eq_true', Bool.or_eq_false_iff, List.append_assoc,
      List.singleton_append, List.append_nil, forall_and]
    tauto

/-- **What a walk comes to:** what is visible and kept, below directories that can be opened. -/
theorem spares_iff_kept :
    spares view directory (ownRules view.load []) [] names = true ↔
      (∀ name ∈ names, isHidden name = false) ∧
        (∀ base, OnWay names base → view.opens base = true) ∧ Kept view.load directory names := by
  have hnone : ∀ directory place, isIgnored [] place directory = false := fun _ _ => rfl
  have hopen : (∀ base, OnWay names base → view.opens base = true) ↔
      ∀ front more, names = front ++ more → more ≠ [] → view.opens front = true := by
    simp only [onWay_iff, forall_exists_index, and_imp]
  have h := @spares_iff view directory [] [] names
  simp only [List.nil_append, hnone, implies_true, true_and, isIgnored_ownRules_eq_false_iff] at h
  rw [hopen]
  exact h

/-- Without rules everything is kept. -/
theorem kept_of_noRules (h : ∀ base, OnWay names base → load base = .ok none) :
    Kept load directory names := by
  rintro base inner rest rfl hne spec hs
  have hway : OnWay (base ++ inner ++ rest) base := onWay_iff.2 ⟨inner ++ rest,
    List.append_assoc .., fun he => hne (List.append_eq_nil_iff.1 he).1⟩
  cases (h base hway).symm.trans hs

/-- Which files are kept depends on the rules of the directories on the way. -/
theorem kept_congr (h : ∀ base, OnWay names base → load' base = load base) :
    Kept load' directory names ↔ Kept load directory names := by
  have hload : ∀ base inner rest, names = base ++ inner ++ rest → inner ≠ [] →
      load' base = load base := by
    rintro base inner rest rfl hne
    exact h base <| onWay_iff.2 ⟨inner ++ rest, List.append_assoc ..,
      fun he => hne (List.append_eq_nil_iff.1 he).1⟩
  constructor
  · intro hk base inner rest he hne spec hs
    exact hk base inner rest he hne spec (by rwa [hload base inner rest he hne])
  · intro hk base inner rest he hne spec hs
    exact hk base inner rest he hne spec (by rwa [← hload base inner rest he hne])

end Listing
end TestSelection
