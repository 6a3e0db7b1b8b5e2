/-
# What is left between blanks

`Text.trim` cuts out of a list what stands between members that pass a test (`Trims`): these members
are gone at both ends, and no more than these. There is only one such part (`trim_eq_iff`), so
trimming twice is trimming once (`trim_trim`), and nothing is left if all members pass
(`trim_eq_nil_iff`).
-/

import TestSelection.Text.Trim
import Mathlib.Data.List.TakeWhile

namespace TestSelection
namespace Text

variable {α : Type} {p : α → Bool} {xs ys before after : List α}

/-- A part of a list between members that pass a test; none of these is at either end of the
part. -/
def Trims (p : α → Bool) (xs ys : List α) : Prop :=
  ∃ before after, xs = before ++ ys ++ after ∧ (∀ x ∈ before, p x = true) ∧
    (∀ x ∈ after, p x = true) ∧ (∀ x ∈ ys.head?, p x = false) ∧ ∀ x ∈ ys.getLast?, p x = false

/-- Nothing is dropped if the first one is kept. -/
theorem dropWhile_of_head? (h : ∀ x ∈ ys.head?, p x = false) : ys.dropWhile p = ys := by
  cases ys with
  | nil => rfl
  | cons y ys => exact List.dropWhile_cons_of_neg (by simp [h y rfl])

/-- What is to be trimmed is trimmed up to the last one that is not. -/
theorem trimBack_append (hafter : ∀ x ∈ after, p x = true)
    (hlast : ∀ x ∈ ys.getLast?, p x = false) : trimBack p (ys ++ after) = ys := by
  have hpass : ∀ x ∈ after.reverse, p x = true := fun x hx => hafter x (List.mem_reverse.1 hx)
  have hstop : ∀ x ∈ ys.reverse.head?, p x = false := by rwa [List.head?_reverse]
  rw [trimBack, List.reverse_append, List.dropWhile_append_of_pos hpass,
    dropWhile_of_head? hstop, List.reverse_reverse]

/-- A back that can be cut off. -/
theorem exists_eq_trimBack_append (p : α → Bool) (xs : List α) :
    ∃ after, xs = trimBack p xs ++ after ∧ (∀ x ∈ after, p x = true) ∧
      ∀ x ∈ (trimBack p xs).getLast?, p x = false := by
  refine ⟨(xs.reverse.takeWhile p).reverse, ?_, fun x hx => ?_, fun x hx => ?_⟩
  · calc xs = (xs.reverse.takeWhile p ++ xs.reverse.dropWhile p).reverse := by
          rw [List.takeWhile_append_dropWhile, List.reverse_reverse]
      _ = trimBack p xs ++ (xs.reverse.takeWhile p).reverse := List.reverse_append
  · exact List.mem_takeWhile_imp (List.mem_reverse.1 hx)
  · have hhead := List.head?_dropWhile_not p xs.reverse
    rw [trimBack, List.getLast?_reverse] at hx
    rw [Option.mem_def.1 hx] at hhead
    simpa using hhead

/-- Trimming cuts off what passes the test at both ends, and what is left has no such end. -/
theorem trims_trim (p : α → Bool) (xs : List α) : Trims p xs (trim p xs) := by
  obtain ⟨after, hcut, hafter, hlast⟩ := exists_eq_trimBack_append p (xs.dropWhile p)
  refine ⟨xs.takeWhile p, after, ?_, fun x => List.mem_takeWhile_imp, hafter, fun x hx => ?_,
    hlast⟩
  · rw [trim, List.append_assoc, ← hcut, List.takeWhile_append_dropWhile]
  · -- what is left begins where the list begins that was cut at its back
    have hhead := List.head?_dropWhile_not p xs
    have hx' : (xs.dropWhile p).head? = some x := by
      rw [hcut, List.head?_append, ← trim, Option.mem_def.1 hx]
      rfl
    rw [hx'] at hhead
    simpa using hhead

/-- **What is cut out is the part between the members that pass.** -/
theorem trim_eq_iff : trim p xs = ys ↔ Trims p xs ys := by
  constructor
  · rintro rfl
    exact trims_trim p xs
  · rintro ⟨before, after, rfl, hbefore, hafter, hhead, hlast⟩
    rw [trim, List.append_assoc, List.dropWhile_append_of_pos hbefore]
    cases ys with
    | nil =>
      have hnone : after.dropWhile p = [] := List.dropWhile_eq_nil_iff.2 hafter
      rw [List.nil_append, hnone, trimBack_nil]
    | cons y ys =>
      have hkeep : (y :: ys ++ after).dropWhile p = y :: ys ++ after :=
        dropWhile_of_head? fun x hx => hhead x hx
      rw [hkeep, trimBack_append hafter hlast]

/-- Trimming twice is trimming once. -/
theorem trim_trim (p : α → Bool) (xs : List α) : trim p (trim p xs) = trim p xs := by
  obtain ⟨-, -, -, -, -, hhead, hlast⟩ := trims_trim p xs
  exact trim_eq_iff.2 ⟨[], [], by simp, List.forall_mem_nil _, List.forall_mem_nil _, hhead, hlast⟩

/-- Nothing is left when everything passes the test. -/
theorem trim_eq_nil_iff : trim p xs = [] ↔ ∀ x ∈ xs, p x = true := by
  rw [trim_eq_iff]
  constructor
  · rintro ⟨before, after, rfl, hbefore, hafter, -⟩ x hx
    rw [List.append_nil] at hx
    exact (List.mem_append.1 hx).elim (hbefore x) (hafter x)
  · exact fun h => ⟨xs, [], by simp, h, List.forall_mem_nil _, nofun, nofun⟩

end Text
end TestSelection
