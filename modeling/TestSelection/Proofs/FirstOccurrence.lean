/-
# First occurrences

A list without its repetitions (`List.eraseDups`) has each item once, in the order in which the
items occur first.
-/

import Mathlib.Data.List.Basic

namespace TestSelection

variable {α : Type} [BEq α] [LawfulBEq α] {test : α → Bool} {a b : α}

/-- Items that are kept keep the order in which they occur first. What is left out in front of one
of them is left out in front of both, or lies between the two. -/
theorem idxOf_lt_of_filter {l : List α} (ha : test a = true) (hb : test b = true)
    (h : (l.filter test).idxOf a < (l.filter test).idxOf b) : l.idxOf a < l.idxOf b := by
  induction l with
  | nil => exact h
  | cons c l ih =>
    by_cases hc : test c = true
    · rw [List.filter_cons_of_pos hc, List.idxOf_cons, List.idxOf_cons] at h
      rw [List.idxOf_cons, List.idxOf_cons]
      cases hca : c == a <;> cases hcb : c == b <;> simp_all
    · have hca : c ≠ a := fun he => hc (he ▸ ha)
      have hcb : c ≠ b := fun he => hc (he ▸ hb)
      rw [List.filter_cons_of_neg hc] at h
      rw [List.idxOf_cons_ne l hca, List.idxOf_cons_ne l hcb]
      exact Nat.succ_lt_succ (ih h)

/-- Removing repetitions keeps first occurrences, in order. -/
theorem pairwise_eraseDups : ∀ l : List α,
    l.eraseDups.Pairwise fun a b => l.idxOf a < l.idxOf b
  | [] => .nil
  | a :: l => by
    have hl : (l.filter (!· == a)).length < l.length + 1 :=
      Nat.lt_succ_of_le (List.length_filter_le ..)
    have hne : ∀ b ∈ (l.filter (!· == a)).eraseDups, (!b == a) = true := fun b hb =>
      (List.mem_filter.1 (List.mem_eraseDups.1 hb)).2
    have hidx : ∀ {b}, (!b == a) = true → (a :: l).idxOf b = l.idxOf b + 1 := fun {b} hb =>
      List.idxOf_cons_ne l fun he => by simp [he] at hb
    rw [List.eraseDups_cons, List.pairwise_cons]
    constructor
    · intro b hb
      rw [List.idxOf_cons_self, hidx (hne b hb)]
      exact Nat.succ_pos _
    · refine (pairwise_eraseDups _).imp_of_mem fun {b c} hb hc h => ?_
      rw [hidx (hne b hb), hidx (hne c hc)]
      exact Nat.succ_lt_succ (idxOf_lt_of_filter (hne b hb) (hne c hc) h)
  termination_by l => l.length

/-- Without its repetitions a list has every item once, for no item occurs first before itself. -/
theorem nodup_eraseDups (l : List α) : l.eraseDups.Nodup :=
  (pairwise_eraseDups l).imp fun h hab => absurd (hab ▸ h) (Nat.lt_irrefl _)

/-- Repetitions may be removed before or after some items are left out, because all occurrences of
an item pass the test or none does. -/
theorem eraseDups_filter (test : α → Bool) :
    ∀ l : List α, (l.filter test).eraseDups = l.eraseDups.filter test
  | [] => rfl
  | a :: l => by
    have hl : (l.filter (!· == a)).length < l.length + 1 :=
      Nat.lt_succ_of_le (List.length_filter_le ..)
    have hrest : ((l.filter (!· == a)).filter test).eraseDups =
        (l.filter (!· == a)).eraseDups.filter test := eraseDups_filter test _
    rw [List.eraseDups_cons]
    by_cases ha : test a = true
    · rw [List.filter_cons_of_pos ha, List.filter_cons_of_pos ha, List.eraseDups_cons, ← hrest,
        List.filter_filter, List.filter_filter]
      simp only [Bool.and_comm]
    · have hne : ∀ b ∈ l, test b = (test b && !b == a) := by
        intro b _
        by_cases hba : b = a
        · simp [hba, ha]
        · simp [hba]
      rw [List.filter_cons_of_neg ha, List.filter_cons_of_neg ha, ← hrest, List.filter_filter,
        List.filter_congr hne]
  termination_by l => l.length

/-- An item at the end is new, or it is there already. -/
theorem eraseDups_concat (l : List α) (a : α) :
    (l ++ [a]).eraseDups = if a ∈ l then l.eraseDups else l.eraseDups ++ [a] := by
  rw [List.eraseDups_append, List.removeAll]
  split
  case isTrue h => simp [h]
  case isFalse h => simp [h, List.eraseDups_cons]

end TestSelection
