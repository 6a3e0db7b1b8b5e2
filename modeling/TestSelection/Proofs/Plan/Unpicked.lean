/-
# Files that a plan does not pick

A plan looks at the listed files only through the sequences that select among them: that of the test
patterns and those of the parallel commands (`Outline.Uses`). A file that none of them selects can
be added to a listing or taken away from it: two sorted listings that agree on all other files give
the same plan (`Outline.fill_eq_of_unpicked`).
-/

import TestSelection.Proofs.Plan.Recipe

namespace TestSelection

variable {files files' : List String}

namespace Outline

variable {outline : Outline}

/-- The sequences that select files for an outline. -/
inductive Uses (outline : Outline) : Sequence → Prop
  | tests : Uses outline outline.selection
  | command {entries : Entries} {s : Sequence} (asked : .map entries ∈ outline.commands)
      (isParallel : Parallel.isParallel (.map entries) = true)
      (compiled : Parallel.sequence entries = .ok s) : Uses outline s

/-- A path is selected by the test patterns, or by those of a parallel command. -/
def Picks (outline : Outline) (path : String) : Prop :=
  ∃ s, outline.Uses s ∧ s.evaluate path = true

/-- Only what is selected counts. -/
theorem fill_eq (h : ∀ s, outline.Uses s → s.select files' = s.select files) :
    outline.fill files' = outline.fill files := by
  rw [Plan.fill_eq_recipe, Plan.fill_eq_recipe, Plan.Recipe.ofOutline]
  cases hp : Parallel.prepare outline.commands with
  | error e => rfl
  | ok prepared =>
    have hcommands : prepared.map (·.expand files') = prepared.map (·.expand files) := by
      refine List.map_congr_left fun command hm => ?_
      obtain ⟨hasked, hparallel, hs⟩ := Parallel.of_mem_prepare hp hm
      rw [Parallel.Prepared.expand, Parallel.Prepared.expand, h _ (.command hasked hparallel hs)]
    show Except.ok (Plan.mk _ _) = Except.ok (Plan.mk _ _)
    rw [h _ .tests, hcommands]

/-- **What is not picked does not count.**  Two sorted listings that have the same files among those
that are picked give the same plan. -/
theorem fill_eq_of_unpicked (h : files.Pairwise (· < ·)) (h' : files'.Pairwise (· < ·))
    (hmem : ∀ path, outline.Picks path → (path ∈ files' ↔ path ∈ files)) :
    outline.fill files' = outline.fill files := by
  have hnodup : ∀ {l : List String}, l.Pairwise (· < ·) → l.Nodup := by
    intro l hl
    refine hl.imp ?_
    rintro a _ hlt rfl
    exact String.lt_irrefl a hlt
  refine fill_eq fun s hs => ?_
  have hfilter : (s.select files').Perm (s.select files) := by
    refine (List.perm_ext_iff_of_nodup ((hnodup h').sublist List.filter_sublist)
      ((hnodup h).sublist List.filter_sublist)).2 fun path => ?_
    show path ∈ files'.filter s.evaluate ↔ path ∈ files.filter s.evaluate
    rw [List.mem_filter, List.mem_filter]
    exact and_congr_left fun hp => hmem path ⟨s, hs, hp⟩
  exact hfilter.eq_of_pairwise (fun a b _ _ hab hba => absurd (String.lt_trans hab hba)
    (String.lt_irrefl a)) (h'.sublist List.filter_sublist) (h.sublist List.filter_sublist)

end Outline
end TestSelection
