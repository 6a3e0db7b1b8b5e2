/-
# What writing a plan changes

Writing a plan puts its JSON text at the end of the path, and changes nothing else that is there. If
the plan is not written, for whatever reason, nothing that is there changes at all. In both cases
missing directories above the end of the path are made, before anything can be wrong with the plan
or the file (`Plan.write_cases`).
-/

import TestSelection.Plan.Write
import TestSelection.Proofs.Tree.Growth

namespace TestSelection

namespace Tree

variable {tree after : Tree} {path : Path}

/-- The directories for a path are made, as far as they can be: a tree has all that another one has,
and perhaps directories above the end of the path besides. If the path led somewhere, nothing was
missing, and it is the same tree. -/
structure Prepared (path : Path) (before after : Tree) : Prop where
  grown : Grown path.parent before after
  eq_of_leads : ∀ p, before.Leads false path p → after = before

/-- A tree is prepared as it is, if no directory had to be made. -/
theorem Prepared.refl (path : Path) (tree : Tree) : Prepared path tree tree :=
  ⟨.refl path.parent tree, fun _ _ => rfl⟩

/-- Making the directories above a path changes nothing else, also where it fails on the way. -/
theorem prepared_makeDirectories (tree : Tree) (hnames : path.names ≠ []) :
    Prepared path tree (tree.makeDirectories path.parent).1 := by
  refine ⟨grown_makeDirectories, fun p hp => ?_⟩
  rw [makeDirectories_of_isDir (hp.isDir_parent hnames)]

/-- A text is the content of the file that a path leads to, once the directories for it are made;
the file may be new, and may have taken the place of another one or of a link. Everything else is as
it was. -/
def Written (path : Path) (text : String) (before after : Tree) : Prop :=
  ∃ made p, Prepared path before made ∧ made.Leads false path p ∧
    made.item? p ≠ some .directory ∧ after.here = before.here ∧
      after.item? = Function.update made.item? p (some (.file text.toUTF8))

/-- Putting a file at the path after making the directories for it. -/
theorem Prepared.written {made : Tree} {text : String} (hmade : Prepared path tree made)
    (hnames : path.names ≠ []) (h : made.replace path text.toUTF8 = .ok after) :
    Written path text tree after := by
  obtain ⟨p, hp, hold, rfl⟩ := replace_eq_ok_iff.1 h
  refine ⟨made, p, hmade, hp, hold, hmade.grown.here_eq, ?_⟩
  exact hp.item?_withNode hnames hold (Node.isBare_file _)

end Tree

/-- **What writing a plan changes.**  A plan that is written has a JSON text, which is the content
of the file afterwards; a plan that is not leaves everything that is there. -/
theorem Plan.write_cases (plan : Plan) (tree : Tree) (path : Path) :
    (∃ text, plan.json = .ok text ∧ (plan.write tree path).2 = .ok () ∧
      Tree.Written path text tree (plan.write tree path).1) ∨
    (∃ e, (plan.write tree path).2 = .error e ∧
      Tree.Prepared path tree (plan.write tree path).1) := by
  rw [write]
  by_cases hn : path.names.isEmpty = true
  · rw [if_pos hn]
    exact .inr ⟨_, rfl, .refl path tree⟩
  · rw [if_neg hn]
    have hnames : path.names ≠ [] := fun h => hn (List.isEmpty_iff.2 h)
    have hmade := tree.prepared_makeDirectories hnames
    generalize tree.makeDirectories path.parent = makes at hmade ⊢
    obtain ⟨made, fault⟩ := makes
    cases fault with
    | some fault => exact .inr ⟨_, rfl, hmade⟩
    | none =>
      dsimp only
      cases hj : plan.json with
      | error => exact .inr ⟨_, rfl, hmade⟩
      | ok text =>
        dsimp only
        cases made.resolve false path.besides with
        | error fault => exact .inr ⟨_, rfl, hmade⟩
        | ok =>
          dsimp only
          by_cases hd : made.isDir path = true
          · rw [if_pos hd]
            exact .inr ⟨_, rfl, hmade⟩
          · rw [if_neg hd]
            cases hw : made.replace path text.toUTF8 with
            | error fault => exact .inr ⟨_, rfl, hmade⟩
            | ok after => exact .inl ⟨text, rfl, rfl, hmade.written hnames hw⟩

end TestSelection
