/-
# Outcomes of computations

When a computation that may fail gives a value: one that is changed afterwards (`map`), one whose
failure is reported in other words (`mapError`), and one after another (`bind`).

And what it fails with: of all that is wrong, in the order in which it is looked at, the first
(`Reports`).
-/

import Mathlib.Init

namespace TestSelection
namespace Outcome

variable {ε ε' α β : Type}

/-- A computation that is changed afterwards gives what a value of it was changed into; it fails as
it did. -/
theorem map_eq_ok_iff {f : α → β} {x : Except ε α} {b : β} :
    x.map f = .ok b ↔ ∃ a, x = .ok a ∧ f a = b := by
  cases x <;> simp [Except.map]

/-- How a failure is reported does not touch the values. A computation that reports in other words
is opened by this, so that its own lemmas apply. -/
theorem mapError_eq_ok_iff {f : ε → ε'} {x : Except ε α} {a : α} :
    x.mapError f = .ok a ↔ x = .ok a := by
  cases x with
  | error e => exact ⟨nofun, nofun⟩
  | ok b =>
    show (.ok b : Except ε' α) = .ok a ↔ _
    rw [Except.ok.injEq, Except.ok.injEq]

/-- **Two steps.** Both of them have given a value if the two together have, the second one for the
value of the first. Chains of steps are opened from the front by this. -/
theorem bind_eq_ok_iff {f : α → Except ε β} {x : Except ε α} {b : β} :
    x >>= f = .ok b ↔ ∃ a, x = .ok a ∧ f a = .ok b := by
  cases x <;> simp [bind, Except.bind]

/-! ### Faults -/

/-- What a computation fails with, if it does; the list is empty or has one member. -/
def faultOf : Except ε α → List ε
  | .error e => [e]
  | .ok _ => []

/-- A computation fails with the first of some faults, and gives a value if there is none. The
faults are all that is wrong, in the order in which it counts; those after the first are never seen,
but they are what the faults of a part of the computation alone would be. -/
def Reports (x : Except ε α) (faults : List ε) : Prop := ∀ e, x = .error e ↔ faults.head? = some e

variable {x : Except ε α} {f : α → Except ε β} {faults others : List ε}

/-- Nothing is wrong exactly if there is a value, so of a computation that reports its faults only
the faults have to be known. -/
theorem Reports.eq_nil_iff (h : Reports x faults) : faults = [] ↔ ∃ a, x = .ok a := by
  cases x with
  | error e =>
    refine iff_of_false (fun hnil => ?_) nofun
    have hhead := (h e).1 rfl
    rw [hnil] at hhead
    cases hhead
  | ok a =>
    refine iff_of_true (List.head?_eq_none_iff.1 ?_) ⟨a, rfl⟩
    exact Option.eq_none_iff_forall_ne_some.2 fun e he => nomatch (h e).2 he

/-- A value has no faults. -/
theorem reports_ok (a : α) : Reports (.ok a : Except ε α) [] := fun _ => ⟨nofun, nofun⟩

/-- Whatever else would have been wrong later is not looked at any more. -/
theorem reports_error (e : ε) (rest : List ε) : Reports (.error e : Except ε α) (e :: rest) := by
  intro e'
  rw [Except.error.injEq, List.head?_cons, Option.some.injEq]

/-- Every computation reports what it fails with. The steps that the faults of are not told apart
start from this. -/
theorem reports_faultOf (x : Except ε α) : Reports x (faultOf x) := by
  cases x with
  | error e => exact reports_error e []
  | ok a => exact reports_ok a

/-- **The faults of a first step count before those of the next one.** Those of the next step need
only be known where the first one has given a value. -/
theorem Reports.bind (h : Reports x faults) (hf : ∀ a, x = .ok a → Reports (f a) others) :
    Reports (x >>= f) (faults ++ others) := by
  cases x with
  | error e =>
    obtain ⟨rest, rfl⟩ := List.head?_eq_some_iff.1 ((h e).1 rfl)
    exact reports_error e _
  | ok a =>
    rw [h.eq_nil_iff.2 ⟨a, rfl⟩]
    exact hf a rfl

/-- A value may be changed afterwards; what is wrong stays what it was. -/
theorem Reports.map {g : α → β} (h : Reports x faults) : Reports (x.map g) faults := by
  cases x with
  | error e =>
    obtain ⟨rest, rfl⟩ := List.head?_eq_some_iff.1 ((h e).1 rfl)
    exact reports_error e _
  | ok a =>
    rw [h.eq_nil_iff.2 ⟨a, rfl⟩]
    exact reports_ok _

/-- In other words the same things are wrong, in the same order. -/
theorem Reports.mapError {g : ε → ε'} (h : Reports x faults) :
    Reports (x.mapError g) (faults.map g) := by
  cases x with
  | error e =>
    obtain ⟨rest, rfl⟩ := List.head?_eq_some_iff.1 ((h e).1 rfl)
    exact reports_error (g e) _
  | ok a =>
    rw [h.eq_nil_iff.2 ⟨a, rfl⟩]
    exact reports_ok _

end Outcome
end TestSelection
