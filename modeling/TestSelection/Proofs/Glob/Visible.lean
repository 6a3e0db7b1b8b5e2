/-
# Texts without hidden components

The components of a text stand between its slashes, and one that begins with a dot is hidden. A text
has no hidden component when it does not begin with a dot and holds no `/.` (`Visible`). Where it
goes on from another text, whether a component begins at its front depends on what stands before
(`startAfter`), and with that a text falls into visible parts (`visible_append`).
-/

import TestSelection.Text.Basic
import Mathlib.Data.List.Infix
import Mathlib.Tactic.Tauto

namespace TestSelection
namespace Glob

/-- No component of the text begins with a dot; `start` says that one begins at its front. -/
def Visible (start : Bool) (text : Text) : Prop :=
  (start = true → text.head? ≠ some (.char '.')) ∧ ¬ [Code.char '/', .char '.'] <:+: text

/-- A text with no character has no hidden component. -/
@[simp] theorem visible_nil (start : Bool) : Visible start [] := by
  simp [Visible]

/-- Visibility one character at a time: a dot may not stand where a component begins, and one begins
after a slash. -/
theorem visible_cons {start : Bool} {c : Code} {text : Text} :
    Visible start (c :: text) ↔
      (start = true → c ≠ .char '.') ∧ Visible (c == .char '/') text := by
  have hp : [Code.char '/', .char '.'] <+: c :: text ↔
      c = .char '/' ∧ text.head? = some (.char '.') := by
    cases text <;> simp [List.cons_prefix_cons, eq_comm]
  simp only [Visible, List.infix_cons_iff, hp, List.head?_cons, ne_eq, Option.some.injEq,
    beq_iff_eq]
  tauto

/-- Whether a path component begins after a text. -/
def startAfter (start : Bool) (text : Text) : Bool := text.foldl (fun _ c => c == .char '/') start

/-- A text is visible when its two parts are, where the first part says whether a component begins
at the front of the second. -/
theorem visible_append {start : Bool} {s t : Text} :
    Visible start (s ++ t) ↔ Visible start s ∧ Visible (startAfter start s) t := by
  induction s generalizing start with
  | nil => simp [startAfter]
  | cons c s ih =>
    rw [List.cons_append, visible_cons, visible_cons, ih, and_assoc]
    rfl

/-- After a text that holds no slash and is not empty, no component begins. -/
theorem startAfter_eq_false {text : Text} (hne : text ≠ []) (hs : Code.char '/' ∉ text)
    (start : Bool) : startAfter start text = false := by
  induction text generalizing start with
  | nil => exact absurd rfl hne
  | cons c text ih =>
    have hc : (c == .char '/') = false := by
      rw [beq_eq_false_iff_ne]
      rintro rfl
      exact hs (List.mem_cons_self ..)
    cases text with
    | nil => exact hc
    | cons d text => exact ih (by simp) (fun h => hs (List.mem_cons_of_mem _ h)) (c == .char '/')

/-- A text without slashes has no component but the one at its front. -/
theorem not_infix_of_not_mem {text : Text} (hs : Code.char '/' ∉ text) :
    ¬ [Code.char '/', .char '.'] <:+: text := fun h => hs (h.subset (by simp))

end Glob
end TestSelection
