/-
# The last match decides

What a list of patterns selects, said without the order in which they are tried: among the patterns
that match a path, the one declared last decides (`decisive?`), and the path is selected unless that
one is an `exclude` (`Selected`).

A `Sequence` is compiled from the last declared pattern on and tried from its front, so its first
match is the decisive one (`evaluate_iff`). The directory that scopes the patterns may as well be
written into each of them beforehand (`Pattern.under`).
-/

import TestSelection.Pattern.Sequence
import TestSelection.Proofs.Outcome

namespace TestSelection
namespace Pattern

/-- The pattern with its glob put under a directory. -/
def under (directory : Option Text) (p : Pattern) : Pattern :=
  { p with glob := underDirectory directory p.glob }

/-- Whether the glob of the pattern is an accepted one and matches the path. -/
def isMatch (p : Pattern) (path : String) : Bool :=
  match Glob.ofText p.glob with
  | .ok glob => glob.isMatch path
  | .error _ => false

/-- The last of some patterns that matches a path. -/
def decisive? (patterns : List Pattern) (path : String) : Option Pattern :=
  (patterns.filter (·.isMatch path)).getLast?

/-- Some pattern matches the path, and the last one that does is not an `exclude`. -/
def Selected (patterns : List Pattern) (path : String) : Prop :=
  ∃ p, decisive? patterns path = some p ∧ p.tag ≠ .excluded

variable {p : Pattern} {patterns : List Pattern} {path : String}

/-- Without a directory a pattern stays as it is. -/
@[simp] theorem under_none : p.under none = p := rfl

/-- A pattern whose glob is accepted matches what this glob matches. -/
theorem isMatch_of_ofText {glob : Glob} (h : Glob.ofText p.glob = .ok glob) :
    p.isMatch path = glob.isMatch path := by
  rw [isMatch, h]

/-- Only an exclusion does not select. -/
theorem selects_iff : p.selects = true ↔ p.tag ≠ .excluded := bne_iff_ne

/-- A path is selected if the last pattern that matches it is no exclusion. -/
theorem selected_iff : Selected patterns path ↔ (decisive? patterns path).any selects = true := by
  simp only [Selected, Option.any_eq_true, selects_iff]

instance : DecidablePred (Selected patterns) :=
  fun _ => decidable_of_iff' _ selected_iff

/-- The decisive pattern is the first match from the back. -/
theorem decisive?_eq_find? :
    decisive? patterns path = patterns.reverse.find? (·.isMatch path) :=
  List.getLast?_filter

end Pattern

namespace Sequence

variable {directory : Option Text} {path : String}

/-- Compiling a sequence compiles its first pattern and the others; one that is rejected leaves no
matchers. -/
theorem compileReversed_cons {p : Pattern} {rest : List Pattern} {matchers : List Matcher} :
    compileReversed directory (p :: rest) = .ok matchers ↔
      ∃ glob others, Glob.ofText (p.under directory).glob = .ok glob ∧
        compileReversed directory rest = .ok others ∧ ⟨p.selects, glob⟩ :: others = matchers := by
  simp only [compileReversed, Outcome.bind_eq_ok_iff, pure, Except.pure, Except.ok.injEq,
    exists_and_left]
  rfl

/-- The first match among compiled patterns is the first match among the patterns. -/
theorem decides_of_compileReversed {reversed : List Pattern} {matchers : List Matcher}
    (h : compileReversed directory reversed = .ok matchers) :
    decides path matchers =
      ((reversed.map (·.under directory)).find? (·.isMatch path)).any Pattern.selects := by
  induction reversed generalizing matchers with
  | nil =>
    obtain rfl : [] = matchers := Except.ok.inj h
    rfl
  | cons p rest ih =>
    obtain ⟨glob, others, hp, hr, rfl⟩ := compileReversed_cons.1 h
    rw [decides, ih hr, List.map_cons, List.find?_cons, Pattern.isMatch_of_ofText hp]
    cases glob.isMatch path <;> rfl

/-- **A compiled sequence selects the paths that its patterns select.** -/
theorem evaluate_iff {patterns : List Pattern} {s : Sequence}
    (h : compile patterns directory = .ok s) :
    s.evaluate path = true ↔ Pattern.Selected (patterns.map (·.under directory)) path := by
  obtain ⟨matchers, hm, rfl⟩ := Outcome.map_eq_ok_iff.1 h
  rw [evaluate, decides_of_compileReversed hm, Pattern.selected_iff, Pattern.decisive?_eq_find?,
    List.map_reverse]

/-- A compiled sequence keeps the selected paths, in their order. -/
theorem select_eq {patterns : List Pattern} {s : Sequence} (h : compile patterns directory = .ok s)
    (paths : List String) :
    s.select paths = paths.filter (Pattern.Selected (patterns.map (·.under directory)) ·) := by
  refine List.filter_congr fun path _ => ?_
  rw [Bool.eq_iff_iff, evaluate_iff h, decide_eq_true_iff]

end Sequence
end TestSelection
