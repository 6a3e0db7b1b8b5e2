/-
# Patterns after patterns

What becomes of a list of patterns when others are declared after it, as those of a profile are
after those at the top of the configuration. The later ones decide where any of them matches, and
nothing changes anywhere else (`evaluate_append`). So a later `exclude` takes away the paths that it
matches and any other later pattern adds them, whatever came before.

A sequence is compiled from the last pattern on, so the matchers of the later patterns stand in
front (`compile_append_eq_ok_iff`), and the first match among them is found before any other one.
-/

import TestSelection.Proofs.Pattern.LastMatch

namespace TestSelection
namespace Sequence

variable {directory : Option Text} {path : String} {p : Pattern} {a b : List Pattern}
  {s t r : Sequence}

/-! ### Which matchers there are -/

/-- The matchers of one list of patterns after those of another one. -/
theorem compileReversed_append_eq_ok_iff {later earlier : List Pattern} {matchers : List Matcher} :
    compileReversed directory (later ++ earlier) = .ok matchers ↔
      ∃ front back, compileReversed directory later = .ok front ∧
        compileReversed directory earlier = .ok back ∧ matchers = front ++ back := by
  induction later generalizing matchers with
  | nil =>
    constructor
    · exact fun h => ⟨[], matchers, rfl, h, rfl⟩
    · rintro ⟨front, back, hf, hb, rfl⟩
      obtain rfl : [] = front := Except.ok.inj hf
      exact hb
  | cons p later ih =>
    rw [List.cons_append, compileReversed_cons]
    constructor
    · rintro ⟨glob, others, hp, ho, rfl⟩
      obtain ⟨front, back, hf, hb, rfl⟩ := ih.1 ho
      exact ⟨_, back, compileReversed_cons.2 ⟨glob, front, hp, hf, rfl⟩, hb, rfl⟩
    · rintro ⟨front, back, hf, hb, rfl⟩
      obtain ⟨glob, others, hp, ho, rfl⟩ := compileReversed_cons.1 hf
      exact ⟨glob, others ++ back, hp, ih.2 ⟨others, back, ho, hb, rfl⟩, rfl⟩

/-- **The later patterns stand in front.**  Patterns after patterns compile if and only if both
parts do, and the matchers of the later ones are tried first. -/
theorem compile_append_eq_ok_iff :
    compile (a ++ b) directory = .ok r ↔
      ∃ s t, compile a directory = .ok s ∧ compile b directory = .ok t ∧
        r = ⟨t.matchers ++ s.matchers⟩ := by
  simp only [compile, List.reverse_append, Outcome.map_eq_ok_iff, compileReversed_append_eq_ok_iff]
  constructor
  · rintro ⟨matchers, ⟨front, back, hf, hb, rfl⟩, rfl⟩
    exact ⟨⟨back⟩, ⟨front⟩, ⟨back, hb, rfl⟩, ⟨front, hf, rfl⟩, rfl⟩
  · rintro ⟨s, t, ⟨back, hb, rfl⟩, ⟨front, hf, rfl⟩, rfl⟩
    exact ⟨front ++ back, ⟨front, back, hf, hb, rfl⟩, rfl⟩

/-- Some matcher matches a path if and only if some pattern does, under the same directory. -/
theorem any_isMatch_of_compileReversed {reversed : List Pattern} {matchers : List Matcher}
    (h : compileReversed directory reversed = .ok matchers) :
    matchers.any (·.glob.isMatch path) =
      reversed.any fun p => (p.under directory).isMatch path := by
  induction reversed generalizing matchers with
  | nil =>
    obtain rfl : [] = matchers := Except.ok.inj h
    rfl
  | cons p reversed ih =>
    obtain ⟨glob, others, hp, hr, rfl⟩ := compileReversed_cons.1 h
    rw [List.any_cons, List.any_cons, ih hr, Pattern.isMatch_of_ofText hp]

/-- Some matcher of a sequence matches a path if and only if some pattern of it does. -/
theorem any_isMatch_iff (h : compile a directory = .ok s) :
    s.matchers.any (·.glob.isMatch path) = true ↔
      ∃ p ∈ a, (p.under directory).isMatch path = true := by
  obtain ⟨matchers, hm, rfl⟩ := Outcome.map_eq_ok_iff.1 h
  rw [any_isMatch_of_compileReversed hm, List.any_reverse, List.any_eq_true]

/-! ### Which of them decides -/

/-- The matchers in front decide if one of them matches, and else those behind them. -/
theorem decides_append (front back : List Matcher) :
    decides path (front ++ back) =
      if front.any (·.glob.isMatch path) then decides path front else decides path back := by
  induction front with
  | nil => rfl
  | cons m front ih =>
    rw [List.cons_append, decides, decides, List.any_cons, ih]
    cases m.glob.isMatch path <;> rfl

/-- Where no matcher matches, nothing is selected. -/
theorem decides_of_not_any {matchers : List Matcher}
    (h : matchers.any (·.glob.isMatch path) = false) : decides path matchers = false := by
  induction matchers with
  | nil => rfl
  | cons m matchers ih =>
    rw [List.any_cons, Bool.or_eq_false_iff] at h
    rw [decides, h.1]
    exact ih h.2

/-- One pattern alone selects what it matches, unless it is an `exclude`. -/
theorem evaluate_of_compile_singleton (h : compile [p] directory = .ok t) :
    t.evaluate path = ((p.under directory).isMatch path && p.selects) := by
  obtain ⟨matchers, hm, rfl⟩ := Outcome.map_eq_ok_iff.1 h
  obtain ⟨glob, others, hp, ho, rfl⟩ := compileReversed_cons.1 hm
  obtain rfl : [] = others := Except.ok.inj ho
  rw [evaluate, decides, Pattern.isMatch_of_ofText hp]
  cases glob.isMatch path <;> rfl

/-- **Later patterns decide.**  Patterns that are declared after others decide about the paths that
one of them matches, and leave the others to decide about the rest; a path that no pattern matches
is not selected. One more pattern at the end takes its paths away if it is an `exclude`, and
otherwise adds them. -/
theorem evaluate_append (ha : compile a directory = .ok s) (hb : compile b directory = .ok t) :
    ∃ r, compile (a ++ b) directory = .ok r ∧ ∀ path : String,
      ((∃ p ∈ b, (p.under directory).isMatch path = true) → r.evaluate path = t.evaluate path) ∧
      ((∀ p ∈ b, (p.under directory).isMatch path = false) → r.evaluate path = s.evaluate path) ∧
      ((∀ p ∈ a, (p.under directory).isMatch path = false) → s.evaluate path = false) ∧
      ∀ p, b = [p] →
        (p.tag ≠ .excluded → (r.evaluate path = true ↔
          s.evaluate path = true ∨ (p.under directory).isMatch path = true)) ∧
        (p.tag = .excluded → (r.evaluate path = true ↔
          s.evaluate path = true ∧ (p.under directory).isMatch path = false)) := by
  have hnone : ∀ {c : List Pattern} {u : Sequence} {path : String},
      compile c directory = .ok u → (∀ p ∈ c, (p.under directory).isMatch path = false) →
        u.matchers.any (·.glob.isMatch path) = false := by
    intro c u path hu h
    rw [Bool.eq_false_iff, Ne, any_isMatch_iff hu]
    rintro ⟨p, hp, hm⟩
    rw [h p hp] at hm
    cases hm
  refine ⟨⟨t.matchers ++ s.matchers⟩, compile_append_eq_ok_iff.2 ⟨s, t, ha, hb, rfl⟩,
    fun path => ?_⟩
  have hsome : (∃ p ∈ b, (p.under directory).isMatch path = true) →
      evaluate ⟨t.matchers ++ s.matchers⟩ path = t.evaluate path := fun h => by
    rw [evaluate, decides_append, if_pos ((any_isMatch_iff hb).2 h), evaluate]
  have hrest : (∀ p ∈ b, (p.under directory).isMatch path = false) →
      evaluate ⟨t.matchers ++ s.matchers⟩ path = s.evaluate path := fun h => by
    rw [evaluate, decides_append, hnone hb h, if_neg Bool.false_ne_true, evaluate]
  refine ⟨hsome, hrest, fun h => decides_of_not_any (hnone ha h), ?_⟩
  rintro p rfl
  -- one pattern: it matches the path and decides, or it does not and `s` decides
  have hr : evaluate ⟨t.matchers ++ s.matchers⟩ path =
      if (p.under directory).isMatch path then p.selects else s.evaluate path := by
    cases hp : (p.under directory).isMatch path with
    | true =>
      rw [hsome ⟨p, List.mem_singleton_self p, hp⟩, evaluate_of_compile_singleton hb, hp]
      rfl
    | false =>
      rw [hrest fun q hq => List.mem_singleton.1 hq ▸ hp]
      rfl
  rw [hr]
  constructor
  · intro htag
    rw [Pattern.selects_iff.2 htag]
    cases (p.under directory).isMatch path <;> simp
  · intro htag
    have hselects : p.selects = false := by rw [Pattern.selects, htag]; rfl
    rw [hselects]
    cases (p.under directory).isMatch path <;> simp

/-- Under `spec/`, an `exclude` after a pattern for all files takes away those of one directory. -/
theorem evaluate_append_exclude :
    ∃ s t r, compile [⟨.bare, "**?.rb"⟩] (some "spec/") = .ok s ∧
      compile [⟨.excluded, "old/**"⟩] (some "spec/") = .ok t ∧
      compile ([⟨.bare, "**?.rb"⟩] ++ [⟨.excluded, "old/**"⟩]) (some "spec/") = .ok r ∧
      s.evaluate "spec/old/b.rb" = true ∧ r.evaluate "spec/old/b.rb" = false ∧
      r.evaluate "spec/new/b.rb" = true ∧ r.evaluate "new/b.rb" = false := by
  obtain ⟨s, hs⟩ : ∃ s, compile [⟨.bare, "**?.rb"⟩] (some "spec/") = .ok s := ⟨_, rfl⟩
  obtain ⟨t, ht⟩ : ∃ t, compile [⟨.excluded, "old/**"⟩] (some "spec/") = .ok t := ⟨_, rfl⟩
  obtain ⟨r, hr, h⟩ := evaluate_append hs ht
  have hexclude := fun path => (((h path).2.2.2 _ rfl).2 rfl)
  have hold : s.evaluate "spec/old/b.rb" = true := by
    obtain rfl := Except.ok.inj hs
    decide
  refine ⟨s, t, r, hs, ht, hr, hold, ?_, (hexclude _).2 ⟨?_, by decide⟩, ?_⟩
  · exact Bool.eq_false_iff.2 fun he => absurd ((hexclude _).1 he).2 (by decide)
  · obtain rfl := Except.ok.inj hs
    decide
  · rw [(h "new/b.rb").2.1 (by decide), (h "new/b.rb").2.2.1 (by decide)]

end Sequence
end TestSelection
