/-
# Patterns under a directory

A sequence may be scoped under a directory. Its globs are then joined to the directory at one slash,
whatever slashes stand at the back of the one and at the front of the other (`under_glob`), so a
scoped glob matches what the directory matches, a slash, and what the glob matches.

A directory in which nothing is special matches itself only, and a path below it leaves one rest. On
this rest the patterns decide as they do without the directory, each of them, so the last match is
the same one (`selected_under_iff`). No path anywhere else is selected (`evaluate_scoped`).
-/

import TestSelection.Proofs.Glob.Joining
import TestSelection.Proofs.Pattern.LastMatch

namespace TestSelection

/-- A directory without the slashes at its back. -/
def bareDirectory (directory : Text) : Text := Text.trimBack isSlash directory

namespace Pattern

/-- The pattern with its glob without the slashes at the front. -/
def unrooted (p : Pattern) : Pattern := { p with glob := p.glob.dropWhile isSlash }

variable {directory : Text} {p : Pattern} {patterns : List Pattern} {path : String}

/-- Under a directory a glob is written behind the directory and a slash, without the slashes at its
own front. -/
theorem under_glob (hd : directory ≠ []) :
    (p.under (some directory)).glob = bareDirectory directory ++ .char '/' :: p.unrooted.glob := by
  have hne : directory.isEmpty = false := by simpa using hd
  show underDirectory (some directory) p.glob = _
  rw [underDirectory, hne, joinDirectory, List.append_assoc]
  rfl

/-! ### Which globs are accepted -/

/-- Slashes at the front of a glob do not make it an accepted one. -/
theorem exists_ofText_dropWhile_iff {text : Text} :
    (∃ glob, Glob.ofText (text.dropWhile isSlash) = .ok glob) ↔
      ∃ glob, Glob.ofText text = .ok glob := by
  induction text with
  | nil => rfl
  | cons c text ih =>
    by_cases hc : isSlash c = true
    -- A slash is a token of its own, and does nothing to what follows.
    · obtain rfl : c = .char '/' := by simpa [isSlash] using hc
      rw [List.dropWhile_cons_of_pos hc, ih, Glob.ofText, Glob.ofText, Glob.tokenize_char rfl]
      cases Glob.tokenize text <;> simp [Except.map]
    · rw [List.dropWhile_cons_of_neg hc]

/-- Taking slashes from a directory leaves no character that needs a backslash if there was none. -/
theorem bareDirectory_literal (h : ∀ c ∈ directory, Glob.isEscapable c = false) :
    ∀ c ∈ bareDirectory directory, Glob.isEscapable c = false := by
  intro c hc
  have hm : c ∈ directory.reverse.dropWhile isSlash := List.mem_reverse.1 hc
  have hs := (List.dropWhile_suffix (p := isSlash) (l := directory.reverse)).subset hm
  exact h c (List.mem_reverse.1 hs)

/-- Under a directory in which nothing is special a glob is accepted if and only if it is accepted
by itself. -/
theorem exists_ofText_under_iff (hd : directory ≠ [])
    (h : ∀ c ∈ directory, Glob.isEscapable c = false) :
    (∃ glob, Glob.ofText (p.under (some directory)).glob = .ok glob) ↔
      ∃ glob, Glob.ofText p.unrooted.glob = .ok glob := by
  obtain ⟨a, ha, -⟩ := Glob.exists_ofText_of_literal (bareDirectory_literal h)
  rw [under_glob hd]
  constructor
  · rintro ⟨glob, hg⟩
    obtain ⟨-, b, -, hb, -⟩ := Glob.ofText_append_slash_eq_ok_iff.1 hg
    exact ⟨b, hb⟩
  · rintro ⟨b, hb⟩
    exact ⟨_, Glob.ofText_append_slash_eq_ok_iff.2 ⟨a, b, ha, hb, rfl⟩⟩

/-! ### Which paths are matched -/

/-- **Under a directory in which nothing is special, a pattern matches below that directory what it
matches by itself, and nothing else.** -/
theorem isMatch_under_iff (hd : directory ≠ []) (h : ∀ c ∈ directory, Glob.isEscapable c = false) :
    (p.under (some directory)).isMatch path = true ↔
      ∃ rest : String, Text.ofString path = bareDirectory directory ++ "/" ++ Text.ofString rest ∧
        p.unrooted.isMatch rest = true := by
  obtain ⟨a, ha, hlit⟩ := Glob.exists_ofText_of_literal (bareDirectory_literal h)
  cases hb : Glob.ofText p.unrooted.glob with
  | error r =>
    -- neither glob is an accepted one
    have hno : ¬ ∃ glob, Glob.ofText (p.under (some directory)).glob = .ok glob := by
      rw [exists_ofText_under_iff hd h, hb]
      rintro ⟨glob, hg⟩
      cases hg
    have hunder : (p.under (some directory)).isMatch path = false := by
      rw [isMatch]
      cases hu : Glob.ofText (p.under (some directory)).glob with
      | error => rfl
      | ok glob => exact absurd ⟨glob, hu⟩ hno
    have hown : ∀ rest, p.unrooted.isMatch rest = false := fun rest => by rw [isMatch, hb]
    simp [hunder, hown]
  | ok b =>
    have hj := Glob.ofText_append_slash_eq_ok_iff.2 ⟨a, b, ha, hb, rfl⟩
    have hu := under_glob (p := p) hd
    rw [isMatch_of_ofText (p := p.under (some directory)) (by rw [hu]; exact hj),
      Glob.isMatch_iff_of_append_slash ha hb hj]
    constructor
    · rintro ⟨x, rest, rfl, hx, hr⟩
      refine ⟨rest, ?_, by rwa [isMatch_of_ofText hb]⟩
      rw [Text.ofString_append, Text.ofString_append, (hlit x).1 hx]
    · rintro ⟨rest, hp, hr⟩
      rw [isMatch_of_ofText hb] at hr
      -- the part of the path before the rest holds characters only
      obtain ⟨cs, ds, hcs, hx, hds⟩ := List.map_eq_append_iff.1 hp
      obtain ⟨es, fs, rfl, he, hf⟩ := List.map_eq_append_iff.1 hx
      have hes : Text.ofString (String.ofList es) = bareDirectory directory := by
        rw [Text.ofString, String.toList_ofList]
        exact he
      refine ⟨String.ofList es, rest, ?_, (hlit _).2 hes, hr⟩
      rw [← Text.ofString_inj, hp, Text.ofString_append, Text.ofString_append, hes]

/-- The pattern that decides is the same one after every pattern was changed, if the changed ones
match this path where the others match that one. -/
theorem selected_map_congr {f g : Pattern → Pattern} {here there : String}
    (hf : ∀ p, (f p).tag = p.tag) (hg : ∀ p, (g p).tag = p.tag)
    (h : ∀ p ∈ patterns, (f p).isMatch here = (g p).isMatch there) :
    Selected (patterns.map f) here ↔ Selected (patterns.map g) there := by
  have hfind : patterns.reverse.find? ((·.isMatch here) ∘ f) =
      patterns.reverse.find? ((·.isMatch there) ∘ g) := by
    rw [← List.head?_filter, ← List.head?_filter]
    exact congrArg List.head? (List.filter_congr fun p hp => h p (List.mem_reverse.1 hp))
  have hselects : ∀ p, (f p).selects = (g p).selects := fun p => by
    rw [selects, selects, hf, hg]
  rw [selected_iff, selected_iff, decisive?_eq_find?, decisive?_eq_find?, ← List.map_reverse,
    ← List.map_reverse, List.find?_map, List.find?_map, hfind]
  cases patterns.reverse.find? ((·.isMatch there) ∘ g) with
  | none => rfl
  | some p => simp [hselects]

/-- A path that is selected is matched by some pattern. -/
theorem Selected.exists_isMatch (h : Selected patterns path) :
    ∃ p ∈ patterns, p.isMatch path = true := by
  obtain ⟨p, hp, -⟩ := h
  have hm := List.mem_filter.1 (List.mem_of_getLast? hp)
  exact ⟨p, hm.1, hm.2⟩

/-- **Under a directory in which nothing is special, patterns select below that directory what they
select by themselves, and nothing else.** -/
theorem selected_under_iff (hd : directory ≠ [])
    (h : ∀ c ∈ directory, Glob.isEscapable c = false) :
    Selected (patterns.map (·.under (some directory))) path ↔
      ∃ rest : String, Text.ofString path = bareDirectory directory ++ "/" ++ Text.ofString rest ∧
        Selected (patterns.map unrooted) rest := by
  -- A path below the directory leaves one rest, on which each pattern decides as it does by itself.
  have hsame : ∀ rest : String,
      Text.ofString path = bareDirectory directory ++ "/" ++ Text.ofString rest →
        (Selected (patterns.map (·.under (some directory))) path ↔
          Selected (patterns.map unrooted) rest) := by
    intro rest hp
    refine selected_map_congr (fun _ => rfl) (fun _ => rfl) fun p _ => ?_
    rw [Bool.eq_iff_iff, isMatch_under_iff hd h]
    constructor
    · rintro ⟨other, ho, hm⟩
      rw [hp] at ho
      rwa [Text.ofString_inj.1 (List.append_cancel_left ho)]
    · exact fun hm => ⟨rest, hp, hm⟩
  constructor
  · intro hs
    obtain ⟨q, hq, hm⟩ := hs.exists_isMatch
    obtain ⟨p, -, rfl⟩ := List.mem_map.1 hq
    obtain ⟨rest, hp, -⟩ := (isMatch_under_iff hd h).1 hm
    exact ⟨rest, hp, (hsame rest hp).1 hs⟩
  · rintro ⟨rest, hp, hs⟩
    exact (hsame rest hp).2 hs

end Pattern

namespace Sequence

open Pattern

variable {directory : Option Text}

/-- Patterns are compiled if and only if each glob is accepted where it is scoped. -/
theorem exists_compileReversed_iff {reversed : List Pattern} :
    (∃ matchers, compileReversed directory reversed = .ok matchers) ↔
      ∀ p ∈ reversed, ∃ glob, Glob.ofText (p.under directory).glob = .ok glob := by
  induction reversed with
  | nil => exact ⟨fun _ => nofun, fun _ => ⟨[], rfl⟩⟩
  | cons p rest ih =>
    rw [List.forall_mem_cons, ← ih]
    constructor
    · rintro ⟨matchers, h⟩
      obtain ⟨glob, others, hp, hr, -⟩ := compileReversed_cons.1 h
      exact ⟨⟨glob, hp⟩, others, hr⟩
    · rintro ⟨⟨glob, hp⟩, others, hr⟩
      exact ⟨_, compileReversed_cons.2 ⟨glob, others, hp, hr, rfl⟩⟩

/-- A sequence is compiled if each of its globs, under the directory, is accepted. -/
theorem exists_compile_iff {patterns : List Pattern} :
    (∃ s, compile patterns directory = .ok s) ↔
      ∀ p ∈ patterns, ∃ glob, Glob.ofText (p.under directory).glob = .ok glob := by
  have hr : (∃ matchers, compileReversed directory patterns.reverse = .ok matchers) ↔
      ∀ p ∈ patterns, ∃ glob, Glob.ofText (p.under directory).glob = .ok glob := by
    rw [exists_compileReversed_iff]
    simp only [List.mem_reverse]
  rw [← hr]
  constructor
  · rintro ⟨s, hs⟩
    obtain ⟨matchers, hm, -⟩ := Outcome.map_eq_ok_iff.1 hs
    exact ⟨matchers, hm⟩
  · rintro ⟨matchers, hm⟩
    exact ⟨⟨matchers⟩, by rw [compile, hm]; rfl⟩

/-- One pattern is compiled as its glob is read. -/
theorem compile_singleton (p : Pattern) :
    compile [p] directory =
      (Glob.ofText (p.under directory).glob).map fun glob => ⟨[⟨p.selects, glob⟩]⟩ := by
  show ((do
    let glob ← Glob.ofText (p.under directory).glob
    return [⟨p.selects, glob⟩] : Except Glob.Rejection (List Matcher)).map Sequence.mk) = _
  cases Glob.ofText (p.under directory).glob <;> rfl

/-- **What a directory does to the patterns under it.**  A glob is rejected under a directory for
the flaw of the directory, or else for its own; otherwise it matches what the directory matches, a
slash, and what it matches by itself. When nothing in the directory is special, some patterns
compile under it if and only if they compile, and they select the paths below it whose rest they
select by themselves. -/
theorem evaluate_scoped {directory : Text} (hd : directory ≠ []) :
    (∀ (p : Pattern) (r : Glob.Rejection), compile [p] (some directory) = .error r ↔
      r.glob = joinDirectory directory p.glob ∧
        (Glob.ofText (bareDirectory directory) = .error ⟨bareDirectory directory, r.flaw⟩ ∨
          (∃ a, Glob.ofText (bareDirectory directory) = .ok a) ∧
            Glob.ofText p.unrooted.glob = .error ⟨p.unrooted.glob, r.flaw⟩)) ∧
    (∀ (p : Pattern) (s : Sequence), compile [p] (some directory) = .ok s →
      ∃ a b glob, Glob.ofText (bareDirectory directory) = .ok a ∧
        Glob.ofText p.unrooted.glob = .ok b ∧ s.matchers = [⟨p.selects, glob⟩] ∧
          ∀ path : String, glob.isMatch path = true ↔
            ∃ x y, path = x ++ "/" ++ y ∧ a.isMatch x = true ∧ b.isMatch y = true) ∧
    ((∀ c ∈ directory, Glob.isEscapable c = false) → ∀ patterns : List Pattern,
      ((∃ s, compile patterns (some directory) = .ok s) ↔ ∃ s, compile patterns none = .ok s) ∧
        ∀ s, compile patterns (some directory) = .ok s →
          ∃ t, compile (patterns.map unrooted) none = .ok t ∧
            ∀ path : String, s.evaluate path = true ↔
              ∃ rest : String,
                Text.ofString path = bareDirectory directory ++ "/" ++ Text.ofString rest ∧
                  t.evaluate rest = true) := by
  have hjoin : ∀ p : Pattern, joinDirectory directory p.glob =
      bareDirectory directory ++ .char '/' :: p.unrooted.glob := fun p => List.append_assoc ..
  refine ⟨fun p r => ?_, fun p s hs => ?_, fun hlit patterns => ⟨?_, fun s hs => ?_⟩⟩
  · rw [compile_singleton, under_glob hd, hjoin, ← Glob.ofText_append_slash_eq_error_iff]
    cases Glob.ofText (bareDirectory directory ++ .char '/' :: p.unrooted.glob) <;>
      simp [Except.map]
  · rw [compile_singleton, under_glob hd] at hs
    obtain ⟨glob, hg, rfl⟩ := Outcome.map_eq_ok_iff.1 hs
    obtain ⟨a, b, ha, hb, -⟩ := Glob.ofText_append_slash_eq_ok_iff.1 hg
    exact ⟨a, b, glob, ha, hb, rfl, fun path => Glob.isMatch_iff_of_append_slash ha hb hg⟩
  · simp only [exists_compile_iff, under_none, exists_ofText_under_iff hd hlit, unrooted,
      exists_ofText_dropWhile_iff]
  · have hbare : ∀ p ∈ patterns.map unrooted,
        ∃ glob, Glob.ofText (p.under none).glob = .ok glob := by
      intro q hq
      obtain ⟨p, hp, rfl⟩ := List.mem_map.1 hq
      exact (exists_ofText_under_iff hd hlit).1 (exists_compile_iff.1 ⟨s, hs⟩ p hp)
    obtain ⟨t, ht⟩ := exists_compile_iff.2 hbare
    refine ⟨t, ht, fun path => ?_⟩
    have hnone : ((patterns.map unrooted).map (·.under none)) = patterns.map unrooted :=
      List.map_id' _
    rw [evaluate_iff hs, selected_under_iff hd hlit]
    simp only [evaluate_iff ht, hnone]

/-- Patterns with slashes at the front, the last of which takes back what the first selects. -/
def rootedPatterns : List Pattern := [⟨.bare, "//**?.rb"⟩, ⟨.excluded, "/old/*"⟩]

/-- Under `spec//` they select what they select by themselves, below `spec/`; under a directory that
ends in a backslash nothing is accepted. -/
theorem evaluate_scoped_rooted :
    Text.ofString "spec//" ≠ [] ∧ (∀ c ∈ Text.ofString "spec//", Glob.isEscapable c = false) ∧
    (∃ s t, compile rootedPatterns (some "spec//") = .ok s ∧
      compile (rootedPatterns.map unrooted) none = .ok t ∧
      s.evaluate "spec/a/b.rb" = true ∧ s.evaluate "spec/old/b.rb" = false ∧
      ∀ path : String, s.evaluate path = true ↔
        ∃ rest : String, Text.ofString path = bareDirectory "spec//" ++ "/" ++ Text.ofString rest ∧
          t.evaluate rest = true) ∧
    Text.ofString "x\\/" ≠ [] ∧
      compile [⟨.bare, "*"⟩] (some "x\\/") = .error ⟨joinDirectory "x\\/" "*", .badEscape⟩ := by
  have hlit : ∀ c ∈ Text.ofString "spec//", Glob.isEscapable c = false := by decide
  refine ⟨by decide, hlit, ?_, by decide, ?_⟩
  · obtain ⟨s, hs⟩ : ∃ s, compile rootedPatterns (some "spec//") = .ok s := ⟨_, rfl⟩
    obtain ⟨t, ht, h⟩ := ((evaluate_scoped (by decide)).2.2 hlit rootedPatterns).2 s hs
    refine ⟨s, t, hs, ht, ?_, ?_, h⟩
    · obtain rfl := Except.ok.inj hs
      decide
    · obtain rfl := Except.ok.inj hs
      decide
  · exact ((evaluate_scoped (by decide)).1 ⟨.bare, "*"⟩ ⟨joinDirectory "x\\/" "*", .badEscape⟩).2
      ⟨rfl, .inl rfl⟩

end Sequence
end TestSelection
