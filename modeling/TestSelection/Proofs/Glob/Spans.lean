/-
# The spans of a glob

What a glob matches, said without a procedure: a path falls into one span per token, in order
(`Spanned`). A token has its own rule for what it may stand for (`Token.Covers`), and a wildcard at
the start of a path component moreover stands for nothing that begins with a dot (`Token.Spans`).

`Glob.accepts` passes over a path character by character; `accepts_iff_spanned` says that it finds
spans exactly where there are some. `isMatch_iff_spanned` adds how the tokens are read from the text
of the glob.
-/

import TestSelection.Glob.Match
import TestSelection.Proofs.Glob.Reading
import TestSelection.Proofs.Glob.Visible

namespace TestSelection
namespace Glob

/-- What a token may stand for, wherever it is. -/
def Token.Covers : Token → Text → Prop
  | .char c, span => span = [c]
  | .one, span => ∃ c, span = [c] ∧ c ≠ .char '/'
  | .run, span => .char '/' ∉ span
  | .someRun, span => span ≠ [] ∧ .char '/' ∉ span
  | .deep, span => ¬ [Code.char '/', .char '.'] <:+: span
  | .someDeep, span => span ≠ [] ∧ ¬ [Code.char '/', .char '.'] <:+: span

/-- What a token may stand for; `start` says that a path component begins there, and then no
wildcard takes a dot first. -/
def Token.Spans (start : Bool) (t : Token) (span : Text) : Prop :=
  t.Covers span ∧ (start = true → t.isWildcard = true → span.head? ≠ some (.char '.'))

/-- A text that falls into one span per token, in order; `start` says that a path component begins
at the first of them. After that, one begins only after a token `/`. -/
inductive Spanned : Bool → List Token → Text → Prop
  | nil {start : Bool} : Spanned start [] []
  | cons {start : Bool} {t : Token} {ts : List Token} {span rest : Text} :
      t.Spans start span → Spanned t.endsComponent ts rest →
        Spanned start (t :: ts) (span ++ rest)

/-- Without tokens there is only the empty text. -/
@[simp] theorem spanned_nil_iff {start : Bool} {text : Text} :
    Spanned start [] text ↔ text = [] := by
  constructor
  · rintro ⟨⟩
    rfl
  · rintro rfl
    exact .nil

/-- The first span is cut off. From here on a proof need not open `Spanned`. -/
theorem spanned_cons_iff {start : Bool} {t : Token} {ts : List Token} {text : Text} :
    Spanned start (t :: ts) text ↔
      ∃ span rest, text = span ++ rest ∧ t.Spans start span ∧ Spanned t.endsComponent ts rest := by
  constructor
  · rintro (_ | ⟨hs, hr⟩)
    exact ⟨_, _, rfl, hs, hr⟩
  · rintro ⟨span, rest, rfl, hs, hr⟩
    exact .cons hs hr

/-! ### The spans of a wildcard, character by character -/

/-- For a wildcard, the rule about dots has no condition on the token left. -/
theorem Token.spans_wild {start : Bool} {t : Token} (h : t.isWildcard = true) {span : Text} :
    t.Spans start span ↔
      t.Covers span ∧ (start = true → span.head? ≠ some (.char '.')) := by
  simp [Token.Spans, h]

/-- `*` may stand for nothing, also where a component begins. -/
theorem Token.spans_run_nil (start : Bool) : Token.run.Spans start [] := by
  simp [Token.Spans, Token.Covers]

/-- A span of `*`, one character at a time: no slash, no dot at the start of a component, and after
the first character no component begins any more. -/
theorem Token.spans_run_cons {start : Bool} {c : Code} {span : Text} :
    Token.run.Spans start (c :: span) ↔
      c ≠ .char '/' ∧ (start = true → c ≠ .char '.') ∧ Token.run.Spans false span := by
  rw [Token.spans_wild rfl, Token.spans_wild rfl]
  simp only [Token.Covers, List.mem_cons, not_or, List.head?_cons, ne_eq, Option.some.injEq,
    eq_comm (a := Code.char '/')]
  tauto

/-- The spans of `**` are the texts without hidden components. -/
theorem Token.spans_deep_iff {start : Bool} {span : Text} :
    Token.deep.Spans start span ↔ Visible start span := by
  rw [Token.spans_wild rfl, Token.Covers, Visible, and_comm]

/-- The spans of `?`, with the rule about dots said of the one character that there is. -/
theorem Token.spans_one_iff {start : Bool} {span : Text} :
    Token.one.Spans start span ↔
      ∃ c, span = [c] ∧ c ≠ .char '/' ∧ (start = true → c ≠ .char '.') := by
  rw [Token.spans_wild rfl]
  constructor
  · rintro ⟨⟨c, rfl, hc⟩, hd⟩
    exact ⟨c, rfl, hc, by simpa using hd⟩
  · rintro ⟨c, rfl, hc, hd⟩
    exact ⟨⟨c, rfl, hc⟩, by simpa using hd⟩

/-- `*?` stands for what `*` stands for, except nothing. -/
theorem Token.spans_someRun_iff {start : Bool} {span : Text} :
    Token.someRun.Spans start span ↔ span ≠ [] ∧ Token.run.Spans start span := by
  rw [Token.spans_wild rfl, Token.spans_wild rfl, Token.Covers, Token.Covers, and_assoc]

/-- `**?` stands for what `**` stands for, except nothing. -/
theorem Token.spans_someDeep_iff {start : Bool} {span : Text} :
    Token.someDeep.Spans start span ↔ span ≠ [] ∧ Visible start span := by
  rw [Token.spans_wild rfl, Token.Covers, Visible]
  tauto

/-! ### Passing over one span -/

/-- The test of the matcher on one character is the rule about dots. -/
theorem wild_iff {start : Bool} {c : Char} :
    wild start c = true ↔ (start = true → Code.char c ≠ .char '.') := by
  cases start <;> simp [wild]

/-- A slash is told among characters as among code points. -/
theorem code_beq_slash (c : Char) : (Code.char c == .char '/') = (c == '/') := by
  rw [Bool.eq_iff_iff, beq_iff_eq, beq_iff_eq, Code.char.injEq]

section Passes

variable {test : List Char → Bool} {start : Bool} {P : List Char → Prop}

/-- A path that goes on is split before its first character or after it. -/
theorem exists_append_cons {c : Char} {path : List Char} :
    (∃ span rest, c :: path = span ++ rest ∧ P span ∧ test rest = true) ↔
      P [] ∧ test (c :: path) = true ∨
        ∃ span rest, path = span ++ rest ∧ P (c :: span) ∧ test rest = true := by
  constructor
  · rintro ⟨span, rest, he, hs, h⟩
    cases span with
    | nil => exact .inl ⟨hs, he ▸ h⟩
    | cons d span =>
      obtain ⟨rfl, rfl⟩ := List.cons.inj he
      exact .inr ⟨span, rest, rfl, hs, h⟩
  · rintro (⟨hs, h⟩ | ⟨span, rest, rfl, hs, h⟩)
    · exact ⟨[], c :: path, rfl, hs, h⟩
    · exact ⟨c :: span, rest, rfl, hs, h⟩

/-- A path at its end is split in one way only. -/
theorem exists_append_nil :
    (∃ span rest, [] = span ++ rest ∧ P span ∧ test rest = true) ↔ P [] ∧ test [] = true := by
  simp [and_assoc]

/-- The loop over a `*` finds every span of it. `start` is general in the induction, since the loop
turns the flag off after one character. -/
theorem passRun_iff {path : List Char} :
    passRun test start path = true ↔
      ∃ span rest, path = span ++ rest ∧ Token.run.Spans start (Text.ofChars span) ∧
        test rest = true := by
  induction path generalizing start with
  | nil =>
    rw [exists_append_nil, passRun]
    exact (and_iff_right (Token.spans_run_nil start)).symm
  | cons c path ih =>
    rw [exists_append_cons]
    simp only [passRun, Bool.or_eq_true, Bool.and_eq_true, bne_iff_ne, wild_iff, ih,
      Text.ofChars, List.map_nil, List.map_cons, Token.spans_run_nil, Token.spans_run_cons,
      true_and, ne_eq, Code.char.injEq]
    simp only [and_assoc, ← exists_and_left, and_left_comm]

/-- The loop over a `**` finds every visible span. The flag it carries on is the one of
`visible_cons`: a component begins after each slash. -/
theorem passDeep_iff {path : List Char} :
    passDeep test start path = true ↔
      ∃ span rest, path = span ++ rest ∧ Visible start (Text.ofChars span) ∧ test rest = true := by
  induction path generalizing start with
  | nil =>
    rw [exists_append_nil, passDeep]
    exact (and_iff_right (visible_nil start)).symm
  | cons c path ih =>
    rw [exists_append_cons]
    simp only [passDeep, Bool.or_eq_true, Bool.and_eq_true, wild_iff, ih, Text.ofChars,
      List.map_nil, List.map_cons, visible_nil, visible_cons, true_and, code_beq_slash]
    simp only [and_assoc, ← exists_and_left, and_left_comm]

/-- **A token passes over exactly its spans.** -/
theorem Token.passes_iff (t : Token) {path : List Char} :
    t.passes test start path = true ↔
      ∃ span rest, path = span ++ rest ∧ t.Spans start (Text.ofChars span) ∧
        test rest = true := by
  cases t with
  | char c =>
    cases path with
    | nil =>
      rw [exists_append_nil]
      simp [Token.passes, Token.Spans, Token.Covers, Text.ofChars]
    | cons d path =>
      rw [exists_append_cons]
      simp [Token.passes, Token.Spans, Token.Covers, Token.isWildcard, Text.ofChars, and_assoc]
  | one =>
    cases path with
    | nil =>
      rw [exists_append_nil]
      simp [Token.passes, Token.spans_one_iff, Text.ofChars]
    | cons d path =>
      rw [exists_append_cons]
      simp [Token.passes, Token.spans_one_iff, wild_iff, Text.ofChars, and_assoc]
  | run => exact passRun_iff
  -- The two tokens that may not be empty take one character and go on as the ones that may.
  | someRun =>
    cases path with
    | nil =>
      rw [exists_append_nil]
      simp [Token.passes, Token.spans_someRun_iff, Text.ofChars]
    | cons d path =>
      rw [exists_append_cons]
      simp only [Token.passes, Bool.and_eq_true, bne_iff_ne, wild_iff, passRun_iff, Text.ofChars,
        List.map_nil, List.map_cons, Token.spans_someRun_iff, Token.spans_run_cons, ne_eq,
        Code.char.injEq, not_true_eq_false, reduceCtorEq, not_false_eq_true, false_and, false_or,
        true_and]
      simp only [and_assoc, ← exists_and_left, and_left_comm]
  | deep =>
    simp only [Token.spans_deep_iff]
    exact passDeep_iff
  | someDeep =>
    cases path with
    | nil =>
      rw [exists_append_nil]
      simp [Token.passes, Token.spans_someDeep_iff, Text.ofChars]
    | cons d path =>
      rw [exists_append_cons]
      simp only [Token.passes, Bool.and_eq_true, wild_iff, passDeep_iff, Text.ofChars,
        List.map_nil, List.map_cons, Token.spans_someDeep_iff, visible_cons, code_beq_slash, ne_eq,
        not_true_eq_false, reduceCtorEq, not_false_eq_true, false_and, false_or, true_and]
      simp only [and_assoc, ← exists_and_left, and_left_comm]

end Passes

/-! ### Passing over all spans -/

/-- **The tokens accept exactly the paths that fall into their spans.** -/
theorem accepts_iff_spanned {start : Bool} {ts : List Token} {path : List Char} :
    accepts start ts path = true ↔ Spanned start ts (Text.ofChars path) := by
  induction ts generalizing start path with
  | nil => simp [accepts, Text.ofChars]
  | cons t ts ih =>
    rw [accepts, Token.passes_iff, spanned_cons_iff]
    constructor
    · rintro ⟨span, rest, rfl, hs, h⟩
      exact ⟨_, _, List.map_append, hs, ih.1 h⟩
    · rintro ⟨span, rest, he, hs, h⟩
      obtain ⟨cs, ds, rfl, rfl, rfl⟩ := List.map_eq_append_iff.1 he
      exact ⟨cs, ds, rfl, hs, ih.2 h⟩

/-- An accepted glob holds its text and the tokens that are read from it, and nothing else is
accepted. -/
theorem ofText_eq_ok_iff {text : Text} {glob : Glob} :
    Glob.ofText text = .ok glob ↔ glob.text = text ∧ Reads text glob.tokens := by
  rw [← tokenize_eq_ok_iff, Glob.ofText]
  obtain ⟨_, tokens⟩ := glob
  cases tokenize text <;> simp [eq_comm]

/-- **A glob matches exactly the paths that fall into its spans.**  The text of an accepted glob
can be read from its front in one way only, and a path is matched as a whole if and only if it is
one span of each token read, in order. -/
theorem isMatch_iff_spanned {text : Text} {glob : Glob} (h : Glob.ofText text = .ok glob) :
    ∃ ts, (∀ us, Reads text us ↔ us = ts) ∧
      ∀ path : String, glob.isMatch path = true ↔ Spanned true ts (Text.ofString path) := by
  obtain ⟨-, hr⟩ := ofText_eq_ok_iff.1 h
  refine ⟨glob.tokens, fun us => ⟨fun hu => ?_, fun hu => hu ▸ hr⟩, fun path => accepts_iff_spanned⟩
  exact Except.ok.inj (hu.tokenize_eq.symm.trans hr.tokenize_eq)

/-- A run of three stars and a `?` are one token, and a path that the glob matches has spans. -/
theorem isMatch_iff_spanned_stars :
    ∃ glob, Glob.ofText (Text.ofString "a/***?/\\*") = .ok glob ∧
      glob.isMatch "a/b/c/*" = true ∧ glob.isMatch "a/b/.c/*" = false ∧
      ∃ ts, (∀ us, Reads (Text.ofString "a/***?/\\*") us ↔ us = ts) ∧
        ∀ path : String, glob.isMatch path = true ↔ Spanned true ts (Text.ofString path) :=
  ⟨_, rfl, by decide, by decide, isMatch_iff_spanned rfl⟩

end Glob
end TestSelection
