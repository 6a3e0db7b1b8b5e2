/-
# Globs joined at a slash

A slash between two globs keeps them apart. No run of stars goes across it and a backslash before it
is rejected, so the joined glob has the tokens of the first, a token `/`, and the tokens of the
second (`tokenize_append_slash`). After the token `/` a path component begins, as it does at the
front of a glob, so the joined glob matches what the one matches, a slash, and what the other
matches (`isMatch_iff_of_append_slash`).

A glob in which nothing is special stands for itself (`isMatch_iff_of_literal`).
-/

import TestSelection.Proofs.Glob.Spans

namespace TestSelection
namespace Glob

/-! ### Tokens -/

/-- A star in front of some tokens stops at the first character token. -/
theorem star_append_char (ts us : List Token) (c : Code) :
    star (ts ++ .char c :: us) = star ts ++ .char c :: us := by
  cases ts with
  | nil => rfl
  | cons t ts => cases t <;> rfl

/-- Joined results with a change to the first of them. -/
theorem map_join {f : List Token → List Token} {sep : Token}
    (hf : ∀ a b, f (a ++ sep :: b) = f a ++ sep :: b) (x y : Except Flaw (List Token)) :
    ((do return (← x) ++ sep :: (← y)) : Except Flaw (List Token)).map f =
      (do return (← x.map f) ++ sep :: (← y)) := by
  cases x with
  | error => rfl
  | ok a =>
    cases y with
    | error => rfl
    | ok b => exact congrArg Except.ok (hf a b)

/-- **The tokens of two globs with a slash between them** are those of the first, a slash, and those
of the second, and the flaw of the first comes before that of the second. -/
theorem tokenize_append_slash (u v : Text) :
    tokenize (u ++ .char '/' :: v) =
      (do return (← tokenize u) ++ .char (.char '/') :: (← tokenize v)) := by
  fun_induction tokenize u with
  | case1 =>
    rw [List.nil_append, tokenize_char rfl]
    cases tokenize v <;> rfl
  | case2 c rest hc ih =>
    rw [List.cons_append, List.cons_append, tokenize_escaped hc, ih, map_join fun _ _ => rfl]
  | case3 c rest hc =>
    rw [List.cons_append, List.cons_append, tokenize, if_neg hc]
    rfl
  | case4 =>
    -- the backslash at the end of the first glob comes to stand before the slash
    rw [List.cons_append, List.nil_append, tokenize]
    rfl
  | case5 => rfl
  | case6 rest ih => rw [List.cons_append, tokenize_one, ih, map_join fun _ _ => rfl]
  | case7 rest ih =>
    rw [List.cons_append, tokenize_star, ih, map_join fun a b => star_append_char a b _]
  | case8 c rest h₁ h₂ h₃ h₄ h₅ ih =>
    have hc := not_isEscapable_of_last h₁ h₂ h₃ h₄ h₅
    rw [List.cons_append, tokenize_char hc, ih, map_join fun _ _ => rfl]

/-! ### Paths -/

/-- A slash of a glob stands for a slash of the path, and a component begins after it. So the tokens
on its two sides are matched apart, each with a start of its own. -/
theorem accepts_append_slash {start : Bool} {ts us : List Token} {path : List Char} :
    accepts start (ts ++ .char (.char '/') :: us) path = true ↔
      ∃ x y, path = x ++ '/' :: y ∧ accepts start ts x = true ∧ accepts true us y = true := by
  induction ts generalizing start path with
  | nil =>
    cases path with
    | nil => simp [accepts, Token.passes]
    | cons c path =>
      simp only [List.nil_append, accepts, Token.passes, Token.endsComponent, beq_self_eq_true,
        Bool.and_eq_true, beq_iff_eq, Code.char.injEq, List.isEmpty_iff]
      constructor
      · rintro ⟨rfl, h⟩
        exact ⟨[], path, rfl, rfl, h⟩
      · rintro ⟨x, y, he, rfl, h⟩
        obtain ⟨rfl, rfl⟩ := List.cons.inj he
        exact ⟨rfl, h⟩
  | cons t ts ih =>
    rw [List.cons_append, accepts, Token.passes_iff]
    constructor
    · rintro ⟨span, rest, rfl, hs, h⟩
      obtain ⟨x, y, rfl, hx, hy⟩ := ih.1 h
      refine ⟨span ++ x, y, (List.append_assoc ..).symm, ?_, hy⟩
      exact (Token.passes_iff t).2 ⟨span, x, rfl, hs, hx⟩
    · rintro ⟨x, y, rfl, hx, hy⟩
      obtain ⟨span, rest, rfl, hs, h⟩ := (Token.passes_iff t).1 hx
      exact ⟨span, rest ++ '/' :: y, List.append_assoc .., hs, ih.2 ⟨rest, y, rfl, h, hy⟩⟩

variable {u v : Text} {a b glob : Glob}

/-- A rejection holds the whole glob, and its flaw is the one that the tokenizer found. -/
theorem ofText_eq_error_iff {text : Text} {r : Rejection} :
    Glob.ofText text = .error r ↔ r.glob = text ∧ tokenize text = .error r.flaw := by
  obtain ⟨_, flaw⟩ := r
  rw [Glob.ofText]
  cases tokenize text <;> simp [eq_comm]

/-- Two globs with a slash between them are accepted if and only if both are. -/
theorem ofText_append_slash_eq_ok_iff :
    Glob.ofText (u ++ .char '/' :: v) = .ok glob ↔
      ∃ a b, Glob.ofText u = .ok a ∧ Glob.ofText v = .ok b ∧
        glob = ⟨u ++ .char '/' :: v, a.tokens ++ .char (.char '/') :: b.tokens⟩ := by
  rw [Glob.ofText, tokenize_append_slash, Glob.ofText, Glob.ofText]
  cases tokenize u with
  | error => simp [bind, Except.bind]
  | ok ts =>
    cases tokenize v with
    | error => simp [bind, Except.bind]
    | ok us => simp [bind, Except.bind, pure, Except.pure, eq_comm]

/-- **When two globs with a slash between them are rejected:** for the flaw of the first, or else
for that of the second. -/
theorem ofText_append_slash_eq_error_iff {r : Rejection} :
    Glob.ofText (u ++ .char '/' :: v) = .error r ↔
      r.glob = u ++ .char '/' :: v ∧
        (Glob.ofText u = .error ⟨u, r.flaw⟩ ∨
          (∃ a, Glob.ofText u = .ok a) ∧ Glob.ofText v = .error ⟨v, r.flaw⟩) := by
  rw [ofText_eq_error_iff, tokenize_append_slash, Glob.ofText, Glob.ofText]
  cases tokenize u with
  | error => simp [bind, Except.bind]
  | ok ts => cases tokenize v <;> simp [bind, Except.bind, pure, Except.pure]

/-- **What two globs with a slash between them match.** -/
theorem isMatch_iff_of_append_slash (ha : Glob.ofText u = .ok a) (hb : Glob.ofText v = .ok b)
    (h : Glob.ofText (u ++ .char '/' :: v) = .ok glob) {path : String} :
    glob.isMatch path = true ↔
      ∃ x y, path = x ++ "/" ++ y ∧ a.isMatch x = true ∧ b.isMatch y = true := by
  obtain ⟨a', b', ha', hb', rfl⟩ := ofText_append_slash_eq_ok_iff.1 h
  obtain rfl := Except.ok.inj (ha.symm.trans ha')
  obtain rfl := Except.ok.inj (hb.symm.trans hb')
  rw [Glob.isMatch, accepts_append_slash]
  constructor
  · rintro ⟨x, y, hp, hx, hy⟩
    refine ⟨String.ofList x, String.ofList y, ?_, ?_, ?_⟩
    · rw [← String.toList_inj]
      simpa using hp
    · rwa [Glob.isMatch, String.toList_ofList]
    · rwa [Glob.isMatch, String.toList_ofList]
  · rintro ⟨x, y, rfl, hx, hy⟩
    exact ⟨x.toList, y.toList, by simp, hx, hy⟩

/-! ### Globs in which nothing is special -/

/-- A text in which nothing needs a backslash is read as itself. -/
theorem tokenize_of_literal (h : ∀ c ∈ u, isEscapable c = false) :
    tokenize u = .ok (u.map .char) := by
  induction u with
  | nil => rfl
  | cons c u ih =>
    rw [tokenize_char (h c (List.mem_cons_self ..)), ih fun d hd => h d (List.mem_cons_of_mem _ hd)]
    rfl

/-- Character tokens accept their own characters and no other path. -/
theorem accepts_of_literal {start : Bool} {path : List Char} :
    accepts start (u.map .char) path = true ↔ Text.ofChars path = u := by
  induction u generalizing start path with
  | nil => simp [accepts, Text.ofChars]
  | cons c u ih =>
    cases path with
    | nil => simp [accepts, Token.passes, Text.ofChars]
    | cons d path =>
      simp only [List.map_cons, accepts, Token.passes, Bool.and_eq_true, beq_iff_eq, ih,
        Text.ofChars, List.cons.injEq]

/-- A glob in which nothing is special is accepted and matches itself only. -/
theorem exists_ofText_of_literal (h : ∀ c ∈ u, isEscapable c = false) :
    ∃ glob, Glob.ofText u = .ok glob ∧
      ∀ path : String, glob.isMatch path = true ↔ Text.ofString path = u :=
  ⟨⟨u, u.map .char⟩, by rw [Glob.ofText, tokenize_of_literal h], fun _ => accepts_of_literal⟩

end Glob
end TestSelection
