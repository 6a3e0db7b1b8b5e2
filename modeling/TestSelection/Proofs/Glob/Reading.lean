/-
# Reading a glob from its front

`Glob.tokenize` finds the tokens of a glob from its back and joins the stars one at a time. Here the
glob is read from its front, as it is explained to those who write one: a run of stars is taken as a
whole, together with a `?` that directly follows it, a backslash with the character after it, and
any other character alone (`Reads`).

Both are the same (`tokenize_eq_ok_iff`), so the tokens of a glob are the only ones that it can be
read as. A character that needs no backslash is a token exactly where it stands in the text
(`Reads.mem_iff`), and a wildcard never directly follows `*` or `**` (`Reads.not_wild_after`).
-/

import TestSelection.Glob.Token
import TestSelection.Proofs.Outcome
import Mathlib.Data.List.Chain

namespace TestSelection
namespace Glob

/-- Whether a wildcard is written at the front of a text. -/
def BeginsWild (text : Text) : Prop :=
  text.head? = some (.char '*') ∨ text.head? = some (.char '?')

/-- The tokens that a glob is read as from its front. -/
inductive Reads : Text → List Token → Prop
  | nil : Reads [] []
  /-- None of `?`, `*`, `\` and `[` stands for itself. -/
  | char {c : Code} {rest : Text} {ts : List Token} :
      isEscapable c = false → Reads rest ts → Reads (c :: rest) (.char c :: ts)
  | escaped {c : Code} {rest : Text} {ts : List Token} :
      isEscapable c = true → Reads rest ts → Reads (.char '\\' :: c :: rest) (.char c :: ts)
  | one {rest : Text} {ts : List Token} :
      Reads rest ts → Reads (.char '?' :: rest) (.one :: ts)
  | run {rest : Text} {ts : List Token} :
      ¬ BeginsWild rest → Reads rest ts → Reads (.char '*' :: rest) (.run :: ts)
  | someRun {rest : Text} {ts : List Token} :
      Reads rest ts → Reads (.char '*' :: .char '?' :: rest) (.someRun :: ts)
  | deep {n : Nat} {rest : Text} {ts : List Token} :
      2 ≤ n → ¬ BeginsWild rest → Reads rest ts →
        Reads (List.replicate n (.char '*') ++ rest) (.deep :: ts)
  | someDeep {n : Nat} {rest : Text} {ts : List Token} :
      2 ≤ n → Reads rest ts →
        Reads (List.replicate n (.char '*') ++ .char '?' :: rest) (.someDeep :: ts)

/-- Whether a token stands for characters that the glob leaves open. -/
def Token.isWildcard : Token → Bool
  | .char _ => false
  | _ => true

/-! ### One step of the reader -/

/-- A character that needs no backslash is one token, and what follows it is read on its own. The
equations of this section say what the reader does with each symbol of a glob. -/
theorem tokenize_char {c : Code} (h : isEscapable c = false) (rest : Text) :
    tokenize (c :: rest) = (tokenize rest).map (.char c :: ·) := by
  rw [tokenize.eq_def]
  split <;> simp_all [isEscapable]

/-- The character that the last equation of `tokenize` is about is not special. -/
theorem not_isEscapable_of_last {c : Code} {text : Text}
    (h₁ : ∀ d rest, c = .char '\\' → text = d :: rest → False)
    (h₂ : c = .char '\\' → text = [] → False) (h₃ : c = .char '[' → False)
    (h₄ : c = .char '?' → False) (h₅ : c = .char '*' → False) : isEscapable c = false := by
  have hb : c ≠ .char '\\' := by
    rintro rfl
    cases text with
    | nil => exact h₂ rfl rfl
    | cons d rest => exact h₁ d rest rfl rfl
  simp only [isEscapable, Bool.or_eq_false_iff, beq_eq_false_iff_ne]
  exact ⟨⟨⟨h₄, h₅⟩, hb⟩, h₃⟩

/-- A backslash and the character after it are one token together. -/
theorem tokenize_escaped {c : Code} (h : isEscapable c = true) (rest : Text) :
    tokenize (.char '\\' :: c :: rest) = (tokenize rest).map (.char c :: ·) := by
  simp [tokenize, h]

/-- A question mark is a token of its own here: only a star in front of it joins it. -/
theorem tokenize_one (rest : Text) :
    tokenize (.char '?' :: rest) = (tokenize rest).map (.one :: ·) := by
  simp [tokenize]

/-- A star is joined with the tokens that have already been read behind it. -/
theorem tokenize_star (rest : Text) :
    tokenize (.char '*' :: rest) = (tokenize rest).map star := by
  simp [tokenize]

/-- The stars of a run are put in front one at a time. -/
theorem tokenize_replicate {rest : Text} {ts : List Token} (h : tokenize rest = .ok ts) (n : Nat) :
    tokenize (List.replicate n (.char '*') ++ rest) = .ok (star^[n] ts) := by
  induction n with
  | zero => simpa using h
  | succ n ih =>
    rw [List.replicate_succ, List.cons_append, tokenize_star, ih, Function.iterate_succ_apply']
    rfl

/-- `**` takes any number of stars in front of it without becoming another token. -/
theorem star_iterate_deep (n : Nat) (ts : List Token) :
    star^[n] (.deep :: ts) = .deep :: ts := by
  induction n with
  | zero => rfl
  | succ n ih => rw [Function.iterate_succ_apply, star, ih]

/-- `**?` takes any number of stars in front of it without becoming another token. -/
theorem star_iterate_someDeep (n : Nat) (ts : List Token) :
    star^[n] (.someDeep :: ts) = .someDeep :: ts := by
  induction n with
  | zero => rfl
  | succ n ih => rw [Function.iterate_succ_apply, star, ih]

/-! ### The two readings agree -/

/-- A wildcard token is written with a wildcard character at the front. The stars of a run are at
least two, so there is a first one. -/
theorem Reads.beginsWild {text : Text} {w : Token} {ts : List Token} (h : Reads text (w :: ts))
    (hw : w.isWildcard = true) : BeginsWild text := by
  cases h with
  | char => cases hw
  | escaped => cases hw
  | one => exact .inr rfl
  | run => exact .inl rfl
  | someRun => exact .inl rfl
  | @deep n _ _ hn =>
    obtain ⟨k, rfl⟩ := Nat.exists_eq_add_of_le' hn
    exact .inl (by simp [List.replicate_succ])
  | @someDeep n _ _ hn =>
    obtain ⟨k, rfl⟩ := Nat.exists_eq_add_of_le' hn
    exact .inl (by simp [List.replicate_succ])

/-- A star in front of a glob joins the wildcard that the glob begins with. -/
theorem Reads.star {text : Text} {ts : List Token} (h : Reads text ts) :
    Reads (.char '*' :: text) (Glob.star ts) := by
  cases h with
  | nil => exact .run (by simp [BeginsWild]) .nil
  | char hc h => exact .run (by rintro (h | h) <;> simp_all [isEscapable]) (.char hc h)
  | escaped hc h => exact .run (by simp [BeginsWild]) (.escaped hc h)
  | one h => exact .someRun h
  | run hn h => exact .deep (n := 2) le_rfl hn h
  | someRun h => exact .someDeep (n := 2) le_rfl h
  | deep hn hr h => exact .deep (Nat.le_succ_of_le hn) hr h
  | someDeep hn h => exact .someDeep (Nat.le_succ_of_le hn) h

/-- A star in front of a glob that does not begin with a wildcard is a token of its own. -/
theorem Reads.star_eq {text : Text} {ts : List Token} (h : Reads text ts)
    (hw : ¬ BeginsWild text) : Glob.star ts = .run :: ts := by
  cases ts with
  | nil => rfl
  | cons t ts =>
    cases t with
    | char => rfl
    | one | run | someRun | deep | someDeep => exact absurd (h.beginsWild rfl) hw

/-- What is read from the front is what the tokenizer finds from the back. -/
theorem Reads.tokenize_eq {text : Text} {ts : List Token} (h : Reads text ts) :
    tokenize text = .ok ts := by
  induction h with
  | nil => rfl
  | char hc _ ih => rw [tokenize_char hc, ih]; rfl
  | escaped hc _ ih => rw [tokenize_escaped hc, ih]; rfl
  | one _ ih => rw [tokenize_one, ih]; rfl
  | run hw h ih => rw [tokenize_star, ih, ← h.star_eq hw]; rfl
  | someRun _ ih => rw [tokenize_star, tokenize_one, ih]; rfl
  | @deep n _ ts hn hw h ih =>
    -- the last star is a token of its own, and the second last makes it deep
    obtain ⟨k, rfl⟩ := Nat.exists_eq_add_of_le' hn
    rw [tokenize_replicate ih, Function.iterate_add_apply]
    show Except.ok (Glob.star^[k] (Glob.star (Glob.star ts))) = _
    rw [h.star_eq hw, Glob.star, star_iterate_deep]
  | @someDeep n rest ts hn _ ih =>
    obtain ⟨k, rfl⟩ := Nat.exists_eq_add_of_le' hn
    have h : tokenize (.char '?' :: rest) = .ok (.one :: ts) := by rw [tokenize_one, ih]; rfl
    rw [tokenize_replicate h, Function.iterate_add_apply]
    show Except.ok (Glob.star^[k] (Glob.star (Glob.star (.one :: ts)))) = _
    rw [Glob.star, Glob.star, star_iterate_someDeep]

/-- What the tokenizer finds from the back can be read from the front. The induction is on its
recursion, and a star that it joins is `Reads.star`. -/
theorem reads_of_tokenize_eq {text : Text} {ts : List Token} (h : tokenize text = .ok ts) :
    Reads text ts := by
  fun_induction tokenize text generalizing ts with
  | case1 => cases h; exact .nil
  | case2 c rest hc ih =>
    obtain ⟨us, hu, rfl⟩ := Outcome.map_eq_ok_iff.1 h
    exact .escaped hc (ih hu)
  | case3 => cases h
  | case4 => cases h
  | case5 => cases h
  | case6 rest ih =>
    obtain ⟨us, hu, rfl⟩ := Outcome.map_eq_ok_iff.1 h
    exact .one (ih hu)
  | case7 rest ih =>
    obtain ⟨us, hu, rfl⟩ := Outcome.map_eq_ok_iff.1 h
    exact (ih hu).star
  | case8 c rest h₁ h₂ h₃ h₄ h₅ ih =>
    obtain ⟨us, hu, rfl⟩ := Outcome.map_eq_ok_iff.1 h
    exact .char (not_isEscapable_of_last h₁ h₂ h₃ h₄ h₅) (ih hu)

/-- **A glob has exactly the tokens that it is read as from its front.** -/
theorem tokenize_eq_ok_iff {text : Text} {ts : List Token} :
    tokenize text = .ok ts ↔ Reads text ts :=
  ⟨reads_of_tokenize_eq, Reads.tokenize_eq⟩

/-! ### What a reading holds -/

/-- A wildcard in front of some tokens adds no character to them. -/
theorem mem_cons_wild_iff {w : Token} {ts : List Token} {c : Code} (hw : w.isWildcard = true) :
    .char c ∈ w :: ts ↔ .char c ∈ ts := by
  rw [List.mem_cons, or_iff_right]
  rintro rfl
  cases hw

/-- Every character token is written in the glob. -/
theorem Reads.mem_text {text : Text} {ts : List Token} (h : Reads text ts) {c : Code}
    (hc : .char c ∈ ts) : c ∈ text := by
  induction h with
  | nil => cases hc
  | char _ _ ih =>
    rcases List.mem_cons.1 hc with hc | hc
    · exact Token.char.inj hc ▸ List.mem_cons_self
    · exact List.mem_cons_of_mem _ (ih hc)
  | escaped _ _ ih =>
    refine List.mem_cons_of_mem _ ?_
    rcases List.mem_cons.1 hc with hc | hc
    · exact Token.char.inj hc ▸ List.mem_cons_self
    · exact List.mem_cons_of_mem _ (ih hc)
  | one _ ih | run _ _ ih => exact List.mem_cons_of_mem _ (ih ((mem_cons_wild_iff rfl).1 hc))
  | someRun _ ih =>
    have hrest := ih ((mem_cons_wild_iff rfl).1 hc)
    exact List.mem_cons_of_mem _ (List.mem_cons_of_mem _ hrest)
  | deep _ _ _ ih => exact List.mem_append_right _ (ih ((mem_cons_wild_iff rfl).1 hc))
  | someDeep _ _ ih =>
    have hrest := ih ((mem_cons_wild_iff rfl).1 hc)
    exact List.mem_append_right _ (List.mem_cons_of_mem _ hrest)

/-- A character that needs no backslash is a token wherever it is written. -/
theorem Reads.mem_iff {text : Text} {ts : List Token} (h : Reads text ts) {c : Code}
    (hc : isEscapable c = false) : .char c ∈ ts ↔ c ∈ text := by
  refine ⟨h.mem_text, fun hm => ?_⟩
  have hne : ∀ d, isEscapable d = true → c ≠ d := by
    rintro d hd rfl
    exact absurd hd (by simp [hc])
  have hstar := hne (.char '*') rfl
  have hone := hne (.char '?') rfl
  have hbackslash := hne (.char '\\') rfl
  induction h with
  | nil => cases hm
  | char _ _ ih =>
    rcases List.mem_cons.1 hm with rfl | hm
    · exact List.mem_cons_self
    · exact List.mem_cons_of_mem _ (ih hm)
  | escaped _ _ ih =>
    rcases List.mem_cons.1 (List.mem_of_ne_of_mem hbackslash hm) with rfl | hm
    · exact List.mem_cons_self
    · exact List.mem_cons_of_mem _ (ih hm)
  | one _ ih => exact List.mem_cons_of_mem _ (ih (List.mem_of_ne_of_mem hone hm))
  | run _ _ ih => exact List.mem_cons_of_mem _ (ih (List.mem_of_ne_of_mem hstar hm))
  | someRun _ ih =>
    have hrest := List.mem_of_ne_of_mem hone (List.mem_of_ne_of_mem hstar hm)
    exact List.mem_cons_of_mem _ (ih hrest)
  | deep _ _ _ ih =>
    rcases List.mem_append.1 hm with hs | hm
    · exact absurd (List.eq_of_mem_replicate hs) hstar
    · exact List.mem_cons_of_mem _ (ih hm)
  | someDeep _ _ ih =>
    rcases List.mem_append.1 hm with hs | hm
    · exact absurd (List.eq_of_mem_replicate hs) hstar
    · exact List.mem_cons_of_mem _ (ih (List.mem_of_ne_of_mem hone hm))

/-- **No wildcard directly follows `*` or `**`:** it would have been joined with the stars. -/
theorem Reads.not_wild_after {text : Text} {ts : List Token} (h : Reads text ts) :
    ts.IsChain fun u w => w.isWildcard = true → u ≠ .run ∧ u ≠ .deep := by
  induction h with
  | nil => exact .nil
  | char _ _ ih => exact List.isChain_cons.2 ⟨by simp, ih⟩
  | escaped _ _ ih => exact List.isChain_cons.2 ⟨by simp, ih⟩
  | one _ ih => exact List.isChain_cons.2 ⟨by simp, ih⟩
  | someRun _ ih => exact List.isChain_cons.2 ⟨by simp, ih⟩
  | someDeep _ _ ih => exact List.isChain_cons.2 ⟨by simp, ih⟩
  | @run _ ts hn h ih | @deep _ _ ts _ hn h ih =>
    refine List.isChain_cons.2 ⟨fun w hm hw => ?_, ih⟩
    cases ts with
    | nil => cases hm
    | cons v ts =>
      cases hm
      exact absurd (h.beginsWild hw) hn

end Glob
end TestSelection
