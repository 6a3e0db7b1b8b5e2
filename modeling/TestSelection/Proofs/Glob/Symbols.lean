/-
# Which globs are accepted

A glob is cut from its front into symbols (`Cut`): a symbol is one character, or a backslash with
the character after it, and `\` and `[` are no symbols by themselves (`IsSymbol`). No symbol begins
another one, so there is only one way to go on, and the place where none can be read is the same
however a glob is cut (`Cut.unique`).

A symbol in front of a text changes its tokens, but not whether it has any
(`IsSymbol.exists_tokenize_eq`). A glob is therefore accepted when it is cut to its end, and
otherwise rejected for what stands at the place where the cut stops (`ofText_of_cut`).
-/

import TestSelection.Proofs.Glob.Reading

namespace TestSelection
namespace Glob

/-- A symbol of a glob: any character but `\` and `[`, or a backslash with what it may stand
before. -/
inductive IsSymbol : Text → Prop
  | plain {c : Code} : c ≠ .char '\\' → c ≠ .char '[' → IsSymbol [c]
  | escaped {c : Code} : isEscapable c = true → IsSymbol [.char '\\', c]

/-- A text is cut into symbols, one after another, and a rest. -/
structure Cut (text : Text) (symbols : List Text) (rest : Text) : Prop where
  isSymbol : ∀ s ∈ symbols, IsSymbol s
  text_eq : text = symbols.flatten ++ rest

/-- No symbol can be read at the front of a text. -/
def Stuck (text : Text) : Prop := ∀ s, IsSymbol s → ¬ s <+: text

/-- The character at which a flaw is found. -/
def Flaw.sign : Flaw → Code
  | .badEscape => .char '\\'
  | .charClass => .char '['

variable {text rest s t : Text} {symbols : List Text}

/-- A star is a symbol. -/
theorem isSymbol_star : IsSymbol [.char '*'] := .plain (by decide) (by decide)

/-- A question mark is a symbol. -/
theorem isSymbol_question : IsSymbol [.char '?'] := .plain (by decide) (by decide)

/-- A character that needs no backslash is a symbol. -/
theorem IsSymbol.of_isEscapable_eq_false {c : Code} (h : isEscapable c = false) : IsSymbol [c] :=
  .plain (by rintro rfl; cases h) (by rintro rfl; cases h)

/-! ### Cuts -/

/-- The empty cut, where every reading of a text begins. -/
theorem Cut.nil (text : Text) : Cut text [] text := ⟨nofun, rfl⟩

/-- A symbol is put in front of a cut; this is the step of every induction over a cut. -/
theorem Cut.cons (hs : IsSymbol s) (h : Cut text symbols rest) :
    Cut (s ++ text) (s :: symbols) rest :=
  ⟨List.forall_mem_cons.2 ⟨hs, h.isSymbol⟩, by
    rw [List.flatten_cons, List.append_assoc, ← h.text_eq]⟩

/-- Every star of a run is a symbol. -/
theorem cut_stars (n : Nat) (rest : Text) :
    Cut (List.replicate n (.char '*') ++ rest) (List.replicate n [.char '*']) rest := by
  induction n with
  | zero => exact Cut.nil rest
  | succ n ih => exact ih.cons isSymbol_star

/-- A cut goes on from its rest. -/
theorem Cut.trans {others : List Text} {last : Text} (h : Cut text symbols rest)
    (hr : Cut rest others last) : Cut text (symbols ++ others) last :=
  ⟨List.forall_mem_append.2 ⟨h.isSymbol, hr.isSymbol⟩, by
    rw [h.text_eq, hr.text_eq, List.flatten_append, List.append_assoc]⟩

/-- A symbol is never empty, so cutting off symbols comes to an end. -/
theorem IsSymbol.length_pos (h : IsSymbol s) : 0 < s.length := by
  cases h <;> exact Nat.succ_pos _

/-- No symbol begins another one. -/
theorem IsSymbol.eq_of_append_eq {a b : Text} (hs : IsSymbol s) (ht : IsSymbol t)
    (h : s ++ a = t ++ b) : s = t := by
  cases hs with
  | plain hb _ =>
    cases ht with
    | plain => exact congrArg (fun c => [c]) (List.cons.inj h).1
    | escaped => exact absurd (List.cons.inj h).1 hb
  | escaped =>
    cases ht with
    | plain hb _ => exact absurd (List.cons.inj h).1.symm hb
    | escaped => exact congrArg (fun c => [.char '\\', c]) (List.cons.inj (List.cons.inj h).2).1

/-- **Every text is cut up to a place where no symbol can be read.** -/
theorem exists_cut (text : Text) : ∃ symbols rest, Cut text symbols rest ∧ Stuck rest := by
  by_cases h : Stuck text
  · exact ⟨[], text, Cut.nil text, h⟩
  -- A symbol is read, and the rest is shorter: `exists_cut` calls itself on it.
  · simp only [Stuck, not_forall, not_not] at h
    obtain ⟨s, hs, rest, rfl⟩ := h
    have hlength : rest.length < (s ++ rest).length := by
      rw [List.length_append]
      exact Nat.lt_add_of_pos_left hs.length_pos
    obtain ⟨symbols, last, hcut, hstuck⟩ := exists_cut rest
    exact ⟨s :: symbols, last, hcut.cons hs, hstuck⟩
  termination_by text.length

/-- **There is only one such place.** -/
theorem Cut.unique {others : List Text} {last : Text} (h : Cut text symbols rest)
    (hr : Stuck rest) (h' : Cut text others last) (hl : Stuck last) :
    symbols = others ∧ rest = last := by
  induction symbols generalizing text others with
  | nil =>
    obtain rfl : text = rest := h.text_eq
    cases others with
    | nil => exact ⟨rfl, h'.text_eq⟩
    | cons t others =>
      refine absurd ?_ (hr t (h'.isSymbol t List.mem_cons_self))
      rw [h'.text_eq, List.flatten_cons, List.append_assoc]
      exact List.prefix_append ..
  | cons s symbols ih =>
    have hs := h.isSymbol s List.mem_cons_self
    -- Both cuts begin with a symbol. These are the same one, as no symbol begins another, and what
    -- they leave is cut further by the induction hypothesis.
    have htext : text = s ++ (symbols.flatten ++ rest) := by
      rw [h.text_eq, List.flatten_cons, List.append_assoc]
    cases others with
    | nil =>
      obtain rfl : text = last := h'.text_eq
      exact absurd (htext ▸ List.prefix_append ..) (hl s hs)
    | cons t others =>
      have ht := h'.isSymbol t List.mem_cons_self
      have htext' : text = t ++ (others.flatten ++ last) := by
        rw [h'.text_eq, List.flatten_cons, List.append_assoc]
      obtain rfl := hs.eq_of_append_eq ht (htext.symm.trans htext')
      have hrest := List.append_cancel_left (htext.symm.trans htext')
      have hcut : Cut (symbols.flatten ++ rest) symbols rest :=
        ⟨fun u hu => h.isSymbol u (List.mem_cons_of_mem _ hu), rfl⟩
      obtain ⟨rfl, hlast⟩ := ih hcut
        ⟨fun u hu => h'.isSymbol u (List.mem_cons_of_mem _ hu), hrest⟩
      exact ⟨rfl, hlast⟩

/-! ### Tokens -/

/-- A symbol in front of a text does something to its tokens, and nothing else. -/
theorem IsSymbol.exists_tokenize_eq (h : IsSymbol s) :
    ∃ f : List Token → List Token, ∀ text, tokenize (s ++ text) = (tokenize text).map f := by
  cases h with
  | @plain c hb hc =>
    by_cases hone : c = .char '?'
    · subst hone
      exact ⟨_, tokenize_one⟩
    by_cases hstar : c = .char '*'
    · subst hstar
      exact ⟨_, tokenize_star⟩
    exact ⟨_, tokenize_char (by simp [isEscapable, hone, hstar, hb, hc])⟩
  | escaped hc => exact ⟨_, tokenize_escaped hc⟩

/-- A cut has no influence on whether the rest has tokens. -/
theorem Cut.exists_tokenize_eq (h : Cut text symbols rest) :
    ∃ f : List Token → List Token, tokenize text = (tokenize rest).map f := by
  obtain ⟨hsymbols, rfl⟩ := h
  induction symbols with
  | nil =>
    refine ⟨id, ?_⟩
    rw [List.flatten_nil, List.nil_append]
    cases tokenize rest <;> rfl
  | cons s symbols ih =>
    obtain ⟨f, hf⟩ := (hsymbols s List.mem_cons_self).exists_tokenize_eq
    obtain ⟨g, hg⟩ := ih fun t ht => hsymbols t (List.mem_cons_of_mem _ ht)
    refine ⟨f ∘ g, ?_⟩
    rw [List.flatten_cons, List.append_assoc, hf, hg]
    cases tokenize rest <;> rfl

/-- What is left where no symbol can be read is nothing, or has a flaw at its front. -/
theorem tokenize_of_stuck (h : Stuck rest) :
    rest = [] ∨ ∃ flaw : Flaw, rest.head? = some flaw.sign ∧ tokenize rest = .error flaw := by
  cases rest with
  | nil => exact .inl rfl
  | cons c rest =>
    refine .inr ?_
    by_cases hclass : c = .char '['
    · subst hclass
      exact ⟨.charClass, rfl, rfl⟩
    by_cases hescape : c = .char '\\'
    · subst hescape
      refine ⟨.badEscape, rfl, ?_⟩
      cases rest with
      | nil => rfl
      | cons d rest =>
        have hd : ¬ isEscapable d = true := fun hd => h _ (.escaped hd) ⟨rest, rfl⟩
        rw [tokenize, if_neg hd]
    · exact absurd ⟨rest, rfl⟩ (h [c] (.plain hescape hclass))

/-- **A glob that is cut to its end is accepted, and any other is rejected for what stands where the
cut stops.** -/
theorem ofText_of_cut (h : Cut text symbols rest) (hr : Stuck rest) :
    (rest = [] ∧ ∃ glob, Glob.ofText text = .ok glob) ∨
      ∃ flaw : Flaw, rest.head? = some flaw.sign ∧ Glob.ofText text = .error ⟨text, flaw⟩ := by
  obtain ⟨f, hf⟩ := h.exists_tokenize_eq
  rw [Glob.ofText, hf]
  rcases tokenize_of_stuck hr with rfl | ⟨flaw, hsign, hflaw⟩
  · exact .inl ⟨rfl, _, rfl⟩
  · exact .inr ⟨flaw, hsign, by rw [hflaw]; rfl⟩

/-- An escaped bracket is a symbol, and a bracket after it is none. -/
example : Glob.ofText (Text.ofString "***?\\[[") =
    .error ⟨Text.ofString "***?\\[[", .charClass⟩ := rfl

/-- At the end of a text no symbol can be read: a cut to the end is a cut to where it stops. -/
theorem stuck_nil : Stuck [] := by
  rintro s hs hp
  exact absurd (List.prefix_nil.1 hp) (List.ne_nil_of_length_pos hs.length_pos)

/-- A glob is accepted if and only if it can be cut into symbols. -/
theorem exists_ofText_iff_cut :
    (∃ glob, Glob.ofText text = .ok glob) ↔ ∃ symbols, Cut text symbols [] := by
  constructor
  -- A glob that is cut no further than to a flaw would be rejected.
  · rintro ⟨glob, hg⟩
    obtain ⟨symbols, rest, hcut, hstuck⟩ := exists_cut text
    rcases ofText_of_cut hcut hstuck with ⟨rfl, -⟩ | ⟨flaw, -, he⟩
    · exact ⟨symbols, hcut⟩
    · cases hg.symm.trans he
  · rintro ⟨symbols, hcut⟩
    rcases ofText_of_cut hcut stuck_nil with ⟨-, hg⟩ | ⟨flaw, hsign, -⟩
    · exact hg
    · cases hsign

end Glob
end TestSelection
