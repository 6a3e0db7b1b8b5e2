/-
# Wider wildcards

Between two parts of a glob, `?` may be replaced by `*?`, `*?` by `*` or by `**?`, and each of these
two by `**`, and no path that was matched is lost (`isMatch_of_wider`). What is asked of the parts
is only that they leave the wildcard alone: a star at the end of the first part (`EndsInStar`) or a
wildcard at the front of the second one would make another token with it (`Reads.append`,
`Reads.cons_writing`).

The spans of a token depend on what stands before it only by whether a path component begins there,
and in both cases those of the wider wildcard are more (`Token.Widens`).
-/

import TestSelection.Proofs.Glob.Spans
import TestSelection.Proofs.Glob.Symbols

namespace TestSelection
namespace Glob

variable {u v text rest span : Text} {symbols : List Text} {us vs : List Token} {t w : Token}
  {start : Bool}

/-! ### Stars at the end -/

/-- The last symbol of a text is a star. -/
def EndsInStar (text : Text) : Prop := ∃ symbols, Cut text (symbols ++ [[.char '*']]) []

/-- A star at the end of what a cut leaves is the star at the end of the glob. -/
theorem EndsInStar.of_cut (h : Cut text symbols rest) : EndsInStar rest → EndsInStar text := by
  rintro ⟨others, hcut⟩
  refine ⟨symbols ++ others, ?_⟩
  rw [List.append_assoc]
  exact h.trans hcut

/-- A glob ends in a star that is not escaped when a whole glob stands in front of that star. -/
theorem endsInStar_iff :
    EndsInStar text ↔
      ∃ front, text = front ++ [.char '*'] ∧ ∃ glob, Glob.ofText front = .ok glob := by
  simp only [exists_ofText_iff_cut]
  constructor
  · rintro ⟨symbols, hsymbols, htext⟩
    refine ⟨symbols.flatten, by simpa using htext, symbols, ?_, by simp⟩
    exact (List.forall_mem_append.1 hsymbols).1
  · rintro ⟨front, rfl, symbols, hsymbols, hfront⟩
    refine ⟨symbols, ?_, by simp [hfront]⟩
    exact List.forall_mem_append.2 ⟨hsymbols, List.forall_mem_singleton.2 isSymbol_star⟩

instance : DecidablePred EndsInStar := fun text =>
  decidable_of_iff
      (text.getLast? = some (.char '*') ∧ (Glob.ofText text.dropLast).isOk = true) <| by
    have hok : ∀ front, (Glob.ofText front).isOk = true ↔ ∃ glob, Glob.ofText front = .ok glob := by
      intro front
      cases Glob.ofText front <;> simp [Except.isOk, Except.toBool]
    rw [endsInStar_iff, List.getLast?_eq_some_iff]
    constructor
    · rintro ⟨⟨front, rfl⟩, h⟩
      rw [List.dropLast_concat, hok] at h
      exact ⟨front, rfl, h⟩
    · rintro ⟨front, rfl, h⟩
      rw [List.dropLast_concat, hok]
      exact ⟨⟨front, rfl⟩, h⟩

/-- A star by itself ends in a star, and so does a run of them. -/
theorem endsInStar_replicate (n : Nat) : EndsInStar (List.replicate (n + 1) (.char '*')) := by
  refine ⟨List.replicate n [.char '*'], ?_⟩
  have hcut := cut_stars (n + 1) []
  rwa [List.append_nil, List.replicate_succ' (a := [Code.char '*'])] at hcut

instance : DecidablePred BeginsWild := fun text =>
  inferInstanceAs (Decidable (text.head? = some (.char '*') ∨ text.head? = some (.char '?')))

/-- What follows a text that is not empty does not change how it begins. -/
theorem beginsWild_append (h : text ≠ []) : BeginsWild (text ++ v) ↔ BeginsWild text := by
  obtain ⟨c, text, rfl⟩ := List.exists_cons_of_ne_nil h
  exact Iff.rfl

/-! ### Reading two parts as one -/

/-- **Two parts of a glob are read one after the other** unless the first one ends in a star, which
the second one might go on from. -/
theorem Reads.append (hu : Reads u us) (hv : Reads v vs) (hs : ¬ EndsInStar u) :
    Reads (u ++ v) (us ++ vs) := by
  -- A run of stars at the front is followed by something that keeps it from what comes after.
  have hrun : ∀ {n : Nat} {rest : Text}, ¬ BeginsWild rest →
      ¬ EndsInStar (List.replicate (n + 1) (.char '*') ++ rest) → ¬ BeginsWild (rest ++ v) := by
    intro n rest hw hs
    by_cases hnil : rest = []
    · rw [hnil, List.append_nil] at hs
      exact absurd (endsInStar_replicate n) hs
    · rwa [beginsWild_append hnil]
  induction hu with
  | nil => exact hv
  | @char c rest ts hc hr ih =>
    have hcut : Cut (c :: rest) _ rest := (Cut.nil rest).cons (.of_isEscapable_eq_false hc)
    exact .char hc (ih fun h => hs (h.of_cut hcut))
  | @escaped c rest ts hc hr ih =>
    have hcut : Cut (.char '\\' :: c :: rest) _ rest := (Cut.nil rest).cons (.escaped hc)
    exact .escaped hc (ih fun h => hs (h.of_cut hcut))
  | @one rest ts hr ih =>
    have hcut : Cut (.char '?' :: rest) _ rest := (Cut.nil rest).cons isSymbol_question
    exact .one (ih fun h => hs (h.of_cut hcut))
  | @run rest ts hw hr ih =>
    have hcut : Cut (.char '*' :: rest) _ rest := cut_stars 1 rest
    exact .run (hrun (n := 0) hw hs) (ih fun h => hs (h.of_cut hcut))
  | @someRun rest ts hr ih =>
    have hcut : Cut (.char '*' :: .char '?' :: rest) _ rest :=
      (cut_stars 1 _).trans ((Cut.nil rest).cons isSymbol_question)
    exact .someRun (ih fun h => hs (h.of_cut hcut))
  | @deep n rest ts hn hw hr ih =>
    obtain ⟨k, rfl⟩ := Nat.exists_eq_add_of_le' hn
    rw [List.append_assoc]
    exact .deep hn (hrun hw hs) (ih fun h => hs (h.of_cut (cut_stars _ rest)))
  | @someDeep n rest ts hn hr ih =>
    have hcut : Cut (List.replicate n (.char '*') ++ .char '?' :: rest) _ rest :=
      (cut_stars n _).trans ((Cut.nil rest).cons isSymbol_question)
    rw [List.append_assoc]
    exact .someDeep hn (ih fun h => hs (h.of_cut hcut))

/-- How a token is written. -/
def Token.writing : Token → Text
  | .char c => if isEscapable c then [.char '\\', c] else [c]
  | .one => "?"
  | .run => "*"
  | .someRun => "*?"
  | .deep => "**"
  | .someDeep => "**?"

/-- What is written for a token is read as the token, before a text that does not go on with a
wildcard. -/
theorem Reads.cons_writing (hv : Reads v vs) (hw : ¬ BeginsWild v) (t : Token) :
    Reads (t.writing ++ v) (t :: vs) := by
  cases t with
  | char c =>
    rw [Token.writing]
    split
    case isTrue hc => exact .escaped hc hv
    case isFalse hc => exact .char (Bool.eq_false_iff.2 hc) hv
  | one => exact .one hv
  | run => exact .run hw hv
  | someRun => exact .someRun hv
  | deep => exact .deep (n := 2) le_rfl hw hv
  | someDeep => exact .someDeep (n := 2) le_rfl hv

/-- **A token between two parts of a glob.** -/
theorem ofText_between {a b : Glob} (ha : Glob.ofText u = .ok a) (hb : Glob.ofText v = .ok b)
    (hs : ¬ EndsInStar u) (hw : ¬ BeginsWild v) (t : Token) :
    Glob.ofText (u ++ t.writing ++ v) = .ok ⟨u ++ t.writing ++ v, a.tokens ++ t :: b.tokens⟩ := by
  have hu := (ofText_eq_ok_iff.1 ha).2
  have hv := (ofText_eq_ok_iff.1 hb).2
  refine ofText_eq_ok_iff.2 ⟨rfl, ?_⟩
  rw [List.append_assoc]
  exact hu.append (hv.cons_writing hw t) hs

/-! ### Wider tokens -/

/-- One token takes more than another one, wherever both stand, and no more depends on it. -/
structure Token.Widens (t w : Token) : Prop where
  spans : ∀ start span, t.Spans start span → w.Spans start span
  endsComponent : w.endsComponent = t.endsComponent

/-- A `*?` stands for everything that a `?` stands for. -/
theorem Token.widens_one : Token.one.Widens .someRun := by
  refine ⟨fun start span h => ?_, rfl⟩
  obtain ⟨c, rfl, hc, hdot⟩ := Token.spans_one_iff.1 h
  refine Token.spans_someRun_iff.2 ⟨List.cons_ne_nil _ _, ?_⟩
  exact Token.spans_run_cons.2 ⟨hc, hdot, Token.spans_run_nil false⟩

/-- A `*` stands for everything that a `*?` stands for. -/
theorem Token.widens_someRun : Token.someRun.Widens .run :=
  ⟨fun _ _ h => (Token.spans_someRun_iff.1 h).2, rfl⟩

/-- A `**` stands for everything that a `*` stands for: a text without slashes is visible as soon as
its first character is. -/
theorem Token.widens_run : Token.run.Widens .deep := by
  refine ⟨fun start span h => ?_, rfl⟩
  obtain ⟨hslash, hdot⟩ := (Token.spans_wild rfl).1 h
  exact Token.spans_deep_iff.2 ⟨hdot, not_infix_of_not_mem hslash⟩

/-- A `**` stands for everything that a `**?` stands for. -/
theorem Token.widens_someDeep : Token.someDeep.Widens .deep :=
  ⟨fun _ _ h => Token.spans_deep_iff.2 (Token.spans_someDeep_iff.1 h).2, rfl⟩

/-- Both are not empty, so this is what `*` and `**` take. -/
theorem Token.widens_someRun_deep : Token.someRun.Widens .someDeep := by
  refine ⟨fun start span h => ?_, rfl⟩
  obtain ⟨hne, hrun⟩ := Token.spans_someRun_iff.1 h
  exact Token.spans_someDeep_iff.2
    ⟨hne, Token.spans_deep_iff.1 (Token.widens_run.spans start span hrun)⟩

/-- **A wider token in the place of another one loses nothing.** -/
theorem Spanned.widen (h : t.Widens w) :
    Spanned start (us ++ t :: vs) text → Spanned start (us ++ w :: vs) text := by
  induction us generalizing start text with
  | nil =>
    intro ht
    obtain ⟨span, rest, rfl, hspan, hrest⟩ := spanned_cons_iff.1 ht
    exact .cons (h.spans start span hspan) (h.endsComponent ▸ hrest)
  | cons x us ih =>
    intro ht
    obtain ⟨span, rest, rfl, hspan, hrest⟩ := spanned_cons_iff.1 ht
    exact .cons hspan (ih hrest)

/-- One token is exchanged for a wider one in the middle of a glob. Both tokens are followed by the
same start flag, so what stands behind is matched as before. -/
theorem isMatch_widen {a b : Glob} (h : t.Widens w) {x y : Text} {path : String} :
    Glob.isMatch ⟨x, a.tokens ++ t :: b.tokens⟩ path = true →
      Glob.isMatch ⟨y, a.tokens ++ w :: b.tokens⟩ path = true := by
  rw [Glob.isMatch, Glob.isMatch, accepts_iff_spanned, accepts_iff_spanned]
  exact Spanned.widen h

/-- **Widening a wildcard loses no path.**  Between two accepted globs, of which the first does not
end in a star and the second does not begin with a wildcard, each of the five wildcards gives a glob
that is accepted. What is matched with `?` is matched with `*?`, what is matched with `*?` is
matched with `*` and with `**?`, and what is matched with one of these two is matched with `**`. -/
theorem isMatch_of_wider {a b : Glob} (ha : Glob.ofText u = .ok a) (hb : Glob.ofText v = .ok b)
    (hs : ¬ EndsInStar u) (hw : ¬ BeginsWild v) :
    ∃ one someRun run someDeep deep : Glob,
      Glob.ofText (u ++ "?" ++ v) = .ok one ∧ Glob.ofText (u ++ "*?" ++ v) = .ok someRun ∧
      Glob.ofText (u ++ "*" ++ v) = .ok run ∧ Glob.ofText (u ++ "**?" ++ v) = .ok someDeep ∧
      Glob.ofText (u ++ "**" ++ v) = .ok deep ∧
      ∀ path : String,
        (one.isMatch path = true → someRun.isMatch path = true) ∧
        (someRun.isMatch path = true → run.isMatch path = true ∧ someDeep.isMatch path = true) ∧
        (run.isMatch path = true ∨ someDeep.isMatch path = true → deep.isMatch path = true) := by
  have hbetween := ofText_between ha hb hs hw
  refine ⟨_, _, _, _, _, hbetween .one, hbetween .someRun, hbetween .run, hbetween .someDeep,
    hbetween .deep, fun path => ⟨isMatch_widen Token.widens_one, fun h => ⟨?_, ?_⟩, ?_⟩⟩
  · exact isMatch_widen Token.widens_someRun h
  · exact isMatch_widen Token.widens_someRun_deep h
  · rintro (h | h)
    · exact isMatch_widen Token.widens_run h
    · exact isMatch_widen Token.widens_someDeep h

/-- An escaped star at the end of the first part and an escaped `?` at the front of the second one
leave the wildcard alone. -/
theorem isMatch_of_wider_escaped :
    ∃ a b : Glob, Glob.ofText "x/\\*" = .ok a ∧ Glob.ofText "\\?y" = .ok b ∧
      ¬ EndsInStar "x/\\*" ∧ ¬ BeginsWild "\\?y" ∧
      ∃ one someRun run someDeep deep : Glob,
        Glob.ofText (Text.ofString "x/\\*" ++ "?" ++ "\\?y") = .ok one ∧
        Glob.ofText (Text.ofString "x/\\*" ++ "*?" ++ "\\?y") = .ok someRun ∧
        Glob.ofText (Text.ofString "x/\\*" ++ "*" ++ "\\?y") = .ok run ∧
        Glob.ofText (Text.ofString "x/\\*" ++ "**?" ++ "\\?y") = .ok someDeep ∧
        Glob.ofText (Text.ofString "x/\\*" ++ "**" ++ "\\?y") = .ok deep ∧
        ∀ path : String,
          (one.isMatch path = true → someRun.isMatch path = true) ∧
          (someRun.isMatch path = true → run.isMatch path = true ∧ someDeep.isMatch path = true) ∧
          (run.isMatch path = true ∨ someDeep.isMatch path = true → deep.isMatch path = true) :=
  ⟨_, _, rfl, rfl, by decide, by decide, isMatch_of_wider rfl rfl (by decide) (by decide)⟩

end Glob
end TestSelection
