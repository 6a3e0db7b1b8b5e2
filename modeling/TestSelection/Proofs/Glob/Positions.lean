/-
# The loop over the positions of a glob

Compiling a glob by positions (`Positions.compile`) comes to the same as reading it into tokens. A
step of the loop goes over whole symbols of the glob, so it never comes to stand inside of one
(`Positions.tokenAt_cases`), and the loop has the tokens that the glob is read as. It therefore ends
with the regular expression of the glob or with its rejection, and never outside
(`Positions.compile_eq`).
-/

import TestSelection.Glob.Positions
import TestSelection.Proofs.Glob.Symbols

namespace TestSelection
namespace Glob
namespace Positions

variable {text : Text} {i j : Nat} {c : Code} {t : Token}

/-! ### Reading a position -/

/-- Reading at a place of the text gives the character that stands there. -/
theorem read_eq (h : text[i]? = some c) : read text i = .ok c := by rw [read, h]

/-- What stands at a position is the front of what stands from there on. -/
theorem drop_eq_cons (h : text[i]? = some c) : text.drop i = c :: text.drop (i + 1) := by
  obtain ⟨hi, rfl⟩ := List.getElem?_eq_some_iff.1 h
  exact List.drop_eq_getElem_cons hi

/-- A position is read only if it is there. -/
theorem holds_eq (text : Text) (i : Nat) (c : Code) :
    holds text i c = .ok (decide (text[i]? = some c)) := by
  rw [holds]
  by_cases hi : i < text.length
  · have hread : text[i]? = some text[i] := List.getElem?_eq_getElem hi
    rw [if_pos hi, read_eq hread, hread]
    exact congrArg Except.ok (by rw [Bool.eq_iff_iff]; simp)
  · have hread : text[i]? = none := List.getElem?_eq_none (Nat.le_of_not_lt hi)
    rw [if_neg hi, hread]
    rfl

/-- Stars are skipped up to the last but one of their run. -/
theorem exists_skipStars (text : Text) (i : Nat) :
    ∃ n, skipStars text i = .ok (i + n) ∧ text[i + n + 2]? ≠ some (.char '*') ∧
      text.drop (i + 2) = List.replicate n (.char '*') ++ text.drop (i + n + 2) := by
  rw [skipStars]
  by_cases hi : i + 2 < text.length
  · have hread : text[i + 2]? = some text[i + 2] := List.getElem?_eq_getElem hi
    by_cases hc : text[i + 2] = .char '*'
    -- One more star, and the run behind it.
    · obtain ⟨n, hn, hend, hdrop⟩ := exists_skipStars text (i + 1)
      have hsum : i + 1 + n = i + (n + 1) := by omega
      rw [hsum] at hn hend hdrop
      refine ⟨n + 1, ?_, hend, ?_⟩
      · rw [if_pos hi, read_eq hread, ← hn]
        exact if_pos hc
      · rw [drop_eq_cons hread, hc, hdrop]
        rfl
    · refine ⟨0, ?_, fun h => hc (Option.some.inj (hread.symm.trans h)), rfl⟩
      rw [if_pos hi, read_eq hread]
      exact if_neg hc
  · refine ⟨0, if_neg hi, ?_, rfl⟩
    rw [Nat.add_zero, List.getElem?_eq_none (Nat.le_of_not_lt hi)]
    exact (Option.some_ne_none _).symm
  termination_by text.length - i

/-! ### One step -/

/-- From one position to another one: whole symbols stand between the two, and they are read as a
token. -/
structure Hop (text : Text) (i : Nat) (t : Token) (j : Nat) : Prop where
  lt : i < j
  cut : ∃ symbols, Cut (text.drop i) symbols (text.drop j)
  reads : ∀ ts, Reads (text.drop j) ts → Reads (text.drop i) (t :: ts)

/-- A token after a position is the first one of what stands from there on. -/
theorem Hop.tokenize_eq (h : Hop text i t j) :
    tokenize (text.drop i) = (tokenize (text.drop j)).map (t :: ·) := by
  obtain ⟨symbols, hcut⟩ := h.cut
  obtain ⟨f, hf⟩ := hcut.exists_tokenize_eq
  cases hrest : tokenize (text.drop j) with
  | error flaw =>
    rw [hf, hrest]
    rfl
  | ok ts =>
    rw [(h.reads ts (reads_of_tokenize_eq hrest)).tokenize_eq]
    rfl

/-- One character that is a symbol by itself. -/
theorem Hop.one (hi : text[i]? = some c) (hc : IsSymbol [c])
    (hr : ∀ ts, Reads (text.drop (i + 1)) ts → Reads (c :: text.drop (i + 1)) (t :: ts)) :
    Hop text i t (i + 1) := by
  refine ⟨Nat.lt_succ_self i, ⟨[[c]], ?_⟩, ?_⟩ <;> rw [drop_eq_cons hi]
  · exact (Cut.nil _).cons hc
  · exact hr

/-- Where neither `*` nor `?` stands, no wildcard is written. -/
theorem not_beginsWild_drop (hs : text[i]? ≠ some (.char '*')) (hq : text[i]? ≠ some (.char '?')) :
    ¬ BeginsWild (text.drop i) := by
  rw [BeginsWild, List.head?_drop]
  exact fun h => h.elim hs hq

/-- A step at a star takes the run of stars that begins there, and a `?` after it. -/
theorem exists_hop_star (hi : text[i]? = some (.char '*')) :
    ∃ t j, tokenAt text i = .ok (t, j) ∧ Hop text i t j := by
  have hread := read_eq hi
  -- The four tokens that begin with a star: two stars or more, with or without a `?` behind them,
  -- and one star, with or without.
  by_cases hnext : text[i + 1]? = some (.char '*')
  · obtain ⟨n, hskip, hend, hrest⟩ := exists_skipStars text i
    have hrun : text.drop i =
        List.replicate (n + 2) (.char '*') ++ text.drop (i + n + 2) := by
      rw [drop_eq_cons hi, drop_eq_cons hnext, hrest]
      rfl
    by_cases hlast : text[i + n + 2]? = some (.char '?')
    · have hquestion : text.drop (i + n + 2) = .char '?' :: text.drop (i + n + 3) :=
        drop_eq_cons hlast
      refine ⟨.someDeep, i + n + 3, ?_, by omega, ?_, fun ts hts => ?_⟩
      · rw [tokenAt, hread]
        simp [bind, Except.bind, pure, Except.pure, holds_eq, hnext, hskip, hlast]
      · rw [hrun, hquestion]
        exact ⟨_, (cut_stars _ _).trans ((Cut.nil _).cons isSymbol_question)⟩
      · rw [hrun, hquestion]
        exact .someDeep (Nat.le_add_left 2 n) hts
    · refine ⟨.deep, i + n + 2, ?_, by omega, ?_, fun ts hts => ?_⟩
      · rw [tokenAt, hread]
        simp [bind, Except.bind, pure, Except.pure, holds_eq, hnext, hskip, hlast]
      · rw [hrun]
        exact ⟨_, cut_stars _ _⟩
      · rw [hrun]
        exact .deep (Nat.le_add_left 2 n) (not_beginsWild_drop hend hlast) hts
  by_cases hquestion : text[i + 1]? = some (.char '?')
  · refine ⟨.someRun, i + 2, ?_, by omega, ?_, fun ts hts => ?_⟩
    · rw [tokenAt, hread]
      simp [bind, Except.bind, pure, Except.pure, holds_eq, hquestion]
    · rw [drop_eq_cons hi, drop_eq_cons hquestion]
      exact ⟨_, (cut_stars 1 _).trans ((Cut.nil _).cons isSymbol_question)⟩
    · rw [drop_eq_cons hi, drop_eq_cons hquestion]
      exact .someRun hts
  · refine ⟨.run, i + 1, ?_, .one hi isSymbol_star fun ts => ?_⟩
    · rw [tokenAt, hread]
      simp [bind, Except.bind, pure, Except.pure, holds_eq, hnext, hquestion]
    · exact .run (not_beginsWild_drop hnext hquestion)

/-- A step at a backslash takes the character after it too, if that may stand there. -/
theorem tokenAt_backslash (hi : text[i]? = some (.char '\\')) :
    (∃ t j, tokenAt text i = .ok (t, j) ∧ Hop text i t j) ∨
      tokenAt text i = .error (.rejected ⟨text, .badEscape⟩) ∧
        tokenize (text.drop i) = .error .badEscape := by
  have hread := read_eq hi
  rw [tokenAt, hread, drop_eq_cons hi]
  -- Nothing may stand behind the backslash, and that is the same flaw.
  by_cases hnext : i + 1 < text.length
  · obtain ⟨d, hd⟩ : ∃ d, text[i + 1]? = some d := ⟨_, List.getElem?_eq_getElem hnext⟩
    rw [drop_eq_cons hd]
    by_cases hescapable : isEscapable d = true
    · refine .inl ⟨.char d, i + 2, ?_, by omega, ?_, fun ts hts => ?_⟩
      · simp [bind, Except.bind, pure, Except.pure, hnext, read_eq hd, hescapable]
      · rw [drop_eq_cons hi, drop_eq_cons hd]
        exact ⟨_, (Cut.nil _).cons (.escaped hescapable)⟩
      · rw [drop_eq_cons hi, drop_eq_cons hd]
        exact .escaped hescapable hts
    · refine .inr ⟨?_, ?_⟩
      · simp [bind, Except.bind, throw, throwThe, MonadExceptOf.throw, hnext, read_eq hd,
          hescapable]
      · rw [tokenize, if_neg hescapable]
  · refine .inr ⟨?_, ?_⟩
    · simp [bind, Except.bind, throw, throwThe, MonadExceptOf.throw, hnext]
    · rw [List.drop_eq_nil_of_le (Nat.le_of_not_lt hnext)]
      rfl

/-- **A step goes from one symbol to another and finds a token, or it finds a flaw.** -/
theorem tokenAt_cases (hi : i < text.length) :
    (∃ t j, tokenAt text i = .ok (t, j) ∧ Hop text i t j) ∨
      ∃ flaw, tokenAt text i = .error (.rejected ⟨text, flaw⟩) ∧
        tokenize (text.drop i) = .error flaw := by
  obtain ⟨c, hc⟩ : ∃ c, text[i]? = some c := ⟨_, List.getElem?_eq_getElem hi⟩
  have hread := read_eq hc
  by_cases hone : c = .char '?'
  · subst hone
    refine .inl ⟨.one, i + 1, ?_, .one hc isSymbol_question fun ts => .one⟩
    rw [tokenAt, hread]
    rfl
  by_cases hstar : c = .char '*'
  · exact .inl (exists_hop_star (hstar ▸ hc))
  by_cases hescape : c = .char '\\'
  · exact (tokenAt_backslash (hescape ▸ hc)).imp_right fun h => ⟨.badEscape, h⟩
  by_cases hclass : c = .char '['
  · subst hclass
    refine .inr ⟨.charClass, ?_, ?_⟩
    · rw [tokenAt, hread]
      rfl
    · rw [drop_eq_cons hc]
      rfl
  · have hplain : isEscapable c = false := by
      simp [isEscapable, hone, hstar, hescape, hclass]
    refine .inl ⟨.char c, i + 1, ?_, .one hc (.plain hescape hclass) fun ts => .char hplain⟩
    rw [tokenAt, hread]
    simp only [bind, Except.bind, if_neg hone, if_neg hstar, if_neg hescape, if_neg hclass]
    rfl

/-! ### The loop -/

/-- A row of expressions is printed piece by piece, as the index loop appends them. -/
theorem source_seq (rs : List Regex) : (Regex.seq rs).source = rs.flatMap Regex.source := by
  fun_induction Regex.seq rs with
  | case1 => rfl
  | case2 r => simp
  | case3 r rest _ ih => rw [Regex.source, ih, List.flatMap_cons]

/-- The loop adds the pieces of the tokens that are left, or stops at the flaw that is left. -/
theorem compileFrom_eq (text : Text) (i : Nat) (start : Bool) (source : Text) :
    compileFrom text i start source =
      match tokenize (text.drop i) with
      | .ok ts => .ok (source ++ (pieces start ts ++ [Regex.last]).flatMap Regex.source)
      | .error flaw => .error (.rejected ⟨text, flaw⟩) := by
  rw [compileFrom]
  by_cases hi : i < text.length
  · rw [if_pos hi]
    rcases tokenAt_cases hi with ⟨t, j, ht, hhop⟩ | ⟨flaw, ht, hflaw⟩
    · have hlt := hhop.lt
      -- The loop goes on from the end of the token, which lies further on.
      have hnext := compileFrom_eq text j t.endsComponent
        (source ++ (t.pieces start).flatMap Regex.source)
      rw [hhop.tokenize_eq]
      split
      case h_1 t' j' h' =>
        cases ht.symm.trans h'
        rw [hnext]
        cases tokenize (text.drop j) with
        | error flaw => rfl
        | ok ts => simp [Except.map, pieces]
      case h_2 h' => cases ht.symm.trans h'
    · rw [hflaw]
      split
      case h_1 h' => cases ht.symm.trans h'
      case h_2 h' =>
        cases ht.symm.trans h'
        rfl
  · rw [if_neg hi, List.drop_eq_nil_of_le (Nat.le_of_not_lt hi)]
    simp [tokenize, pieces]
  termination_by text.length - i

/-- **The loop ends with the text of the glob's expression or with its rejection.** -/
theorem compile_eq (text : Text) :
    compile text = ((Glob.ofText text).map regexSource).mapError .rejected := by
  rw [compile, compileFrom_eq, List.drop_zero, Glob.ofText]
  cases tokenize text with
  | error flaw => rfl
  | ok ts =>
    refine congrArg Except.ok ?_
    rw [regexSource, regex, source_seq]
    rfl

end Positions

/-- **Which globs are accepted, and what is wrong with the others.**  A glob is accepted if and only
if it can be cut into symbols. A text has exactly one cut up to a place where no symbol can be read:
at its end, and then going through it by positions gives the text of a regular expression, or before
a bracket or a backslash, and then that is the flaw for which the glob as a whole is rejected. -/
theorem compile_outcome (text : Text) :
    ((∃ source, Positions.compile text = .ok source) ↔ ∃ symbols, Cut text symbols []) ∧
      ∃ symbols rest, Cut text symbols rest ∧ Stuck rest ∧
        (∀ symbols' rest', Cut text symbols' rest' → Stuck rest' →
          symbols' = symbols ∧ rest' = rest) ∧
        ((rest = [] ∧ ∃ glob, Glob.ofText text = .ok glob ∧
            Positions.compile text = .ok glob.regexSource) ∨
          ∃ flaw : Flaw, rest.head? = some flaw.sign ∧ Glob.ofText text = .error ⟨text, flaw⟩ ∧
            Positions.compile text = .error (.rejected ⟨text, flaw⟩)) := by
  constructor
  · rw [← exists_ofText_iff_cut, Positions.compile_eq]
    cases Glob.ofText text with
    | error r => exact iff_of_false nofun nofun
    | ok glob => exact iff_of_true ⟨_, rfl⟩ ⟨_, rfl⟩
  · obtain ⟨symbols, rest, hcut, hstuck⟩ := exists_cut text
    refine ⟨symbols, rest, hcut, hstuck, fun _ _ h hs => h.unique hs hcut hstuck, ?_⟩
    rw [Positions.compile_eq]
    rcases ofText_of_cut hcut hstuck with ⟨hnil, glob, hg⟩ | ⟨flaw, hsign, hr⟩
    · exact .inl ⟨hnil, glob, hg, by rw [hg]; rfl⟩
    · exact .inr ⟨flaw, hsign, hr, by rw [hr]; rfl⟩

end Glob
end TestSelection
