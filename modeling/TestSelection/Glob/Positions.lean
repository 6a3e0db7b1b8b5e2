/-
# Compiling a glob by positions

A glob can be compiled in one loop over the positions of its text: at each position the loop finds
a token and the position after it, looking up to two characters ahead where there are stars
(`Positions.tokenAt`), and adds what the token stands for to the regular expression
(`Positions.compileFrom`). Every position is asked for by `Positions.read`, and one outside of the
text would be an ending of its own (`Stop.outside`).
-/

import TestSelection.Glob.Regex

namespace TestSelection
namespace Glob

/-- Why a compiler stops before the end of a glob. -/
inductive Stop where
  | rejected (r : Rejection)
  /-- It reads a position that the glob does not have. -/
  | outside

namespace Positions

/-- The character at a position. -/
def read (text : Text) (i : Nat) : Except Stop Code :=
  match text[i]? with
  | some c => .ok c
  | none => .error .outside

/-- Whether there is a position and it holds a character. -/
def holds (text : Text) (i : Nat) (c : Code) : Except Stop Bool := do
  if i < text.length then return (← read text i) == c else return false

/-- Goes forward as long as there is a star two characters ahead. -/
def skipStars (text : Text) (i : Nat) : Except Stop Nat := do
  if i + 2 < text.length then
    if (← read text (i + 2)) = .char '*' then skipStars text (i + 1) else return i
  else return i
  termination_by text.length - i

/-- The token at a position, and the position after it. -/
def tokenAt (text : Text) (i : Nat) : Except Stop (Token × Nat) := do
  let c ← read text i
  if c = .char '?' then return (.one, i + 1)
  else if c = .char '*' then
    if ← holds text (i + 1) (.char '*') then
      let j ← skipStars text i
      if ← holds text (j + 2) (.char '?') then return (.someDeep, j + 3)
      else return (.deep, j + 2)
    else if ← holds text (i + 1) (.char '?') then return (.someRun, i + 2)
    else return (.run, i + 1)
  else if c = .char '\\' then
    if i + 1 < text.length then
      let d ← read text (i + 1)
      if isEscapable d then return (.char d, i + 2) else throw (.rejected ⟨text, .badEscape⟩)
    else throw (.rejected ⟨text, .badEscape⟩)
  else if c = .char '[' then throw (.rejected ⟨text, .charClass⟩)
  else return (.char c, i + 1)

variable {text : Text} {i j : Nat} {t : Token}

/-- Stars are only skipped forward. -/
theorem le_of_skipStars {text : Text} {i j : Nat} (h : skipStars text i = .ok j) : i ≤ j := by
  rw [skipStars] at h
  split at h
  · cases hread : read text (i + 2) with
    | error stop =>
      rw [hread] at h
      cases h
    | ok c =>
      rw [hread] at h
      by_cases hc : c = .char '*'
      · have hmore : skipStars text (i + 1) = .ok j := by
          rw [← h]
          exact (if_pos hc).symm
        exact Nat.le_of_succ_le (le_of_skipStars hmore)
      · have hend : (Except.ok i : Except Stop Nat) = .ok j := by
          rw [← h]
          exact (if_neg hc).symm
        exact Nat.le_of_eq (Except.ok.inj hend)
  · exact Nat.le_of_eq (Except.ok.inj h)
  termination_by text.length - i

/-- A token ends behind the position at which it is found, so the loop comes to an end. -/
theorem lt_of_tokenAt (h : tokenAt text i = .ok (t, j)) : i < j := by
  simp only [tokenAt, bind, Except.bind, pure, Except.pure, throw, throwThe,
    MonadExceptOf.throw] at h
  -- what is found ends one or two positions on, or behind the stars that are skipped
  repeat' split at h
  all_goals cases h
  all_goals
    first
    | omega
    | have hskip := le_of_skipStars ‹_›
      omega

/-- Compiles a glob from a position on; `start` says that a path component begins there, and
`source` is the text of the expression so far. -/
def compileFrom (text : Text) (i : Nat) (start : Bool) (source : Text) : Except Stop Text :=
  if i < text.length then
    match h : tokenAt text i with
    | .ok (t, j) =>
      have : i < j := lt_of_tokenAt h
      compileFrom text j t.endsComponent (source ++ (t.pieces start).flatMap Regex.source)
    | .error stop => .error stop
  else .ok (source ++ Regex.last.source)
  termination_by text.length - i

/-- Compiles a glob into the text of its regular expression. -/
def compile (text : Text) : Except Stop Text := compileFrom text 0 true Regex.first.source

end Positions
end Glob
end TestSelection
