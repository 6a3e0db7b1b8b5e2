/-
# Lines

How `Text.lines` cuts a text: every character is in some line or ends one (`sum_length_lines`), what
follows a `\n` is cut by itself (`lines_append_newline`), a `\n` at the end makes at most a line
with nothing on it (`lines_concat_newline`), and a text without line ends is one line
(`lines_newline_of_forall`).

A file that a text was written to has this text (`fromUTF8?_toUTF8`).
-/

import Mathlib.Algebra.GroupWithZero.Nat
import Mathlib.Tactic.Tauto
import TestSelection.Text.Blank

namespace TestSelection
namespace Text

/-- A character in front of the first line makes the lines one character longer. -/
theorem length_extendFirst (c : Char) (ls : List (List Char)) :
    ((extendFirst c ls).map List.length).sum = (ls.map List.length).sum + 1 := by
  cases ls with
  | nil => rfl
  | cons l ls =>
    simp only [extendFirst, List.map_cons, List.length_cons, List.sum_cons]
    omega

/-- **Every character of a text is in one of its lines, or ends one.** -/
theorem sum_length_lines (cs : List Char) :
    ((lines cs).map List.length).sum + cs.countP isLineEnd = cs.length := by
  fun_induction lines cs with
  | case1 => rfl
  | case2 rest ih =>
    have hr : isLineEnd '\r' = true := by decide
    have hn : isLineEnd '\n' = true := by decide
    rw [List.map_cons, List.sum_cons, List.countP_cons_of_pos hr, List.countP_cons_of_pos hn,
      List.length_cons, List.length_cons, List.length_nil]
    omega
  | case3 c rest _ hc ih =>
    rw [List.map_cons, List.sum_cons, List.countP_cons_of_pos hc, List.length_cons,
      List.length_nil]
    omega
  | case4 c rest _ hc ih =>
    rw [length_extendFirst, List.countP_cons_of_neg hc, List.length_cons]
    omega

/-- It is put in front of the lines that come first. -/
theorem extendFirst_append {c : Char} {ls : List (List Char)} (h : ls ≠ [])
    (ms : List (List Char)) : extendFirst c (ls ++ ms) = extendFirst c ls ++ ms := by
  cases ls with
  | nil => exact absurd rfl h
  | cons l ls => rfl

/-- A text that is not empty has a line. -/
theorem lines_ne_nil {cs : List Char} (h : cs ≠ []) : lines cs ≠ [] := by
  fun_cases lines cs with
  | case1 => exact absurd rfl h
  | case2 => nofun
  | case3 => nofun
  | case4 c rest => cases lines rest <;> nofun

/-- One step of `lines` over a character that does not make one line end with the next one. -/
theorem lines_cons {c : Char} {cs : List Char} (h : c ≠ '\r' ∨ cs.head? ≠ some '\n') :
    lines (c :: cs) = if isLineEnd c then [] :: lines cs else extendFirst c (lines cs) := by
  rw [lines]
  rintro rest rfl rfl
  simp at h

/-- One step of `lines` in front of a `\n`, unless both make one line end. -/
theorem lines_cons_newline {c : Char} {rest : List Char}
    (hcr : ∀ left, c = '\r' → rest = '\n' :: left → False) (hend : ¬(c = '\r' ∧ rest = []))
    (after : List Char) :
    lines (c :: (rest ++ '\n' :: after)) =
      if isLineEnd c then [] :: lines (rest ++ '\n' :: after)
      else extendFirst c (lines (rest ++ '\n' :: after)) := by
  refine lines_cons ?_
  by_cases hc : c = '\r'
  · refine .inr fun hhead => ?_
    cases rest with
    | nil => exact hend ⟨hc, rfl⟩
    | cons d rest =>
      rw [List.cons_append, List.head?_cons, Option.some.injEq] at hhead
      exact hcr rest hc (by rw [hhead])
  · exact .inl hc

/-- **What follows a line end is cut by itself.** -/
theorem lines_append_newline (a b : List Char) :
    lines (a ++ '\n' :: b) = lines (a ++ ['\n']) ++ lines b := by
  fun_induction lines a with
  | case1 => rfl
  | case2 rest ih =>
    show [] :: lines (rest ++ '\n' :: b) = ([] :: lines (rest ++ ['\n'])) ++ lines b
    rw [ih, List.cons_append]
  | case3 c rest hcr hc ih | case4 c rest hcr hc ih =>
    by_cases hend : c = '\r' ∧ rest = []
    · -- a carriage return at the end of the first part ends its line together with the `\n`
      obtain ⟨rfl, rfl⟩ := hend
      rfl
    · have hne : rest ++ ['\n'] ≠ [] := by simp
      rw [List.cons_append, List.cons_append, lines_cons_newline hcr hend,
        lines_cons_newline hcr hend, ih]
      cases isLineEnd c with
      | true => rfl
      | false => exact extendFirst_append (lines_ne_nil hne) _

/-- A `\n` at the end of a text ends the last line, or makes one more line with nothing on it. -/
theorem lines_concat_newline (cs : List Char) :
    lines (cs ++ ['\n']) = lines cs ∨ lines (cs ++ ['\n']) = lines cs ++ [[]] := by
  fun_induction lines cs with
  | case1 => exact .inr rfl
  | case2 rest ih =>
    show [] :: lines (rest ++ ['\n']) = _ ∨ [] :: lines (rest ++ ['\n']) = _
    rw [List.cons_append]
    exact ih.imp (congrArg _) (congrArg _)
  | case3 c rest hcr hc ih =>
    by_cases hend : c = '\r' ∧ rest = []
    · obtain ⟨rfl, rfl⟩ := hend
      exact .inl rfl
    · rw [List.cons_append, lines_cons_newline hcr hend, if_pos hc, List.cons_append]
      exact ih.imp (congrArg _) (congrArg _)
  | case4 c rest hcr hc ih =>
    have hend : ¬(c = '\r' ∧ rest = []) := by
      rintro ⟨rfl, -⟩
      exact hc (by decide)
    rw [List.cons_append, lines_cons_newline hcr hend, if_neg hc]
    cases hrest : rest with
    | nil => exact .inl rfl
    | cons d more =>
      have hne : lines (d :: more) ≠ [] := lines_ne_nil (List.cons_ne_nil d more)
      rw [← extendFirst_append hne, ← hrest]
      exact ih.imp (congrArg _) (congrArg _)

/-- A text without line ends is one line. -/
theorem lines_newline_of_forall {cs : List Char} (h : ∀ c ∈ cs, isLineEnd c = false) :
    lines (cs ++ ['\n']) = [cs] := by
  induction cs with
  | nil => rfl
  | cons c cs ih =>
    have hc := h c (List.mem_cons_self ..)
    have hcr : c ≠ '\r' := by
      rintro rfl
      exact absurd hc (by decide)
    rw [List.cons_append, lines_cons (.inl hcr), hc, ih fun d hd => h d (List.mem_cons_of_mem _ hd)]
    rfl

/-- A text without `\r` has the line ends it is read with. -/
theorem unifyLineEnds_of_not_mem {cs : List Char} (h : '\r' ∉ cs) : unifyLineEnds cs = cs := by
  fun_induction unifyLineEnds cs with
  | case1 => rfl
  | case2 rest => exact absurd (List.mem_cons_self ..) h
  | case3 c rest _ ih =>
    rw [List.mem_cons, not_or] at h
    rw [if_neg (Ne.symm h.1), ih h.2]

/-- The bytes of a text hold it. -/
theorem fromUTF8?_toUTF8 (s : String) : String.fromUTF8? s.toUTF8 = some s := by
  rw [String.fromUTF8?]
  exact dif_pos s.isValidUTF8

end Text
end TestSelection
