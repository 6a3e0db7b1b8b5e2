/-
# The first field of a line

A line that is read into one open field is that field (`splitFields_of_foldl`), so one without
blanks, quotes and backslashes is read back as it stands. Any of these is lost to the first field,
which then has fewer characters than the line (`length_firstField_lt`); it never has more
(`length_firstField_le`).
-/

import TestSelection.Listing.FindOutput

namespace TestSelection
namespace Listing

/-- Whether a character means something to the reading of a line. -/
def isSpecial (c : Char) : Bool := c == '\\' || c == '"' || Text.isBlank c

/-- A character is plain when it is no backslash, no quote and no blank. -/
theorem isSpecial_eq_false_iff {c : Char} :
    isSpecial c = false ↔ c ≠ '\\' ∧ c ≠ '"' ∧ Text.isBlank c = false := by
  simp [isSpecial, and_assoc]

/-- The first field of a line; empty if there is none. -/
def firstField (line : List Char) : List Char := (splitFields line).head?.getD []

namespace Splitter

/-- What the first field holds so far. -/
def first (s : Splitter) : List Char := s.finish.head?.getD []

variable {s : Splitter} {c : Char} {cs : List Char}

/-- As long as no field is finished, the open one is the first. -/
theorem first_of_fields_eq_nil (h : s.fields = []) : s.first = s.word := by
  rw [first, finish, h]
  cases s.word <;> rfl

/-- Once a field is finished, the first one stays what it is. -/
theorem first_of_fields_eq_cons {f : List Char} {fs : List (List Char)} (h : s.fields = f :: fs) :
    s.first = f := by
  rw [first, finish, h]
  split <;> rfl

/-- What becomes of the first field when the open field takes some more characters. -/
theorem length_first_extend (s : Splitter) (more : List Char) (escaped : Bool) :
    { s with word := s.word ++ more, escaped := escaped : Splitter }.first.length ≤
      s.first.length + more.length := by
  obtain ⟨fields, word, quoted, _⟩ := s
  cases fields with
  | nil =>
    rw [first_of_fields_eq_nil rfl, first_of_fields_eq_nil rfl]
    exact Nat.le_of_eq List.length_append
  | cons f fs =>
    rw [first_of_fields_eq_cons rfl, first_of_fields_eq_cons rfl]
    exact Nat.le_add_right ..

/-- The first field stays when the open field is finished. -/
theorem first_close (s : Splitter) :
    { s with fields := s.finish, word := [] : Splitter }.first = s.first := by
  show (finish _).head?.getD [] = s.finish.head?.getD []
  rw [finish]
  rfl

/-- A plain character is added to the open field. -/
theorem step_plain (he : s.escaped = false) (hc : isSpecial c = false) :
    s.step c = { s with word := s.word ++ [c] } := by
  obtain ⟨hslash, hquote, hblank⟩ := isSpecial_eq_false_iff.1 hc
  simp [step, he, hslash, hquote, hblank]

/-- A character adds at most itself to the first field. -/
theorem length_first_step_le (s : Splitter) (c : Char) :
    (s.step c).first.length ≤ s.first.length + 1 := by
  -- One case for each branch of a step: only the first and the last add a character.
  unfold step
  split
  · exact length_first_extend s [unescape c] false
  split
  · exact Nat.le_succ _
  split
  · exact Nat.le_succ _
  split
  · rw [first_close]
    exact Nat.le_succ _
  · exact length_first_extend s [c] s.escaped

/-- Outside of quotes and not after a backslash, a special character adds nothing to the first
field. -/
theorem length_first_step_of_special (he : s.escaped = false) (hq : s.quoted = false)
    (hc : isSpecial c = true) : (s.step c).first.length = s.first.length := by
  have hspecial : c ≠ '\\' → c ≠ '"' → Text.isBlank c = true := by
    intro hslash hquote
    simpa [isSpecial, hslash, hquote] using hc
  unfold step
  rw [if_neg (by simp [he])]
  split
  · rfl
  split
  · rfl
  · rename_i hslash hquote
    rw [if_pos (by simp [hq, hspecial hslash hquote]), first_close]

/-- No step adds more than one character to the first field. -/
theorem length_first_foldl_le (s : Splitter) (cs : List Char) :
    (cs.foldl step s).first.length ≤ s.first.length + cs.length := by
  induction cs generalizing s with
  | nil => exact Nat.le_refl _
  | cons c cs ih =>
    have hrest := ih (s.step c)
    have hstep := length_first_step_le s c
    rw [List.foldl_cons, List.length_cons]
    omega

/-- The induction is on the characters before the first special one, which leave the reading outside
of quotes and not after a backslash. -/
theorem length_first_foldl_lt (he : s.escaped = false) (hq : s.quoted = false)
    (h : ∃ c ∈ cs, isSpecial c = true) :
    (cs.foldl step s).first.length < s.first.length + cs.length := by
  induction cs generalizing s with
  | nil => simp at h
  | cons c cs ih =>
    rw [List.foldl_cons, List.length_cons]
    cases hc : isSpecial c with
    | true =>
      have hstep := length_first_step_of_special he hq hc
      have hrest := length_first_foldl_le (s.step c) cs
      omega
    | false =>
      have hin : ∃ c ∈ cs, isSpecial c = true := by
        obtain ⟨d, hd, hs⟩ := h
        rcases List.mem_cons.1 hd with rfl | hd
        · rw [hc] at hs
          cases hs
        · exact ⟨d, hd, hs⟩
      have hstep := length_first_step_le s c
      rw [step_plain he hc] at hstep ⊢
      have hrest := ih (s := { s with word := s.word ++ [c] }) he hq hin
      omega

/-- If what is written for each of some characters adds it to the open field, what is written for
all of them adds them in order. -/
theorem foldl_step_flatMap {w : Char → List Char} (he : s.escaped = false)
    (h : ∀ c ∈ cs, ∀ t : Splitter, t.escaped = false → t.quoted = s.quoted →
      (w c).foldl step t = { t with word := t.word ++ [c] }) :
    (cs.flatMap w).foldl step s = { s with word := s.word ++ cs } := by
  induction cs generalizing s with
  | nil => simp
  | cons c cs ih =>
    have hone := h c (List.mem_cons_self ..) s he rfl
    have hrest := ih (s := { s with word := s.word ++ [c] }) he fun d hd =>
      h d (List.mem_cons_of_mem _ hd)
    rw [List.flatMap_cons, List.foldl_append, hone, hrest]
    simp

end Splitter

variable {line word : List Char}

/-- A line that is read into the open field is that field. -/
theorem splitFields_of_foldl (hne : word ≠ [])
    (h : line.foldl Splitter.step Splitter.start = { Splitter.start with word := word }) :
    splitFields line = [word] := by
  rw [splitFields, h]
  simp [Splitter.finish, Splitter.start, hne]

/-- The first field of a line has no more characters than the line. -/
theorem length_firstField_le (line : List Char) : (firstField line).length ≤ line.length := by
  have h := Splitter.length_first_foldl_le Splitter.start line
  have hstart : Splitter.start.first.length = 0 := rfl
  rw [hstart, Nat.zero_add] at h
  exact h

/-- **The first field of a line with a special character has fewer characters than the line.** -/
theorem length_firstField_lt (h : ∃ c ∈ line, isSpecial c = true) :
    (firstField line).length < line.length := by
  have h := Splitter.length_first_foldl_lt (s := Splitter.start) rfl rfl h
  have hstart : Splitter.start.first.length = 0 := rfl
  rw [hstart, Nat.zero_add] at h
  exact h

end Listing
end TestSelection
