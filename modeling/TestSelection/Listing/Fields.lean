/-
# Fields of a line

A line falls into fields at its blanks. Double quotes join what stands between them, blanks
included, and are dropped; a backslash takes the next character as it is, except that `\t` and
`\n` are a tab and a line end. A field is never empty (`Splitter.finish_ne_nil`), so `""` alone is
none.

The line is read character by character, with the fields that are finished, the one that is open,
and two flags as the state (`Splitter`).
-/

import TestSelection.Text.Blank

namespace TestSelection
namespace Listing

/-- A line that is read up to some character. -/
structure Splitter where
  /-- The finished fields, in order. -/
  fields : List (List Char)
  /-- What the open field holds so far. -/
  word : List Char
  /-- Inside double quotes. -/
  quoted : Bool
  /-- Just after a backslash. -/
  escaped : Bool
  deriving DecidableEq

namespace Splitter

/-- Before the first character. -/
def start : Splitter := ⟨[], [], false, false⟩

/-- The character that a backslash and this one stand for. -/
def unescape (c : Char) : Char := if c = 't' then '\t' else if c = 'n' then '\n' else c

/-- The finished fields and the open one, if it holds anything. -/
def finish (s : Splitter) : List (List Char) :=
  if s.word.isEmpty then s.fields else s.fields ++ [s.word]

/-- Reads one more character. -/
def step (s : Splitter) (c : Char) : Splitter :=
  if s.escaped then { s with word := s.word ++ [unescape c], escaped := false }
  else if c = '\\' then { s with escaped := true }
  else if c = '"' then { s with quoted := !s.quoted }
  else if !s.quoted && Text.isBlank c then { s with fields := s.finish, word := [] }
  else { s with word := s.word ++ [c] }

/-- The field that is still open at the end is kept only if it is not empty. -/
theorem finish_ne_nil {s : Splitter} (h : ∀ f ∈ s.fields, f ≠ []) : ∀ f ∈ s.finish, f ≠ [] := by
  unfold finish
  split
  · exact h
  · rename_i hw
    intro f hf
    rcases List.mem_append.1 hf with hf | hf
    · exact h f hf
    · simp_all

/-- A step closes a field only if it is not empty. -/
theorem step_fields_ne_nil {s : Splitter} (h : ∀ f ∈ s.fields, f ≠ []) (c : Char) :
    ∀ f ∈ (s.step c).fields, f ≠ [] := by
  unfold step
  split
  · exact h
  split
  · exact h
  split
  · exact h
  split
  · exact finish_ne_nil h
  · exact h

end Splitter

/-- The fields of a line. -/
def splitFields (line : List Char) : List (List Char) :=
  (line.foldl Splitter.step Splitter.start).finish

/-- The fields of a line. -/
def fields (line : String) : List String := (splitFields line.toList).map String.ofList

end Listing
end TestSelection
