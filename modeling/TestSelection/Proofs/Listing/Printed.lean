/-
# Reading printed lines back

Every line that the command prints is read by itself, whatever stands on the other lines
(`parseFind_append`), so the paths on some lines are those on the first one, then those on the
second one, and so on (`parseFind_printLines`). In particular a quote that is not closed, and a
backslash at the end of a line, do not reach the next line.

A path is read back from its line if what means something to the reading of a line is written in
another way (`escaped`):

| character | written |
| --- | --- |
| line end `\n` | `\n` |
| tab | `\t` |
| any other blank, a quote, a backslash | the same after a backslash |
| all else | the same |

A path without such characters is written as it is (`escaped_of_isPlain`).
-/

import TestSelection.Proofs.Listing.Fields
import TestSelection.Proofs.Text.Lines
import Mathlib.Data.List.Basic

namespace TestSelection
namespace Listing

/-- Whether the reading of a line takes every character of a path as it is. -/
def IsPlain (path : String) : Prop := ∀ c ∈ path.toList, isSpecial c = false

/-- What stands behind `./` is the path. -/
theorem dropDotSlash_cons (line : List Char) : dropDotSlash ('.' :: '/' :: line) = line := rfl

/-! ### Lines apart -/

/-- What is printed up to a line end is read apart from the rest. -/
theorem parseFind_append_newline (a b : String) :
    parseFind (a ++ "\n" ++ b) = parseFind (a ++ "\n") ++ parseFind b := by
  have hend : (a ++ "\n").toList = a.toList ++ ['\n'] := by simp
  have hall : (a ++ "\n" ++ b).toList = a.toList ++ '\n' :: b.toList := by simp
  rw [parseFind, parseFind, parseFind, hend, hall, Text.lines_append_newline,
    List.filterMap_append]

/-- A line end at the end of a text adds no path. -/
theorem parseFind_concat_newline (a : String) : parseFind (a ++ "\n") = parseFind a := by
  have hend : (a ++ "\n").toList = a.toList ++ ['\n'] := by simp
  have hnone : [[]].filterMap pathOfLine = [] := rfl
  rw [parseFind, parseFind, hend]
  rcases Text.lines_concat_newline a.toList with h | h
  · rw [h]
  · rw [h, List.filterMap_append, hnone, List.append_nil]

/-- **Lines are read apart.**  What stands before a line end and what stands after it are read as if
the other were not there. -/
theorem parseFind_append (a b : String) :
    parseFind (a ++ "\n" ++ b) = parseFind a ++ parseFind b := by
  rw [parseFind_append_newline, parseFind_concat_newline]

/-- Some lines, each with its end. -/
def printLines (ls : List String) : String := String.join (ls.map (· ++ "\n"))

/-- So lines that are printed one after another are read one by one. -/
theorem parseFind_printLines (ls : List String) :
    parseFind (printLines ls) = ls.flatMap parseFind := by
  induction ls with
  | nil => rfl
  | cons l ls ih =>
    have hcut : printLines (l :: ls) = l ++ "\n" ++ printLines ls := by
      rw [printLines, List.map_cons, String.join_cons]
      rfl
    rw [hcut, parseFind_append, ih, List.flatMap_cons]

/-! ### Escaped paths -/

/-- What is written for a character of a path. -/
def escapedChar (c : Char) : List Char :=
  if c = '\n' then ['\\', 'n']
  else if c = '\t' then ['\\', 't']
  else if isSpecial c then ['\\', c]
  else [c]

/-- A path as it is read back. -/
def escaped (path : String) : String := String.ofList (path.toList.flatMap escapedChar)

variable {c : Char} {cs : List Char} {path : String}

/-- After a backslash a special character stands for itself. -/
theorem unescape_of_isSpecial (h : isSpecial c = true) : Splitter.unescape c = c := by
  have ht : c ≠ 't' := by
    rintro rfl
    exact absurd h (by decide)
  have hn : c ≠ 'n' := by
    rintro rfl
    exact absurd h (by decide)
  rw [Splitter.unescape, if_neg ht, if_neg hn]

namespace Splitter

variable {s : Splitter}

/-- A backslash and the character after it, in quotes or not. -/
theorem step_step_backslash (he : s.escaped = false) (c : Char) :
    (s.step '\\').step c = { s with word := s.word ++ [unescape c] } := by
  have hslash : s.step '\\' = { s with escaped := true } := by simp [step, he]
  rw [hslash, step, if_pos rfl, he]

/-- A character is read from what is written for it. -/
theorem foldl_step_escapedChar (he : s.escaped = false) (c : Char) :
    (escapedChar c).foldl step s = { s with word := s.word ++ [c] } := by
  -- One case for each line of the table: two named escapes, the others, and none.
  unfold escapedChar
  split
  case isTrue h =>
    subst h
    exact step_step_backslash he 'n'
  split
  case isTrue h =>
    subst h
    exact step_step_backslash he 't'
  split
  case isTrue h =>
    show (s.step '\\').step c = _
    rw [step_step_backslash he, unescape_of_isSpecial h]
  case isFalse h => exact step_plain he (by simpa using h)

/-- The open field takes all of an escaped text, whatever characters it has. -/
theorem foldl_step_escaped (he : s.escaped = false) (cs : List Char) :
    (cs.flatMap escapedChar).foldl step s = { s with word := s.word ++ cs } :=
  foldl_step_flatMap he fun c _ _ ht _ => foldl_step_escapedChar ht c

end Splitter

/-- **An escaped text is one field, the text.** -/
theorem splitFields_escaped (hne : cs ≠ []) : splitFields (cs.flatMap escapedChar) = [cs] :=
  splitFields_of_foldl hne (Splitter.foldl_step_escaped rfl cs)

/-- A plain character is its own escape. -/
theorem escapedChar_of_isSpecial_eq_false (h : isSpecial c = false) : escapedChar c = [c] := by
  have hline : c ≠ '\n' := by
    rintro rfl
    exact absurd h (by decide)
  have htab : c ≠ '\t' := by
    rintro rfl
    exact absurd h (by decide)
  rw [escapedChar, if_neg hline, if_neg htab, if_neg (by simp [h])]

/-- A plain path is printed as it is. -/
theorem escaped_of_isPlain (h : IsPlain path) : escaped path = path := by
  have hchars : ∀ c ∈ path.toList, escapedChar c = [c] := fun c hc =>
    escapedChar_of_isSpecial_eq_false (h c hc)
  rw [escaped, List.flatMap_congr hchars, List.flatMap_singleton', String.ofList_toList]

/-- The line end `\n` is escaped, so that none is left if there is no other. -/
theorem isLineEnd_of_mem_escapedChar (h : Text.isLineEnd c = true → c = '\n') :
    ∀ d ∈ escapedChar c, Text.isLineEnd d = false := by
  have hslash : Text.isLineEnd '\\' = false := by decide
  unfold escapedChar
  split
  case isTrue => exact List.forall_mem_cons.2 ⟨hslash, List.forall_mem_singleton.2 (by decide)⟩
  -- All that is written besides `\n` is a backslash and the character, which is no line end by `h`.
  case isFalse hc =>
    have hend : Text.isLineEnd c = false := by
      cases he : Text.isLineEnd c with
      | false => rfl
      | true => exact absurd (h he) hc
    split
    · exact List.forall_mem_cons.2 ⟨hslash, List.forall_mem_singleton.2 (by decide)⟩
    split
    · exact List.forall_mem_cons.2 ⟨hslash, List.forall_mem_singleton.2 hend⟩
    · exact List.forall_mem_singleton.2 hend

/-- A path that is not empty and that its escapes put on one line: of the characters that end a line
it holds `\n` only. -/
def IsOneLine (path : String) : Prop :=
  path ≠ "" ∧ ∀ c ∈ path.toList, Text.isLineEnd c = true → c = '\n'

/-- **A path is read back from its line.** -/
theorem parseFind_escaped (h : IsOneLine path) : parseFind ("./" ++ escaped path) = [path] := by
  have hchars : ("./" ++ escaped path).toList =
      '.' :: '/' :: path.toList.flatMap escapedChar := by simp [escaped]
  have hends : ∀ c ∈ '.' :: '/' :: path.toList.flatMap escapedChar, Text.isLineEnd c = false := by
    refine List.forall_mem_cons.2 ⟨by decide, List.forall_mem_cons.2 ⟨by decide, fun d hd => ?_⟩⟩
    obtain ⟨c, hc, hd⟩ := List.mem_flatMap.1 hd
    exact isLineEnd_of_mem_escapedChar (h.2 c hc) d hd
  have hne : path.toList ≠ [] := by simpa using h.1
  have hend : ("./" ++ escaped path ++ "\n").toList =
      '.' :: '/' :: path.toList.flatMap escapedChar ++ ['\n'] := by
    rw [String.toList_append, hchars]
    rfl
  rw [← parseFind_concat_newline, parseFind, hend, Text.lines_newline_of_forall hends,
    List.filterMap_cons, pathOfLine, dropDotSlash_cons, splitFields_escaped hne, List.head?_cons,
    Option.map_some, String.ofList_toList]
  rfl

/-- A line end is special, so a plain path is on one line. -/
theorem IsPlain.isOneLine (hne : path ≠ "") (h : IsPlain path) : IsOneLine path := by
  refine ⟨hne, fun c hc hend => ?_⟩
  have hblank := (isSpecial_eq_false_iff.1 (h c hc)).2.2
  rw [Text.isBlank_of_isLineEnd hend] at hblank
  cases hblank

/-- **A plain path is read back from its line as it stands**, also if it begins with `./` itself. -/
theorem parseFind_of_isPlain (hne : path ≠ "") (h : IsPlain path) :
    parseFind ("./" ++ path) = [path] := by
  have hread := parseFind_escaped (h.isOneLine hne)
  rwa [escaped_of_isPlain h] at hread

/-- **What is printed is read back.**  Lines are read apart from each other; paths that are printed
one a line, with an escape for each character that means something to the reading, are read back in
order; and plain paths need no escapes. -/
theorem parseFind_reads_lines :
    (∀ a b, parseFind (a ++ "\n" ++ b) = parseFind a ++ parseFind b) ∧
      (∀ paths : List String, (∀ path ∈ paths, IsOneLine path) →
        parseFind (printLines (paths.map fun path => "./" ++ escaped path)) = paths) ∧
      ∀ paths : List String, (∀ path ∈ paths, path ≠ "" ∧ IsPlain path) →
        parseFind (printLines (paths.map fun path => "./" ++ path)) = paths := by
  have hlines : ∀ (line : String → String) (paths : List String),
      (∀ path ∈ paths, parseFind (line path) = [path]) →
        parseFind (printLines (paths.map line)) = paths := by
    intro line paths h
    rw [parseFind_printLines, List.flatMap_map, List.flatMap_congr h, List.flatMap_singleton']
  exact ⟨parseFind_append,
    fun paths h => hlines _ paths fun path hp => parseFind_escaped (h path hp),
    fun paths h => hlines _ paths fun path hp => parseFind_of_isPlain (h path hp).1 (h path hp).2⟩

/-- Paths with a line end, a tab, a space, a quote and a backslash in them, and one that begins with
`./` itself. -/
def oddPaths : List String := ["a\nb", "\t", " x \"y", "c\\", "./d"]

instance (path : String) : Decidable (IsOneLine path) :=
  -- Only the characters of the path are tried; an instance that is found may try all there are.
  @instDecidableAnd _ _ inferInstance (List.decidableBAll _ _)

/-- The escapes put each of these paths on one line, and all of them are read back. -/
theorem parseFind_reads_lines_odd : (∀ path ∈ oddPaths, IsOneLine path) ∧
    printLines (oddPaths.map fun path => "./" ++ escaped path) =
      "./a\\nb\n./\\t\n./\\ x\\ \\\"y\n./c\\\\\n././d\n" ∧
    parseFind (printLines (oddPaths.map fun path => "./" ++ escaped path)) = oddPaths := by
  have hpaths : ∀ path ∈ oddPaths, IsOneLine path := by decide
  exact ⟨hpaths, by decide, parseFind_reads_lines.2.1 oddPaths hpaths⟩

end Listing
end TestSelection
