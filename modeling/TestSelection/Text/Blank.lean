/-
# Blanks and lines

Which characters separate words and which end lines, with the three operations that rest on
them:

| operation | what it does |
| --- | --- |
| `strip` | drops the blanks at both ends |
| `lines` | cuts a text after every line end, `\r\n` counting as one |
| `unifyLineEnds` | writes every `\r\n` and every lone `\r` as `\n` |

A line end is a blank too (`isBlank_of_isLineEnd`), so a line is never cut inside a word.
-/

import TestSelection.Text.Basic
import TestSelection.Text.Trim

namespace TestSelection
namespace Text

/-- A character that separates words: the control characters that move the print position, the
four separators above them, and every space and line mark of Unicode. -/
def isBlank (c : Char) : Bool :=
  let n := c.toNat
  (0x09 ≤ n && n ≤ 0x0d) || (0x1c ≤ n && n ≤ 0x20) || n == 0x85 || n == 0xa0 || n == 0x1680 ||
    (0x2000 ≤ n && n ≤ 0x200a) || n == 0x2028 || n == 0x2029 || n == 0x202f || n == 0x205f ||
    n == 0x3000

/-- A character after which a new line begins. -/
def isLineEnd (c : Char) : Bool :=
  let n := c.toNat
  (0x0a ≤ n && n ≤ 0x0d) || (0x1c ≤ n && n ≤ 0x1e) || n == 0x85 || n == 0x2028 || n == 0x2029

/-- Every sign that ends a line is a blank. -/
theorem isBlank_of_isLineEnd {c : Char} (h : isLineEnd c = true) : isBlank c = true := by
  simp only [isLineEnd, isBlank, Bool.or_eq_true, Bool.and_eq_true, decide_eq_true_eq,
    beq_iff_eq] at h ⊢
  omega

/-- A text without the blanks at either end. -/
def strip (t : Text) : Text := trim (Code.passes isBlank) t

/-- Puts one character in front of the first of some lines. -/
def extendFirst (c : Char) : List (List Char) → List (List Char)
  | [] => [[c]]
  | l :: ls => (c :: l) :: ls

/-- The lines of a text without their ends. A text that ends in a line end has no further, empty
line after it. -/
def lines : List Char → List (List Char)
  | [] => []
  | '\r' :: '\n' :: rest => [] :: lines rest
  | c :: rest => if isLineEnd c then [] :: lines rest else extendFirst c (lines rest)

/-- The same text with `\n` for every `\r\n` and every other `\r`. -/
def unifyLineEnds : List Char → List Char
  | [] => []
  | '\r' :: '\n' :: rest => '\n' :: unifyLineEnds rest
  | c :: rest => (if c = '\r' then '\n' else c) :: unifyLineEnds rest

end Text
end TestSelection
