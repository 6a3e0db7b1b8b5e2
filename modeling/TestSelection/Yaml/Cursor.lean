/-
# Reading a document character by character

A cursor is what is left of a document, with the line and the column of its first character, which
decide where blocks begin and end. A byte order mark takes no column.

Of the line ends, `\n` and `U+0085` are read as `\n`; `U+2028` and `U+2029` stay what they are. The
tests of the next character (`peek`) hold also where a document ends, as the tables of the format
have it.
-/

import TestSelection.Text.Basic
import TestSelection.Text.Digits
import TestSelection.Value.Calendar

namespace TestSelection
namespace Yaml

/-- Why a text gives no value. -/
inductive Fault where
  /-- It is no document, or holds what has no value. -/
  | malformed
  /-- An escape beyond the last character. -/
  | noCharacter
  /-- An escape beyond the numbers that are looked at. -/
  | hugeNumber
  /-- A day or a time that does not exist. -/
  | date (f : DateFault)
  /-- What is marked as a moment is none. -/
  | badTime
  /-- What is marked as a moment is not a text. -/
  | noTimeText
  /-- What is marked as a whole number is none in its base. -/
  | badInteger (base : Nat) (text : Text)
  /-- A whole number of too many digits. -/
  | longInteger (digits : Nat)
  /-- A number to base sixty with places beyond every number. -/
  | hugePlace
  /-- What is marked as a number is none. -/
  | badFloat (text : Text)
  /-- What is marked as a number is empty. -/
  | emptyNumber
  /-- What is marked as a truth value is none. -/
  | badFlag (text : Text)
  /-- A value that contains itself, or that is nested too deep. -/
  | endless
  deriving DecidableEq

/-- A line end. -/
def isBreak (c : Char) : Bool :=
  c == '\n' || c == '\x85' || c == '\u2028' || c == '\u2029'

/-- A line end or the end of the document. -/
def isBreakOrEnd : Option Char → Bool
  | none => true
  | some c => isBreak c

/-- A space, a line end or the end of the document. -/
def isSpaceOrEnd : Option Char → Bool
  | none => true
  | some c => c == ' ' || isBreak c

/-- A space, a tab, a line end or the end of the document. -/
def isGapOrEnd : Option Char → Bool
  | none => true
  | some c => c == ' ' || c == '\t' || isBreak c

/-- A character of names of anchors, tags and directives. -/
def isNameChar (c : Char) : Bool :=
  ('0' ≤ c && c ≤ '9') || ('A' ≤ c && c ≤ 'Z') || ('a' ≤ c && c ≤ 'z') || c == '-' || c == '_'

/-- Whether a document may hold the character. -/
def isAllowed (c : Char) : Bool :=
  let n := c.toNat
  n == 0x09 || n == 0x0a || n == 0x0d || (0x20 ≤ n && n ≤ 0x7e) || n == 0x85 ||
    (0xa0 ≤ n && n ≤ 0xd7ff) || (0xe000 ≤ n && n ≤ 0xfffd) || 0x10000 ≤ n

/-- What is left of a document, and where it begins. -/
structure Cursor where
  rest : List Char
  index : Nat
  line : Nat
  column : Nat

namespace Cursor

/-- The start of a document. -/
def start (cs : List Char) : Cursor := ⟨cs, 0, 0, 0⟩

/-- The next character. -/
def peek (c : Cursor) : Option Char := c.rest.head?

/-- The character after some others. -/
def peekAt (c : Cursor) (n : Nat) : Option Char := c.rest[n]?

/-- After the next character. -/
def next (c : Cursor) : Cursor :=
  match c.rest with
  | [] => c
  | x :: rest =>
    if isBreak x then ⟨rest, c.index + 1, c.line + 1, 0⟩
    else ⟨rest, c.index + 1, c.line, if x = '\ufeff' then c.column else c.column + 1⟩

/-- After some characters. -/
def skip (c : Cursor) : Nat → Cursor
  | 0 => c
  | n + 1 => c.next.skip n

/-- The characters at the front that pass a test, and what comes after them. -/
def span (c : Cursor) (p : Char → Bool) : List Char × Cursor :=
  let found := c.rest.takeWhile p
  (found, c.skip found.length)

/-- After the spaces at the front. -/
def skipSpaces (c : Cursor) : Cursor := (c.span (· == ' ')).2

/-- After a comment at the front, up to its line end. -/
def skipComment (c : Cursor) : Cursor :=
  if c.peek = some '#' then (c.span fun x => !isBreak x).2 else c

/-- A line end at the front, as it is read, and what comes after it. -/
def lineBreak? (c : Cursor) : Option (Char × Cursor) :=
  match c.peek with
  | some x => if isBreak x then some (if x = '\x85' then '\n' else x, c.next) else none
  | none => none

/-- Whether a line with three times the character stands here, which begins or ends a document. -/
def isMarker (c : Cursor) (x : Char) : Bool :=
  c.column == 0 && c.rest.take 3 == [x, x, x] && isGapOrEnd (c.peekAt 3)

/-- Whether a document begins or ends here. -/
def isSeparator (c : Cursor) : Bool := c.isMarker '-' || c.isMarker '.'

/-- After the rest of a line on which only a comment may stand. -/
def endLine (c : Cursor) : Except Fault Cursor :=
  let c := c.skipSpaces.skipComment
  if isBreakOrEnd c.peek then .ok c.next else .error .malformed

end Cursor
end Yaml
end TestSelection
