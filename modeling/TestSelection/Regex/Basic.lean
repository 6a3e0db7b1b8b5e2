/-
# Regular expressions and their text

The part of regular expressions that globs need: characters, sets of characters, concatenation,
alternatives in a group, repetition, and the two ends of the text (`first` and `last`). The text of
an expression (`Regex.source`) is what is handed to other tools, so grouping is explicit:
`Regex.group` writes `(?:…)`, and nothing else writes parentheses.

A character that means something in an expression is written after a backslash (`escaped`).
-/

import TestSelection.Text.Basic

namespace TestSelection

/-- A regular expression. -/
inductive Regex where
  | empty
  /-- The start of the text. -/
  | first
  /-- The end of the text. -/
  | last
  | char (c : Code)
  | set (negated : Bool) (members : List Char)
  | cat (left right : Regex)
  | alt (left right : Regex)
  | group (inner : Regex)
  | star (inner : Regex)
  | plus (inner : Regex)
  deriving DecidableEq

namespace Regex

/-- The characters that are written after a backslash. -/
def isSpecial (c : Char) : Bool := " \t\n\r\x0b\x0c()[]\x7b\x7d?*+-|^$\\.&~#".toList.contains c

/-- A character as an expression for itself. -/
def escaped (c : Char) : List Char := if isSpecial c then ['\\', c] else [c]

/-- A code point as an expression for itself. -/
def escapedCode : Code → Text
  | .char c => Text.ofChars (escaped c)
  | .half n => [.half n]

/-- The text of a set of characters. -/
def setSource (negated : Bool) (members : List Char) : List Char :=
  '[' :: (if negated then ['^'] else []) ++ members ++ [']']

/-- The text of an expression. -/
def source : Regex → Text
  | .empty => []
  | .first => "\\A"
  | .last => "\\Z"
  | .char c => escapedCode c
  | .set negated members => Text.ofChars (setSource negated members)
  | .cat left right => source left ++ source right
  | .alt left right => source left ++ "|" ++ source right
  | .group inner => "(?:" ++ source inner ++ ")"
  | .star inner => source inner ++ "*"
  | .plus inner => source inner ++ "+"

/-- Some expressions one after another. -/
def seq : List Regex → Regex
  | [] => .empty
  | [r] => r
  | r :: rest => .cat r (seq rest)

end Regex
end TestSelection
