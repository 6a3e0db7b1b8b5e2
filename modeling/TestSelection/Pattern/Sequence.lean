/-
# Sequences of patterns

Patterns are declared in a list, and the last one that matches a path decides whether the path is
selected; a path that none of them matches is not. A `Sequence` holds the compiled patterns with
the last declared one first, so the first match in it is the one that decides.

All patterns of a sequence may be scoped under a directory, the prefix: it is put in front of each
glob with exactly one `/` between them (`joinDirectory`).
-/

import TestSelection.Glob.Match
import TestSelection.Pattern.Basic
import TestSelection.Text.Trim

namespace TestSelection

/-- A compiled pattern. -/
structure Matcher where
  /-- Whether the paths that it matches are selected. -/
  selects : Bool
  glob : Glob
  deriving DecidableEq

/-- Compiled patterns, the last declared one first. -/
structure Sequence where
  matchers : List Matcher
  deriving DecidableEq

/-- Whether a code point is a slash. -/
def isSlash (c : Code) : Bool := c == .char '/'

/-- A directory and a glob with exactly one `/` between them. -/
def joinDirectory (directory glob : Text) : Text :=
  Text.trimBack isSlash directory ++ "/" ++ glob.dropWhile isSlash

/-- A glob under a directory. None, and the empty one, leave the glob as it is. -/
def underDirectory (directory : Option Text) (glob : Text) : Text :=
  match directory with
  | none => glob
  | some d => if d.isEmpty then glob else joinDirectory d glob

namespace Sequence

/-- Compiles patterns that are given from the last declared on, up to the first bad glob. -/
def compileReversed (directory : Option Text) :
    List Pattern → Except Glob.Rejection (List Matcher)
  | [] => .ok []
  | p :: rest => do
    let glob ← Glob.ofText (underDirectory directory p.glob)
    let matchers ← compileReversed directory rest
    return ⟨p.selects, glob⟩ :: matchers

/-- Compiles patterns that are given as declared. Of several bad globs the last one is reported. -/
def compile (patterns : List Pattern) (directory : Option Text) :
    Except Glob.Rejection Sequence :=
  (compileReversed directory patterns.reverse).map (⟨·⟩)

/-- Whether the path is selected: the last declared pattern that matches it decides. -/
def decides (path : String) : List Matcher → Bool
  | [] => false
  | m :: rest => if m.glob.isMatch path then m.selects else decides path rest

/-- Whether the sequence selects the path. -/
def evaluate (s : Sequence) (path : String) : Bool := decides path s.matchers

/-- The paths that the sequence selects, in their order. -/
def select (s : Sequence) (paths : List String) : List String := paths.filter s.evaluate

end Sequence
end TestSelection
