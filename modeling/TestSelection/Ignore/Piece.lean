/-
# Pieces of ignore patterns

An ignore pattern is read as a list of pieces. As with globs, a piece passes over a span of the path
and leaves the rest to what follows it (`Piece.passes`), but the pattern as a whole only has to
match the front of the path, and says with its last piece how it may end:

| piece | spans |
| --- | --- |
| `char`, `set` | one character: a given one, or one that is or is not among some members |
| `one`, `run`, `someRun` | one, any or some characters other than `/` |
| `leading` | nothing, or some directories and the slash after them |
| `inner` | nothing, or a slash and some text of one line after it |
| `nameEnd` | a slash, or the end of the path |
| `pathEnd` | the end of the path, a slash before it allowed |

The end of a path may have one line end after it.

The pieces of a pattern stand for a regular expression that is matched at the front of the path.
Messages refer to places in its text (`Piece.source`).
-/

import TestSelection.Regex.Basic

namespace TestSelection
namespace Ignore

/-- A member of a set of characters: one of them, or all from one to another. -/
inductive Member where
  | one (c : Char)
  | range (first last : Char)
  deriving DecidableEq

/-- Whether a character belongs to a member. -/
def Member.holds (c : Char) : Member → Bool
  | .one d => c == d
  | .range first last => first ≤ c && c ≤ last

/-- Whether a member is a range that runs backwards, which no character belongs to. -/
def Member.isBackward : Member → Bool
  | .one _ => false
  | .range first last => last < first

/-- A piece of an ignore pattern. -/
inductive Piece where
  | char (c : Char)
  | set (negated : Bool) (members : List Member)
  | one
  | run
  | someRun
  | leading
  | inner
  | nameEnd
  | pathEnd
  deriving DecidableEq

/-- Whether a path ends here. -/
def atEnd (rest : List Char) : Bool := rest == [] || rest == ['\n']

/-- Whether some characters other than `/` leave a rest that passes the test. -/
def passRun (test : List Char → Bool) : List Char → Bool
  | [] => test []
  | c :: rest => test (c :: rest) || (c != '/' && passRun test rest)

/-- Whether a slash leaves a rest that passes the test, with at least one character on the same
line before it; `begun` says that there is one already. -/
def passDirectories (test : List Char → Bool) (begun : Bool) : List Char → Bool
  | [] => false
  | c :: rest =>
    (begun && c == '/' && test rest) || (c != '\n' && passDirectories test true rest)

/-- Whether some characters of one line leave a rest that passes the test; `begun` says that there
is one already. -/
def passLine (test : List Char → Bool) (begun : Bool) : List Char → Bool
  | [] => begun && test []
  | c :: rest => (begun && test (c :: rest)) || (c != '\n' && passLine test true rest)

/-- Whether a character is among some members. -/
def inSet (members : List Member) (c : Char) : Bool := members.any (Member.holds c)

/-- Whether some span of the piece leaves a rest that passes the test. -/
def Piece.passes (test : List Char → Bool) : Piece → List Char → Bool
  | .char c, path => match path with
    | [] => false
    | d :: rest => d == c && test rest
  | .set negated members, path => match path with
    | [] => false
    | d :: rest => inSet members d != negated && test rest
  | .one, path => match path with
    | [] => false
    | d :: rest => d != '/' && test rest
  | .run, path => passRun test path
  | .someRun, path => match path with
    | [] => false
    | d :: rest => d != '/' && passRun test rest
  | .leading, path => test path || passDirectories test false path
  | .inner, path => test path || match path with
    | '/' :: rest => passLine test false rest
    | _ => false
  | .nameEnd, path => match path with
    | '/' :: rest => test rest
    | rest => atEnd rest && test rest
  | .pathEnd, path => match path with
    | '/' :: rest => atEnd rest && test rest
    | rest => atEnd rest && test rest

/-- Whether the pieces together span the front of the path. -/
def accepts : List Piece → List Char → Bool
  | [], _ => true
  | p :: ps, path => p.passes (accepts ps) path

/-! ## The text of the expression -/

/-- A character in the text of a set. -/
def memberChar (c : Char) : List Char := if c = '\\' then ['\\', '\\'] else [c]

/-- The text of a member. -/
def Member.source : Member → List Char
  | .one c => memberChar c
  | .range first last => memberChar first ++ '-' :: memberChar last

/-- The text of a set in front of its members. -/
def setStart (negated : Bool) : List Char := if negated then ['[', '^'] else ['[']

/-- The text of a piece. -/
def Piece.source : Piece → List Char
  | .char c => Regex.escaped c
  | .set negated members => setStart negated ++ members.flatMap Member.source ++ [']']
  | .one => "[^/]".toList
  | .run => "[^/]*".toList
  | .someRun => "[^/]+".toList
  | .leading => "(?:.+/)?".toList
  | .inner => "(?:/.+)?".toList
  | .nameEnd => "(?:/|$)".toList
  | .pathEnd => "/?$".toList

/-- The first member of a set, whose text begins at a position, that is a range running backwards;
and where its own text begins. -/
def backwardIn (position : Nat) : List Member → Option (Member × Nat)
  | [] => none
  | m :: rest =>
    if m.isBackward then some (m, position) else backwardIn (position + m.source.length) rest

/-- The first range running backwards in some pieces, whose text begins at a position, and where its
own text begins. -/
def backward? (position : Nat) : List Piece → Option (Member × Nat)
  | [] => none
  | p :: rest =>
    let found := match p with
      | .set negated members => backwardIn (position + (setStart negated).length) members
      | _ => none
    found.or (backward? (position + p.source.length) rest)

end Ignore
end TestSelection
