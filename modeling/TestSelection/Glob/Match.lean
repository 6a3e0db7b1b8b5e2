/-
# Matching paths

A glob matches a path when the path falls into one span per token, in order (`Glob.accepts`). Each
token passes over a span and leaves the rest of the path to what follows it, so a token is a
function from tests of the rest to tests of the whole (`Token.passes`).

At the start of a path component a wildcard never takes a dot. The start of the path counts, and
so does every place after a `/`: for the tokens after a literal `/` as well as inside the span of
`deep`. Taking a character is therefore one test (`wild`) with that one flag.
-/

import TestSelection.Glob.Token

namespace TestSelection
namespace Glob

/-- Whether a wildcard takes the character; `start` says that a path component begins there. -/
def wild (start : Bool) (c : Char) : Bool := !(start && c == '.')

/-- Whether some run of characters other than `/` leaves a rest that passes the test. -/
def passRun (test : List Char → Bool) (start : Bool) : List Char → Bool
  | [] => test []
  | c :: rest =>
    test (c :: rest) || (c != '/' && wild start c && passRun test false rest)

/-- Whether some text without a component that begins with a dot leaves a rest that passes the
test. -/
def passDeep (test : List Char → Bool) (start : Bool) : List Char → Bool
  | [] => test []
  | c :: rest => test (c :: rest) || (wild start c && passDeep test (c == '/') rest)

/-- Whether some span of the token leaves a rest that passes the test. -/
def Token.passes (test : List Char → Bool) (start : Bool) : Token → List Char → Bool
  | .char c, path => match path with
    | [] => false
    | d :: rest => .char d == c && test rest
  | .one, path => match path with
    | [] => false
    | d :: rest => d != '/' && wild start d && test rest
  | .run, path => passRun test start path
  | .someRun, path => match path with
    | [] => false
    | d :: rest => d != '/' && wild start d && passRun test false rest
  | .deep, path => passDeep test start path
  | .someDeep, path => match path with
    | [] => false
    | d :: rest => wild start d && passDeep test (d == '/') rest

/-- Whether the tokens together span the path; `start` says that a path component begins at the
first of them. -/
def accepts (start : Bool) : List Token → List Char → Bool
  | [], path => path.isEmpty
  | t :: ts, path => t.passes (accepts t.endsComponent ts) start path

/-- Whether the glob matches the path as a whole. -/
def isMatch (glob : Glob) (path : String) : Bool := accepts true glob.tokens path.toList

end Glob
end TestSelection
