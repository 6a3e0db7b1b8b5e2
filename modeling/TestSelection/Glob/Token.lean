/-
# Glob tokens

A glob is read as a list of tokens:

| written | token | stands for |
| --- | --- | --- |
| `?` | `one` | one character other than `/` |
| `*` | `run` | any characters other than `/` |
| `*?` | `someRun` | at least one character other than `/` |
| `**`, `***`, … | `deep` | anything without `/.` |
| `**?`, `***?`, … | `someDeep` | anything without `/.` but the empty text |
| `\?`, `\*`, `\\`, `\[` | `char` | the character after the backslash |
| any other character | `char` | itself |

A backslash before anything else and an opening bracket are rejected (`Flaw`). The tokens are found
from the back of the glob: a star is joined to a wildcard that directly follows it (`star`), which
makes one token of every run of stars and of the `?` after it.
-/

import TestSelection.Text.Basic

namespace TestSelection
namespace Glob

/-- One token of a glob. -/
inductive Token where
  | char (c : Code)
  | one
  | run
  | someRun
  | deep
  | someDeep
  deriving DecidableEq

/-- Why a glob is rejected. -/
inductive Flaw where
  | badEscape
  | charClass
  deriving DecidableEq

/-- What is wrong with a glob, in words. -/
def Flaw.message : Flaw → String
  | .badEscape => "Bad escape sequence"
  | .charClass => "Character classes not supported"

/-- A glob that was rejected, with the reason. -/
structure Rejection where
  glob : Text
  flaw : Flaw
  deriving DecidableEq

/-- What is wrong, and the glob in which it was found. -/
def Rejection.message (r : Rejection) : Text := r.flaw.message ++ ", in glob: " ++ r.glob

/-- What a backslash may stand before. -/
def isEscapable (c : Code) : Bool :=
  c == .char '?' || c == .char '*' || c == .char '\\' || c == .char '['

/-- A star in front of the tokens of the text after it. -/
def star : List Token → List Token
  | .one :: rest => .someRun :: rest
  | .run :: rest => .deep :: rest
  | .deep :: rest => .deep :: rest
  | .someRun :: rest => .someDeep :: rest
  | .someDeep :: rest => .someDeep :: rest
  | rest => .run :: rest

/-- The tokens of a glob, or the leftmost flaw. -/
def tokenize : Text → Except Flaw (List Token)
  | [] => .ok []
  | .char '\\' :: c :: rest =>
    if isEscapable c then (tokenize rest).map (.char c :: ·) else .error .badEscape
  | .char '\\' :: [] => .error .badEscape
  | .char '[' :: _ => .error .charClass
  | .char '?' :: rest => (tokenize rest).map (.one :: ·)
  | .char '*' :: rest => (tokenize rest).map star
  | c :: rest => (tokenize rest).map (.char c :: ·)

/-- Whether the token after this one stands at the start of a path component. -/
def Token.endsComponent (t : Token) : Bool := t == .char (.char '/')

end Glob

/-- A glob with its tokens. -/
structure Glob where
  text : Text
  tokens : List Glob.Token
  deriving DecidableEq

/-- Reads a glob. -/
def Glob.ofText (text : Text) : Except Glob.Rejection Glob :=
  match Glob.tokenize text with
  | .ok tokens => .ok ⟨text, tokens⟩
  | .error flaw => .error ⟨text, flaw⟩

end TestSelection
