/-
# Globs as regular expressions

The regular expression of a glob holds the pieces of its tokens, one after another, between the two
ends of the path. It has no way to say "no `/.` inside", so `deep` goes from one component start to
the next: up to each `/` it takes what is there, and after it a character that is neither `/` nor a
dot (`deepTail`).

The other three forms of `deep` look at the leftmost character that is neither `/` nor a dot, if
there is one: before it stand slashes only, or, where the first character may be a dot, dots and
then slashes; after it stands a `deepTail`.
-/

import TestSelection.Glob.Token
import TestSelection.Regex.Basic

namespace TestSelection
namespace Glob

open Regex

/-- Any character but `/`. -/
def notSlash : Regex := .set true ['/']

/-- Any character but `/` and the dot. -/
def notSlashOrDot : Regex := .set true ['/', '.']

/-- A run of slashes, perhaps empty. -/
def slashes : Regex := .star (.char (.char '/'))

/-- At least one slash. -/
def someSlashes : Regex := .plus (.char (.char '/'))

/-- The pieces of an expression for any text without `/.`. -/
def deepTail : List Regex :=
  [.star (.group (.seq [.star notSlash, someSlashes, notSlashOrDot])), .star notSlash, slashes]

/-- Any text without `/.` that does not begin with a dot. -/
def deepAtStart : Regex :=
  .group (.alt (.seq (slashes :: notSlashOrDot :: deepTail)) slashes)

/-- Any text without `/.` that does not begin with a dot and is not empty. -/
def someDeepAtStart : Regex :=
  .group (.alt (.seq (slashes :: notSlashOrDot :: deepTail)) someSlashes)

/-- Any text without `/.` that is not empty. -/
def someDeepInside : Regex :=
  let dot := Regex.set false ['.']
  .group (.alt (.seq (.star dot :: slashes :: notSlashOrDot :: deepTail))
    (.alt (.seq [.star dot, someSlashes]) (.plus dot)))

/-- The pieces of the expression of one token; `start` says that a path component begins there. -/
def Token.pieces (start : Bool) : Token → List Regex
  | .char c => [.char c]
  | .one => if start then [notSlashOrDot] else [notSlash]
  | .run =>
    if start then [.group (.alt (.seq [notSlashOrDot, .star notSlash]) .empty)]
    else [.star notSlash]
  | .someRun => if start then [notSlashOrDot, .star notSlash] else [.plus notSlash]
  | .deep => if start then [deepAtStart] else deepTail
  | .someDeep => if start then [someDeepAtStart] else [someDeepInside]

/-- The pieces of some tokens, in order. -/
def pieces (start : Bool) : List Token → List Regex
  | [] => []
  | t :: ts => t.pieces start ++ pieces t.endsComponent ts

/-- The regular expression of a glob, which matches a path from its start to its end. -/
def regex (glob : Glob) : Regex := .seq (.first :: pieces true glob.tokens ++ [.last])

/-- The text of the regular expression of a glob. -/
def regexSource (glob : Glob) : Text := glob.regex.source

end Glob
end TestSelection
