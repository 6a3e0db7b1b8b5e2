/-
# Ignore files

The rules of an ignore file apply to paths relative to its directory, and the last rule that matches
a path decides. A file without any rule, without a text, or that is no file counts as not there; it
is at fault if nobody can tell whether it is there.
-/

import TestSelection.Ignore.Rule

namespace TestSelection
namespace Ignore

/-- The rules of an ignore file, in their order. -/
structure Spec where
  rules : List Rule
  deriving DecidableEq

/-- The name of ignore files. -/
def fileName : String := ".gitignore"

/-- A path without a slash, or a dot and a slash, at its front. -/
def relative : List Char → List Char
  | '/' :: rest => rest
  | '.' :: '/' :: rest => rest
  | path => path

/-- Whether the last rule that matches says that the path is ignored. -/
def decides (path : List Char) (rules : List Rule) : Bool :=
  match rules.reverse.find? (·.shape.isMatch path) with
  | some rule => rule.ignores
  | none => false

/-- Whether the path is ignored. The path of a directory has a slash at its end. -/
def Spec.ignores (spec : Spec) (path : String) : Bool :=
  decides (relative path.toList) spec.rules

/-- Whether a line may hold a rule: it is neither blank nor a comment, blanks in front aside. -/
def isUseful (line : List Char) : Bool :=
  match line.dropWhile Text.isBlank with
  | [] => false
  | c :: _ => c != '#'

/-- The rules on lines, up to the first bad one. -/
def rulesOfLines : List (List Char) → Except Fault (List Rule)
  | [] => .ok []
  | line :: rest => do
    let rule ← ruleOfLine line
    let rules ← rulesOfLines rest
    return rule.toList ++ rules

/-- The rules of a text, if any of its lines may hold one. -/
def Spec.ofText (s : String) : Except Fault (Option Spec) :=
  match (Text.lines (Text.unifyLineEnds s.toList)).filter isUseful with
  | [] => .ok none
  | lines => (rulesOfLines lines).map (some ⟨·⟩)

/-- The rules of the ignore file in a directory. -/
def load (tree : Tree) (directory : Path) : Except Fault (Option Spec) := do
  let path := directory.under fileName
  if ← (tree.isFile path).mapError .file then
    match (tree.read path).toOption.bind String.fromUTF8? with
    | some s => Spec.ofText s
    | none => return none
  else return none

end Ignore
end TestSelection
