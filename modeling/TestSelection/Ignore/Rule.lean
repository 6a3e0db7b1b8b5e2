/-
# Lines of an ignore file

A line of an ignore file holds a pattern; a `!` in front of it turns it round, so that what it
matches is not ignored. The pattern falls into segments at its slashes:

* a segment `**` stands for any number of directories, and `*` for one whole name;
* in all other segments `*` and `?` stand for characters of a name, brackets for a set of
  characters, and a backslash takes the next character as it is;
* a pattern with a slash at its front or inside is read from the directory of its file, any other
  one from every directory below (`anchor`);
* a slash at the end asks for something below, so that only a directory can match.

Patterns that match everything, or everything in some directory, are shapes of their own
(`Shape`). A line that ends in a backslash or holds no pattern after its `!` is at fault, and so is
a range of characters that runs backwards; of two such faults in one line the former is reported.
-/

import TestSelection.Ignore.Piece
import TestSelection.Text.Blank
import TestSelection.Text.Quoted
import TestSelection.Tree.Resolve

namespace TestSelection
namespace Ignore

/-- Why an ignore file cannot be used. -/
inductive Fault where
  /-- A line that holds no pattern. -/
  | badLine (line : String)
  /-- A range that runs backwards, and where it stands in the text of its pattern's expression. -/
  | badRange (range : Member) (position : Nat)
  | file (f : TestSelection.Fault)
  deriving DecidableEq

/-- What is wrong with the ignore file. -/
def Fault.message : Fault → String
  | .badLine line => "Invalid git pattern: " ++ Text.quoted line
  | .badRange range position =>
    "bad character range " ++ String.ofList range.source ++ " at position " ++ toString position
  | .file f => f.message

/-- What a pattern matches. -/
inductive Shape where
  /-- Every path with a character other than a line end. -/
  | everything
  /-- Every path below some directory. -/
  | nested
  /-- Every path that the pieces span the front of. -/
  | pieces (ps : List Piece)
  deriving DecidableEq

/-- A pattern, and whether what it matches is ignored. -/
structure Rule where
  ignores : Bool
  shape : Shape
  deriving DecidableEq

/-- Whether a path has the shape. -/
def Shape.isMatch (path : List Char) : Shape → Bool
  | .everything => path.any (· != '\n')
  | .nested => path.contains '/'
  | .pieces ps => accepts ps path

/-- The mark at the front of a set that turns it round, and the rest. -/
def negation : List Char → Bool × List Char
  | '!' :: rest => (true, rest)
  | '^' :: rest => (true, rest)
  | rest => (false, rest)

/-- A negation sign is part of what is cut off. This and the next two lemmas are why the reader of a
line comes to an end. -/
theorem length_negation_le (cs : List Char) : (negation cs).2.length ≤ cs.length := by
  unfold negation; split <;> simp

/-- A closing bracket at the front of a set, which belongs to it, and the rest. -/
def firstMember : List Char → List Char × List Char
  | ']' :: rest => ([']'], rest)
  | rest => ([], rest)

/-- The first member of a bracket may be a bracket sign itself; it is cut off as well. -/
theorem length_firstMember_le (cs : List Char) : (firstMember cs).2.length ≤ cs.length := by
  unfold firstMember; split <;> simp

/-- The characters of a set after its opening bracket: whether the set is turned round, what it
holds, and what follows its closing bracket. -/
def bracket? (cs : List Char) : Option (Bool × List Char × List Char) :=
  let (negated, body) := negation cs
  let (first, more) := firstMember body
  match more.dropWhile (· != ']') with
  | [] => none
  | _ :: rest => some (negated, first ++ more.takeWhile (· != ']'), rest)

/-- A bracket with its members takes at least its opening sign. -/
theorem length_of_bracket? {cs : List Char} {negated : Bool} {members rest : List Char}
    (h : bracket? cs = some (negated, members, rest)) : rest.length < cs.length := by
  have hn := length_negation_le cs
  have hf := length_firstMember_le (negation cs).2
  have hd := (List.dropWhile_suffix (· != ']') (l := (firstMember (negation cs).2).2)).length_le
  unfold bracket? at h
  dsimp only at h
  split at h
  · simp at h
  · rename_i c r hr
    rw [hr] at hd
    simp only [Option.some.injEq, Prod.mk.injEq] at h
    obtain ⟨_, _, rfl⟩ := h
    simp only [List.length_cons] at hd
    omega

/-- The members that the characters of a set write. -/
def members : List Char → List Member
  | [] => []
  | first :: '-' :: last :: rest => .range first last :: members rest
  | c :: rest => .one c :: members rest

/-- The pieces of a segment that is not a wildcard as a whole. -/
def segment? (cs : List Char) : Option (List Piece) :=
  match cs with
  | [] => some []
  | '\\' :: [] => none
  | '\\' :: c :: rest => (segment? rest).map (.char c :: ·)
  | '*' :: rest => (segment? rest).map (.run :: ·)
  | '?' :: rest => (segment? rest).map (.one :: ·)
  | '[' :: rest =>
    match _closed : bracket? rest with
    | none => (segment? rest).map (.char '[' :: ·)
    | some (negated, inside, after) =>
      (segment? after).map (.set negated (members inside) :: ·)
  | c :: rest => (segment? rest).map (.char c :: ·)
termination_by cs.length
decreasing_by
  all_goals simp only [List.length_cons]
  all_goals first
    | omega
    | exact Nat.lt_succ_of_lt (length_of_bracket? _closed)

/-- The segment that stands for any number of directories. -/
def anyDirectories : List Char := ['*', '*']

/-- The segment that stands for one whole name. -/
def anyName : List Char := ['*']

/-- The pieces of segments, of which the first stands at the front of the pattern if `front`. A
slash goes before a name unless `leading` brings its own. -/
def pieces? (front slash : Bool) : List (List Char) → Option (List Piece)
  | [] => some []
  | seg :: rest =>
    if seg = anyDirectories then
      if front then (pieces? false false rest).map (.leading :: ·)
      else if rest.isEmpty then some [.char '/']
      else (pieces? false true rest).map (.inner :: ·)
    else do
      let before := if slash then [Piece.char '/'] else []
      let name ← if seg = anyName then some [.someRun] else segment? seg
      let last := if !rest.isEmpty then [] else if seg = anyName then [.pathEnd] else [.nameEnd]
      let after ← pieces? false true rest
      return before ++ name ++ last ++ after

/-- Segments read from the directory of the file. A segment alone, perhaps with a slash after it,
is looked for in every directory. -/
def anchor : List (List Char) → List (List Char)
  | [] :: rest => rest
  | [seg] => if seg = anyDirectories then [seg] else [anyDirectories, seg]
  | [seg, []] => if seg = anyDirectories then [seg, []] else [anyDirectories, seg, []]
  | segs => segs

/-- An empty segment at the end stands for what is below the one before it. -/
def openEnd (segs : List (List Char)) : List (List Char) :=
  if segs.getLast? = some [] then segs.dropLast ++ [anyDirectories] else segs

/-- Of several segments `**` in a row one is enough. -/
def collapse : List (List Char) → List (List Char)
  | a :: b :: rest =>
    if a = anyDirectories ∧ b = anyDirectories then collapse (b :: rest)
    else a :: collapse (b :: rest)
  | segs => segs

/-- The shape of a pattern. -/
def shape? (pattern : List Char) : Option Shape :=
  let below := pattern.getLast? = some '/' ∧ pattern ≠ ['/']
  match collapse (openEnd (anchor (Path.split pattern))) with
  | [] => none
  | segs =>
    if segs = [anyDirectories] then some (if below then .nested else .everything)
    else if segs = [anyDirectories, anyName] then some .everything
    else if segs = [anyDirectories, anyName, anyDirectories] then some .nested
    else (pieces? true false segs).map .pieces

/-- A line without the blanks at its end, unless a backslash saves them. -/
def trimmed (line : List Char) : List Char :=
  if ['\\', ' '].isSuffixOf line then line else Text.trimBack Text.isBlank line

/-- A range that runs backwards in what a pattern matches, and where it stands in the text of the
expression, which begins with a mark for the front of the path. -/
def Shape.backward? : Shape → Option (Member × Nat)
  | .pieces ps => Ignore.backward? 1 ps
  | _ => none

/-- The rule of a pattern that stands on a line. -/
def ruleOf (line pattern : List Char) (ignores : Bool) : Except Fault Rule :=
  match shape? pattern with
  | none => .error (.badLine (String.ofList line))
  | some shape =>
    match shape.backward? with
    | some (range, position) => .error (.badRange range position)
    | none => .ok ⟨ignores, shape⟩

/-- The rule on a line; an empty line and a comment hold none. -/
def ruleOfLine (line : List Char) : Except Fault (Option Rule) :=
  match trimmed line with
  | [] => .ok none
  | '#' :: _ => .ok none
  | '!' :: pattern => (ruleOf line pattern false).map some
  | pattern => (ruleOf line pattern true).map some

end Ignore
end TestSelection
