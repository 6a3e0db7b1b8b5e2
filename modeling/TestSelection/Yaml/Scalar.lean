/-
# Scalars

The three ways to write a text:

* plain, up to a colon, a comment, or, in flow collections, a bracket, a brace or a comma
  (`plain`);
* in quotes, double ones with escapes, single ones with every quote doubled (`quoted`);
* as a block of lines that are indented further than what is around it, kept or folded (`block`).

In the first two, and in a folded block, a line end between two lines of text counts as a space,
and of several the first is dropped. A document may not begin or end inside a scalar.
-/

import TestSelection.Yaml.Cursor

namespace TestSelection
namespace Yaml

/-- A line end and the empty lines after it, as they are read: alone it is a space. -/
def fold (first : Char) (more : List Char) : List Char :=
  if first ≠ '\n' then first :: more else if more.isEmpty then [' '] else more

/-! ## Plain scalars -/

/-- Whether a plain scalar ends before this character, of which the next one is given. -/
def endsPlain (flow : Bool) (c : Char) (after : Option Char) : Bool :=
  isGapOrEnd (some c) ||
    (c == ':' && (isGapOrEnd after || (flow && ",[]\x7b\x7d".toList.contains (after.getD ' ')))) ||
    (flow && ",?[]\x7b\x7d".toList.contains c)

/-- How many characters of a plain scalar stand at the front of a text. -/
def plainLength (flow : Bool) : List Char → Nat
  | [] => 0
  | c :: rest => if endsPlain flow c rest.head? then 0 else plainLength flow rest + 1

/-- The line ends among spaces and line ends, up to something else; nothing where a document begins
or ends after one of them. -/
def plainBreaks : Nat → Cursor → Option (List Char) × Cursor
  | 0, c => (some [], c)
  | steps + 1, c =>
    match c.lineBreak? with
    | some (b, c) =>
      if c.isSeparator then (none, c)
      else
        let (more, c) := plainBreaks steps c
        (more.map (b :: ·), c)
    | none => if c.peek = some ' ' then plainBreaks steps c.next else (some [], c)

/-- What separates two words of a plain scalar, and whether it holds a line end. Nothing separates
them where the scalar ends. -/
def plainGap (c : Cursor) : List Char × Bool × Cursor :=
  let (spaces, c) := c.span (· == ' ')
  match c.lineBreak? with
  | none => (spaces, false, c)
  | some (b, c) =>
    if c.isSeparator then ([], true, c)
    else
      match plainBreaks c.rest.length c with
      | (none, c) => ([], true, c)
      | (some more, c) => (fold b more, true, c)

/-- A plain scalar that has the text `done` so far, followed by `gap`. Gives the text, whether a
new line was begun after it, and what is left. -/
def plainFrom (flow : Bool) (indent : Int) :
    Nat → (done gap : List Char) → (broken : Bool) → Cursor → List Char × Bool × Cursor
  | 0, done, _, broken, c => (done, broken, c)
  | steps + 1, done, gap, broken, c =>
    let length := plainLength flow c.rest
    if c.peek = some '#' || length = 0 then (done, broken, c)
    else
      let text := done ++ gap ++ c.rest.take length
      let (gap, broken, c) := plainGap (c.skip length)
      if gap.isEmpty || c.peek = some '#' || (!flow && (c.column : Int) < indent) then
        (text, broken, c)
      else plainFrom flow indent steps text gap broken c

/-- A plain scalar inside a block of the given indentation, whether a new line was begun after it,
and what is left. -/
def plain (flow : Bool) (indent : Int) (c : Cursor) : Text × Bool × Cursor :=
  let (text, broken, c) := plainFrom flow (indent + 1) (c.rest.length + 1) [] [] false c
  (Text.ofChars text, broken, c)

/-! ## Quoted scalars -/

/-- What an escape of one letter stands for. -/
def escape? (c : Char) : Option Char :=
  match c with
  | '0' => some '\x00'
  | 'a' => some '\x07'
  | 'b' => some '\x08'
  | 't' => some '\t'
  | '\t' => some '\t'
  | 'n' => some '\n'
  | 'v' => some '\x0b'
  | 'f' => some '\x0c'
  | 'r' => some '\r'
  | 'e' => some '\x1b'
  | ' ' => some ' '
  | '"' => some '"'
  | '\\' => some '\\'
  | '/' => some '/'
  | 'N' => some '\x85'
  | '_' => some '\xa0'
  | 'L' => some '\u2028'
  | 'P' => some '\u2029'
  | _ => none

/-- How many hexadecimal digits follow the letter of an escape by number. -/
def escapeWidth? (c : Char) : Option Nat :=
  match c with
  | 'x' => some 2
  | 'u' => some 4
  | 'U' => some 8
  | _ => none

/-- The code point of a number; it may be half of a surrogate pair. -/
def codeOf (n : Nat) : Except Fault Code :=
  match Code.ofNumber? n with
  | some c => .ok c
  | none => .error (if n < Nat.pow 2 31 then .noCharacter else .hugeNumber)

/-- The empty lines at the front of a line of a quoted scalar, without the blanks on them. -/
def quotedBreaks : Nat → Cursor → Except Fault (List Char × Cursor)
  | 0, _ => .error .malformed
  | steps + 1, c => do
    if c.isSeparator then throw .malformed
    let (_, c) := c.span fun x => x == ' ' || x == '\t'
    match c.lineBreak? with
    | some (b, c) =>
      let (more, c) ← quotedBreaks steps c
      return (b :: more, c)
    | none => return ([], c)

/-- What an escape stands for, after its backslash. -/
def quotedEscape (c : Cursor) : Except Fault (Text × Cursor) := do
  let some x := c.peek | throw .malformed
  if let some y := escape? x then return ([.char y], c.next)
  if let some width := escapeWidth? x then
    let digits := c.next.rest.take width
    if digits.length < width || !digits.all (Text.isDigitIn 16) then throw .malformed
    let y ← codeOf (Text.ofDigits 16 digits)
    return ([y], c.next.skip width)
  match c.lineBreak? with
  | some (_, c) =>
    let (breaks, c) ← quotedBreaks (c.rest.length + 1) c
    return (Text.ofChars breaks, c)
  | none => throw .malformed

/-- What blanks between the words of a quoted scalar stand for: themselves, unless a line ends
there. -/
def quotedGap (c : Cursor) : Except Fault (List Char × Cursor) := do
  let (blanks, c) := c.span fun x => x == ' ' || x == '\t'
  match c.lineBreak? with
  | some (b, c) =>
    let (more, c) ← quotedBreaks (c.rest.length + 1) c
    return (fold b more, c)
  | none => return (blanks, c)

/-- A quoted scalar up to its closing quote. -/
def quotedFrom (double : Bool) : Nat → Cursor → Except Fault (Text × Cursor)
  | 0, _ => .error .malformed
  | steps + 1, c => do
    let some x := c.peek | throw .malformed
    if double && x == '\\' then
      let (text, c) ← quotedEscape c.next
      let (more, c) ← quotedFrom double steps c
      return (text ++ more, c)
    else if !double && x == '\'' && c.peekAt 1 == some '\'' then
      let (more, c) ← quotedFrom double steps (c.skip 2)
      return (.char '\'' :: more, c)
    else if x == (if double then '"' else '\'') then return ([], c.next)
    else if isGapOrEnd (some x) then
      let (gap, c) ← quotedGap c
      let (more, c) ← quotedFrom double steps c
      return (Text.ofChars gap ++ more, c)
    else
      let (more, c) ← quotedFrom double steps c.next
      return (.char x :: more, c)

/-- A quoted scalar at the front, with double quotes or with single ones. -/
def quoted (double : Bool) (c : Cursor) : Except Fault (Text × Cursor) :=
  quotedFrom double (c.rest.length + 1) c.next

/-! ## Block scalars -/

/-- What becomes of the line ends at the end of a block: one is kept, all, or none. -/
inductive Chomping where
  | clip
  | keep
  | drop
  deriving DecidableEq

/-- The sign that says what becomes of the line ends. -/
def chomping? : Option Char → Option Chomping
  | some '+' => some .keep
  | some '-' => some .drop
  | _ => none

/-- The digit that says how far the lines are indented. -/
def width? (c : Option Char) : Option Nat := c.bind (Text.digit? 10)

/-- The marks after `|` or `>`, in either order. -/
def blockHeader (c : Cursor) : Except Fault (Chomping × Option Nat × Cursor) := do
  let (first, c) := match chomping? c.peek with
    | some mark => (some mark, c.next)
    | none => (none, c)
  let (width, c) := match width? c.peek with
    | some n => (some n, c.next)
    | none => (none, c)
  let (mark, c) := match first, width, chomping? c.peek with
    | none, some _, some mark => (mark, c.next)
    | first, _, _ => (first.getD .clip, c)
  if width = some 0 || !isSpaceOrEnd c.peek then throw .malformed
  return (mark, width, c)

/-- The empty lines before a block, the deepest column that a space on them reaches, and what is
left. -/
def leadingLines : Nat → Nat → Cursor → List Char × Nat × Cursor
  | 0, deepest, c => ([], deepest, c)
  | steps + 1, deepest, c =>
    match c.lineBreak? with
    | some (b, c) =>
      let (more, deepest, c) := leadingLines steps deepest c
      (b :: more, deepest, c)
    | none =>
      if c.peek = some ' ' then leadingLines steps (max deepest c.next.column) c.next
      else ([], deepest, c)

/-- After spaces, at most up to a column. -/
def indentTo (column : Nat) : Nat → Cursor → Cursor
  | 0, c => c
  | steps + 1, c =>
    if c.column < column ∧ c.peek = some ' ' then indentTo column steps c.next else c

/-- The empty lines inside a block of an indentation, and what is left. -/
def blockBreaks (indent : Nat) : Nat → Cursor → List Char × Cursor
  | 0, c => ([], c)
  | steps + 1, c =>
    let c := indentTo indent indent c
    match c.lineBreak? with
    | some (b, c) =>
      let (more, c) := blockBreaks indent steps c
      (b :: more, c)
    | none => ([], c)

/-- Whether a line of a block begins with a blank, which keeps the line ends around it. -/
def beginsBlank (c : Cursor) : Bool := c.peek == some ' ' || c.peek == some '\t'

/-- The lines of a block, the line end after the last of them, the empty lines after it, and what
is left. `breaks` are the empty lines before the next line. -/
def blockLines (folded : Bool) (indent : Nat) :
    Nat → (breaks : List Char) → Cursor → List Char × List Char × List Char × Cursor
  | 0, breaks, c => ([], [], breaks, c)
  | steps + 1, breaks, c =>
    if c.column ≠ indent || c.peek.isNone then ([], [], breaks, c)
    else
      let blank := beginsBlank c
      let (text, c) := c.span fun x => !isBreak x
      let (ending, c) := match c.lineBreak? with
        | some (b, c) => ([b], c)
        | none => ([], c)
      let (more, c) := blockBreaks indent (c.rest.length + 1) c
      if c.column ≠ indent || c.peek.isNone then (breaks ++ text, ending, more, c)
      else
        let gap :=
          if folded && ending == ['\n'] && !blank && !beginsBlank c then
            if more.isEmpty then [' '] else []
          else ending
        let (lines, last, after, c) := blockLines folded indent steps more c
        (breaks ++ text ++ gap ++ lines, last, after, c)

/-- A block scalar at the front, inside a block of the given indentation. -/
def block (folded : Bool) (indent : Int) (c : Cursor) : Except Fault (Text × Cursor) := do
  let (mark, width, c) ← blockHeader c.next
  let c ← c.endLine
  let least := (max (indent + 1) 1).toNat
  let steps := c.rest.length + 1
  let (breaks, column, c) := match width with
    | some n =>
      let column := least + n - 1
      let (breaks, c) := blockBreaks column steps c
      (breaks, column, c)
    | none =>
      let (breaks, deepest, c) := leadingLines steps 0 c
      (breaks, max least deepest, c)
  let (text, ending, after, c) := blockLines folded column steps breaks c
  let tail := match mark with
    | .drop => []
    | .clip => ending
    | .keep => ending ++ after
  return (Text.ofChars (text ++ tail), c)

end Yaml
end TestSelection
