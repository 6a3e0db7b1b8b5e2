/-
# Anchors, tags and directives

What stands in front of a value or of a document: names of anchors, tags with their handles, and
directives. A tag is complete (`!<…>`), or a handle (`!`, `!!`, `!name!`) with a suffix; in a suffix
a `%` stands before the two hexadecimal digits of a byte.
-/

import TestSelection.Yaml.Token

namespace TestSelection
namespace Yaml

/-- A name at the front, which is not empty. -/
def name (c : Cursor) : Except Fault (String × Cursor) :=
  let (found, c) := c.span isNameChar
  if found.isEmpty then .error .malformed else .ok (String.ofList found, c)

/-- The name of an anchor or an alias, after its mark. -/
def anchorName (c : Cursor) : Except Fault (String × Cursor) := do
  let (found, c) ← name c.next
  if isGapOrEnd c.peek || "?:,]\x7d%@\x60".toList.contains (c.peek.getD ' ') then return (found, c)
  else throw .malformed

/-! ## Tags -/

/-- A character of a tag's suffix. -/
def isTagChar (c : Char) : Bool :=
  isNameChar c || ";/?:@&=+$,.!~*'()[]%".toList.contains c

/-- The bytes that are written by number at the front. -/
def tagBytes : List Char → Except Fault (List UInt8 × List Char)
  | '%' :: a :: b :: rest =>
    if Text.isDigitIn 16 a && Text.isDigitIn 16 b then do
      let (more, left) ← tagBytes rest
      return (UInt8.ofNat (Text.ofDigits 16 [a, b]) :: more, left)
    else .error .malformed
  | '%' :: _ => .error .malformed
  | rest => .ok ([], rest)

/-- The suffix of a tag, in at most so many steps. -/
def tagSuffixFrom : Nat → Cursor → Except Fault (List Char × Cursor)
  | 0, c => .ok ([], c)
  | steps + 1, c => do
    match c.peek with
    | some '%' =>
      let (bytes, left) ← tagBytes c.rest
      let some text := String.fromUTF8? ⟨bytes.toArray⟩ | throw .malformed
      let (more, c) ← tagSuffixFrom steps (c.skip (c.rest.length - left.length))
      return (text.toList ++ more, c)
    | some x =>
      if isTagChar x then
        let (more, c) ← tagSuffixFrom steps c.next
        return (x :: more, c)
      else return ([], c)
    | none => return ([], c)

/-- The suffix of a tag at the front, which is not empty. -/
def tagSuffix (c : Cursor) : Except Fault (String × Cursor) := do
  let (found, left) ← tagSuffixFrom (c.rest.length + 1) c
  if left.index = c.index then throw .malformed
  return (String.ofList found, left)

/-- The handle of a tag at the front. -/
def tagHandle (c : Cursor) : Except Fault (String × Cursor) := do
  if c.peek ≠ some '!' then throw .malformed
  if c.peekAt 1 = some ' ' then return ("!", c.next)
  let (found, after) := c.next.span isNameChar
  if after.peek ≠ some '!' then throw .malformed
  return (String.ofList ('!' :: found ++ ['!']), after.next)

/-- Whether a tag has a handle of its own: a second `!` stands before the next space. -/
def hasHandle (c : Cursor) : Bool :=
  (c.next.rest.takeWhile fun x => !isSpaceOrEnd (some x)).contains '!'

/-- A tag at the front. -/
def tag (c : Cursor) : Except Fault (Token × Cursor) := do
  let (found, c) ←
    if c.peekAt 1 = some '<' then do
      let (suffix, c) ← tagSuffix (c.skip 2)
      if c.peek ≠ some '>' then throw .malformed
      pure (Token.tag none suffix, c.next)
    else if isGapOrEnd (c.peekAt 1) then pure (Token.tag none "!", c.next)
    else do
      let (handle, c) ← if hasHandle c then tagHandle c else pure ("!", c.next)
      let (suffix, c) ← tagSuffix c
      pure (Token.tag (some handle) suffix, c)
  if isSpaceOrEnd c.peek then return (found, c) else throw .malformed

/-! ## Directives -/

/-- A number at the front. -/
def number (c : Cursor) : Except Fault (Nat × Cursor) :=
  let (ds, c) := c.span (Text.isDigitIn 10)
  if ds.isEmpty then .error .malformed
  else if Text.mostDigits < ds.length then .error (.longInteger ds.length)
  else .ok (Text.ofDigits 10 ds, c)

/-- What is said of the version of a document. -/
def versionDirective (c : Cursor) : Except Fault (Token × Cursor) := do
  let (major, c) ← number c.skipSpaces
  if c.peek ≠ some '.' then throw .malformed
  let (_, c) ← number c.next
  if isSpaceOrEnd c.peek then return (.version major, c) else throw .malformed

/-- What is said of a handle. -/
def handleDirective (c : Cursor) : Except Fault (Token × Cursor) := do
  let (handle, c) ← tagHandle c.skipSpaces
  if c.peek ≠ some ' ' then throw .malformed
  let (expansion, c) ← tagSuffix c.skipSpaces
  if isSpaceOrEnd c.peek then return (.tagHandle handle expansion, c) else throw .malformed

/-- A directive at the front, up to the end of its line. -/
def directive (c : Cursor) : Except Fault (Token × Cursor) := do
  let (found, c) ← name c.next
  if !isSpaceOrEnd c.peek then throw .malformed
  let (token, c) ←
    if found = "YAML" then versionDirective c
    else if found = "TAG" then handleDirective c
    else pure (Token.directive, (c.span fun x => !isBreak x).2)
  return (token, ← c.endLine)

end Yaml
end TestSelection
