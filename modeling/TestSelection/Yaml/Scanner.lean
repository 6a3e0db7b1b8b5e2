/-
# From text to tokens

The text is read from left to right, one lexeme at a time (`Scanner.step`). Three things are
remembered on the way:

* the columns of the open blocks: a lexeme further left closes blocks, a key or an entry further
  right opens one;
* whether a key may begin here, which is so at the start of a line and after the marks of a
  collection;
* per flow level, the place of the last lexeme that may turn out to be a key (`Candidate`). When a
  colon follows on the same line and not too far away, the tokens of the key, and of the block that
  it begins, are put in front of it.

A block's own keys must be followed by a colon, so such a candidate may not be given up
(`Candidate.required`).

Where the text cannot be read on, the tokens up to there may still be looked at, as far as they are
settled (`Scanner.settled`): a fault in them comes first.
-/

import TestSelection.Yaml.Property
import TestSelection.Yaml.Scalar

namespace TestSelection
namespace Yaml

/-- A lexeme that is a key if a colon follows. -/
structure Candidate where
  /-- How many tokens stand before it. -/
  position : Nat
  required : Bool
  index : Nat
  line : Nat
  column : Nat

/-- A text that is read up to some lexeme. -/
structure Scanner where
  cursor : Cursor
  /-- The tokens so far. -/
  tokens : Array Token
  /-- The columns of the open blocks, the innermost first. -/
  blocks : List Nat
  /-- The candidates for a key of the open flow collections, the innermost first, and at the end
  the one outside of them all. -/
  candidate : Option Candidate
  outer : List (Option Candidate)
  /-- Whether a key may begin here. -/
  keyAllowed : Bool

namespace Scanner

/-- How far a key may be from its colon. -/
def longestKey : Nat := 1024

/-- Whether a flow collection is open. -/
def inFlow (s : Scanner) : Bool := !s.outer.isEmpty

/-- The column of the innermost block; outside of all blocks it is `-1`. -/
def indent (s : Scanner) : Int :=
  match s.blocks with
  | [] => -1
  | column :: _ => column

/-- Adds a token. -/
def push (s : Scanner) (t : Token) : Scanner := { s with tokens := s.tokens.push t }

/-- Goes on elsewhere. -/
def moveTo (s : Scanner) (c : Cursor) : Scanner := { s with cursor := c }

/-- After spaces, comments and line ends. Outside of flow collections, a key may begin on a new
line. -/
def toLexeme : Nat → Scanner → Scanner
  | 0, s => s
  | steps + 1, s =>
    let c := s.cursor.skipSpaces.skipComment
    match c.lineBreak? with
    | some (_, c) => toLexeme steps { s with cursor := c, keyAllowed := s.keyAllowed || !s.inFlow }
    | none => s.moveTo c

/-- Whether a colon at the cursor would come too late for the candidate. -/
def isStale (c : Cursor) (k : Candidate) : Bool :=
  k.line ≠ c.line || longestKey < c.index - k.index

/-- Gives up a candidate when a test says so; a required one may not be given up. -/
def forget (test : Candidate → Bool) : Option Candidate → Except Fault (Option Candidate)
  | none => .ok none
  | some k => if !test k then .ok (some k) else if k.required then .error .malformed else .ok none

/-- Gives up the candidates that are too far away. -/
def forgetStale (s : Scanner) : Except Fault Scanner := do
  let candidate ← forget (isStale s.cursor) s.candidate
  let outer ← s.outer.mapM (forget (isStale s.cursor))
  return { s with candidate, outer }

/-- Gives up the candidate of the innermost collection. -/
def forgetCandidate (s : Scanner) : Except Fault Scanner := do
  return { s with candidate := ← forget (fun _ => true) s.candidate }

/-- Makes the lexeme at the cursor a candidate, if a key may begin here. -/
def offerKey (s : Scanner) : Except Fault Scanner := do
  if !s.keyAllowed then return s
  let s ← s.forgetCandidate
  let c := s.cursor
  let required := !s.inFlow && s.indent == c.column
  return { s with candidate := some ⟨s.tokens.size, required, c.index, c.line, c.column⟩ }

/-- Closes the blocks that begin further right than a column. -/
def closeBlocks (column : Int) : List Nat → Array Token → List Nat × Array Token
  | [], tokens => ([], tokens)
  | block :: rest, tokens =>
    if column < block then closeBlocks column rest (tokens.push .blockEnd)
    else (block :: rest, tokens)

/-- Closes blocks, outside of flow collections. -/
def unwind (s : Scanner) (column : Int) : Scanner :=
  if s.inFlow then s
  else
    let (blocks, tokens) := closeBlocks column s.blocks s.tokens
    { s with blocks, tokens }

/-- Opens a block at a column, if it is further right than the innermost one. Its token goes to a
position among the tokens. -/
def openBlock (s : Scanner) (column position : Nat) (t : Token) : Scanner :=
  if s.indent < column then
    { s with blocks := column :: s.blocks, tokens := s.tokens.insertIdxIfInBounds position t }
  else s

/-! ## Lexemes -/

/-- The end of the text closes all blocks. -/
def finish (s : Scanner) : Except Fault (Array Token) := do
  let s ← (s.unwind (-1)).forgetCandidate
  return s.tokens

/-- A directive, which begins a document. -/
def readDirective (s : Scanner) : Except Fault Scanner := do
  let s ← (s.unwind (-1)).forgetCandidate
  let (t, c) ← directive s.cursor
  return { (s.push t).moveTo c with keyAllowed := false }

/-- A line that begins or ends a document. -/
def readMarker (s : Scanner) (t : Token) : Except Fault Scanner := do
  let s ← (s.unwind (-1)).forgetCandidate
  return { (s.push t).moveTo (s.cursor.skip 3) with keyAllowed := false }

/-- The start of a flow collection. -/
def openFlow (s : Scanner) (t : Token) : Except Fault Scanner := do
  let s ← s.offerKey
  return { (s.push t).moveTo s.cursor.next with
    candidate := none, outer := s.candidate :: s.outer, keyAllowed := true }

/-- The end of a flow collection, of which there must be one. -/
def closeFlow (s : Scanner) (t : Token) : Except Fault Scanner := do
  let s ← s.forgetCandidate
  match s.outer with
  | [] => throw .malformed
  | candidate :: outer =>
    return { (s.push t).moveTo s.cursor.next with candidate, outer, keyAllowed := false }

/-- A comma in a flow collection. -/
def readFlowEntry (s : Scanner) : Except Fault Scanner := do
  let s ← s.forgetCandidate
  return { (s.push .flowEntry).moveTo s.cursor.next with keyAllowed := true }

/-- The dash of an entry. -/
def readBlockEntry (s : Scanner) : Except Fault Scanner := do
  if !s.inFlow && !s.keyAllowed then throw .malformed
  let s := if s.inFlow then s else s.openBlock s.cursor.column s.tokens.size .blockSequence
  let s ← s.forgetCandidate
  return { (s.push .blockEntry).moveTo s.cursor.next with keyAllowed := true }

/-- The question mark of a key. -/
def readKey (s : Scanner) : Except Fault Scanner := do
  if !s.inFlow && !s.keyAllowed then throw .malformed
  let s := if s.inFlow then s else s.openBlock s.cursor.column s.tokens.size .blockMapping
  let s ← s.forgetCandidate
  return { (s.push .key).moveTo s.cursor.next with keyAllowed := !s.inFlow }

/-- The colon of a value. With a candidate, that is the key; without one, the key was marked by a
question mark or is missing. -/
def readValue (s : Scanner) : Except Fault Scanner := do
  match s.candidate with
  | some k =>
    let tokens := s.tokens.insertIdxIfInBounds k.position .key
    let s := { s with candidate := none, tokens, keyAllowed := false }
    let s := if s.inFlow then s else s.openBlock k.column k.position .blockMapping
    return (s.push .value).moveTo s.cursor.next
  | none =>
    if !s.inFlow && !s.keyAllowed then throw .malformed
    let s := if s.inFlow then s else s.openBlock s.cursor.column s.tokens.size .blockMapping
    return { (s.push .value).moveTo s.cursor.next with keyAllowed := !s.inFlow }

/-- A lexeme that may be a key as a whole. -/
def readProperty (s : Scanner) (read : Cursor → Except Fault (Token × Cursor)) :
    Except Fault Scanner := do
  let s ← s.offerKey
  let (t, c) ← read s.cursor
  return { (s.push t).moveTo c with keyAllowed := false }

/-- An alias or an anchor. -/
def readName (s : Scanner) (token : String → Token) : Except Fault Scanner :=
  s.readProperty fun c => do
    let (found, c) ← anchorName c
    return (token found, c)

/-- A quoted scalar. -/
def readQuoted (s : Scanner) (double : Bool) : Except Fault Scanner :=
  s.readProperty fun c => do
    let (text, c) ← quoted double c
    return (.scalar text false, c)

/-- A block scalar. -/
def readBlock (s : Scanner) (folded : Bool) : Except Fault Scanner := do
  let s ← s.forgetCandidate
  let (text, c) ← block folded s.indent s.cursor
  return { (s.push (.scalar text false)).moveTo c with keyAllowed := true }

/-- A plain scalar. -/
def readPlain (s : Scanner) : Except Fault Scanner := do
  let s ← s.offerKey
  let (text, broken, c) := plain s.inFlow s.indent s.cursor
  return { (s.push (.scalar text true)).moveTo c with keyAllowed := broken }

/-- Whether a plain scalar may begin with a character, of which the next one is given. -/
def beginsPlain (flow : Bool) (x : Char) (after : Option Char) : Bool :=
  !(isGapOrEnd (some x) || "-?:,[]\x7b\x7d#&*!|>'\"%@\x60".toList.contains x) ||
    (!isGapOrEnd after && (x == '-' || (!flow && (x == '?' || x == ':'))))

/-- Reads the lexeme at the cursor, which begins with the given character. -/
def lexeme (s : Scanner) (x : Char) : Except Fault Scanner :=
  let c := s.cursor
  let after := c.peekAt 1
  let alone := isGapOrEnd after
  if x == '%' && c.column == 0 then s.readDirective
  else if c.isMarker '-' then s.readMarker .documentStart
  else if c.isMarker '.' then s.readMarker .documentEnd
  else if x == '[' then s.openFlow .flowSequence
  else if x == '\x7b' then s.openFlow .flowMapping
  else if x == ']' then s.closeFlow .flowSequenceEnd
  else if x == '\x7d' then s.closeFlow .flowMappingEnd
  else if x == ',' then s.readFlowEntry
  else if x == '-' && alone then s.readBlockEntry
  else if x == '?' && (s.inFlow || alone) then s.readKey
  else if x == ':' && (s.inFlow || alone) then s.readValue
  else if x == '*' then s.readName .reference
  else if x == '&' then s.readName .anchor
  else if x == '!' then s.readProperty tag
  else if x == '|' && !s.inFlow then s.readBlock false
  else if x == '>' && !s.inFlow then s.readBlock true
  else if x == '\'' then s.readQuoted false
  else if x == '"' then s.readQuoted true
  else if beginsPlain s.inFlow x after then s.readPlain
  else .error .malformed

/-- Reads the next lexeme; at the end of the text there is none. -/
def step (s : Scanner) : Except Fault (Scanner ⊕ Array Token) := do
  let s ← (toLexeme (s.cursor.rest.length + 1) s).forgetStale
  let s := s.unwind s.cursor.column
  match s.cursor.peek with
  | none => return .inr (← s.finish)
  | some x => return .inl (← s.lexeme x)

/-- How many tokens cannot change any more: those that stand before every candidate that a colon
may still make a key. -/
def settled (s : Scanner) : Nat :=
  let pending := (s.candidate :: s.outer).filterMap fun candidate =>
    candidate.bind fun k => if isStale s.cursor k then none else some k.position
  pending.foldl min s.tokens.size

/-- Reads lexemes to the end of the text, at most so many. -/
def run : Nat → Scanner → Tokens
  | 0, s => ⟨s.tokens.toList, some .malformed⟩
  | steps + 1, s =>
    match s.step with
    | .ok (.inl s) => run steps s
    | .ok (.inr tokens) => ⟨tokens.toList, none⟩
    | .error fault => ⟨s.tokens.toList.take s.settled, some fault⟩

/-- Before the first lexeme; a byte order mark at the front is passed over. -/
def start (cs : List Char) : Scanner :=
  let c := Cursor.start cs
  ⟨if c.peek = some '\ufeff' then c.next else c, #[], [], none, [], true⟩

end Scanner

/-- The tokens of a text. -/
def Tokens.ofText (s : String) : Tokens :=
  let cs := s.toList
  if cs.all isAllowed then (Scanner.start cs).run (cs.length + 1) else ⟨[], some .malformed⟩

end Yaml
end TestSelection
