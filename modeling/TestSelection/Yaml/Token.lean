/-
# Tokens of a document

A document is a list of tokens. Block collections, which the text only shows by its indentation,
have tokens for their start and their end, and a key has one in front of it even where the text
shows only the colon after it.
-/

import TestSelection.Yaml.Cursor

namespace TestSelection
namespace Yaml

/-- A token of a document. -/
inductive Token where
  /-- The version of the format that a document is written in. -/
  | version (major : Nat)
  /-- A short form of tags, and what it stands for. -/
  | tagHandle (handle expansion : String)
  /-- A directive without a meaning here. -/
  | directive
  | documentStart
  | documentEnd
  | blockSequence
  | blockMapping
  | blockEnd
  | flowSequence
  | flowSequenceEnd
  | flowMapping
  | flowMappingEnd
  | flowEntry
  | blockEntry
  | key
  | value
  | reference (name : String)
  | anchor (name : String)
  /-- A tag; without a handle it is complete. -/
  | tag (handle : Option String) (suffix : String)
  /-- A scalar, and whether it is written without quotes. -/
  | scalar (text : Text) (plain : Bool)
  deriving DecidableEq

/-- The tokens of a text, and what is wrong after them, if anything is. -/
structure Tokens where
  settled : List Token
  fault : Option Fault

end Yaml
end TestSelection
