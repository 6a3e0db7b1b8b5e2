/-
# Loading a configuration

The configuration is the first of four files below a directory that is there (`Config.find?`). It
is a YAML document with a mapping at its top, or without anything; all keys are turned into texts.
A document whose value cannot be built is reported by what is wrong with the value, and a text that
is no document as a file that cannot be read.
-/

import TestSelection.Config.Profile
import TestSelection.Json.Reader
import TestSelection.Tree.Resolve
import TestSelection.Value.Keys
import TestSelection.Yaml.Data

namespace TestSelection

/-- Why a configuration, or what is said of the profile, cannot be loaded. -/
inductive LoadError where
  | config (e : ConfigError)
  /-- The file is not UTF-8. -/
  | notText
  | file (f : Fault)
  | value (f : Yaml.Fault)
  /-- A key has no text. -/
  | longKey
  /-- The file is JSON with a value that is too large. -/
  | json (f : Json.Fault)
  deriving DecidableEq

/-- A text in quotes as far as a message about whole numbers shows it. -/
def Yaml.shortened (t : Text) : String := String.ofList ((Text.quoted t).toList.take 200)

/-- What is wrong with the value of a document. -/
def Yaml.Fault.message : Yaml.Fault → String
  | .malformed => "not a document"
  | .noCharacter => "chr() arg not in range(0x110000)"
  | .hugeNumber => "Python int too large to convert to C int"
  | .date f => f.message
  | .badTime => "'NoneType' object has no attribute 'groupdict'"
  | .noTimeText => "expected string or bytes-like object, got 'list'"
  | .badInteger base text =>
    "invalid literal for int() with base " ++ toString base ++ ": " ++ shortened text
  | .longInteger digits => Text.tooManyDigits digits
  | .hugePlace => "int too large to convert to float"
  | .badFloat text => "could not convert string to float: " ++ Text.quoted text
  | .emptyNumber => "string index out of range"
  | .badFlag text => Text.quoted text
  | .endless => "maximum recursion depth exceeded"

/-- What is wrong with the file or with what it holds. -/
def LoadError.message : LoadError → Text
  | .config e => e.message
  | .notText => "<utf-8 decode error>"
  | .file f => f.message
  | .value f => f.message
  | .longKey => Text.tooLong
  | .json f => f.message

namespace Config

/-- The text of a file, with every line end written as `\n`. -/
def readText (tree : Tree) (path : Path) : Except LoadError String := do
  let content ← (tree.read path).mapError .file
  match String.fromUTF8? content with
  | some s => return String.ofList (Text.unifyLineEnds s.toList)
  | none => throw .notText

/-- The files that may hold the configuration, the first one that is there first. -/
def searchPaths : List String :=
  ["solano.yml", "config/solano.yml", "tddium.yml", "config/tddium.yml"]

/-- The first of some paths that leads to a regular file. -/
def firstFile? (tree : Tree) : List Path → Except Fault (Option Path)
  | [] => .ok none
  | path :: rest => do
    if ← tree.isFile path then return some path else firstFile? tree rest

/-- The file below a directory that holds the configuration. -/
def find? (tree : Tree) (root : Path) : Except Fault (Option Path) :=
  firstFile? tree (searchPaths.map root.under)

/-- The configuration in a file. -/
def load (tree : Tree) (path : Path) : Except LoadError Entries := do
  let s ← readText tree path
  match Yaml.Content.ofText s with
  | .error .malformed => throw (.config (.unreadable path.text))
  | .error fault => throw (.value fault)
  | .ok .nothing => return []
  | .ok .other => throw (.config (.notAMapping path.text))
  | .ok (.mapping entries) =>
    match (Value.map entries).textKeyed? with
    | some (.map config) => return config
    | _ => throw .longKey

/-- The configuration below a directory, and the file that holds it. -/
def loadBelow (tree : Tree) (root : Path) : Except LoadError (Path × Entries) := do
  match ← (find? tree root).mapError .file with
  | none => throw (.config .noConfiguration)
  | some path => return (path, ← load tree path)

end Config
end TestSelection
