/-
# The name of the profile

The profile to use is the one that is asked for; else the one that an earlier step of the build has
left in the plan variables; else a default. Blanks around a name do not count, and a name of blanks
is none. The plan variables are not looked at when a profile is asked for; when they are, they have
to be JSON.
-/

import TestSelection.Config.Load

namespace TestSelection

/-- Whether a value is empty or zero, so that it names nothing. -/
def Value.isVoid : Value → Bool
  | .null => true
  | .bool b => !b
  | .int n => n == 0
  | .float x => x == 0.0
  | .str s => s.isEmpty
  | .bytes content => content.isEmpty
  | .list items => items.isEmpty
  | .tuple items => items.isEmpty
  | .set members => members.isEmpty
  | .map entries => entries.isEmpty
  | .date _ => false
  | .dateTime _ => false

namespace Config

/-- The file that holds the plan variables. -/
def variablesFile : String := "solano-plan-variables.json"

/-- The name that the plan variables give; blank if they give none. -/
def nextProfile : Value → Text
  | .map entries =>
    match Entries.field? entries "next_profile" with
    | some v => if v.isVoid then [] else Text.strip v.text
    | none => []
  | _ => []

/-- The name that the plan variables below a directory give; blank if there are none. -/
def variablesProfile (tree : Tree) (root : Path) : Except LoadError Text := do
  let path := root.under variablesFile
  if ← (tree.isFile path).mapError .file then
    let s ← readText tree path
    match Json.read s with
    | .error .malformed => throw (.config (.unreadable path.text))
    | .error fault => throw (.json fault)
    | .ok found => return nextProfile found
  else return []

/-- The first of two names that is not empty. -/
def orElse (first second : Text) : Text := if first.isEmpty then second else first

/-- The name of the profile to use. -/
def profileName (tree : Tree) (root : Path) (asked default : Option Text) :
    Except LoadError Text := do
  let name := Text.strip (asked.getD [])
  let name ← if name.isEmpty then variablesProfile tree root else pure name
  let name := orElse name (Text.strip (default.getD []))
  if name.isEmpty then throw (.config .noProfileName)
  return name

end Config
end TestSelection
