/-
# Profiles and settings

A configuration is a mapping with text keys. Under `profiles` it maps names to profiles, and the
settings `test_pattern` and `tests` stand both at its top and in each profile. A setting is a list;
one text stands for a list of one, and a missing setting for the empty list.

`ConfigError` lists what can be wrong with a configuration as a whole, with its wording.
-/

import TestSelection.Value.Literal

namespace TestSelection

/-- What can be wrong with a configuration. -/
inductive ConfigError where
  | noConfiguration
  | unreadable (path : String)
  | notAMapping (path : String)
  | noProfiles
  | malformedProfiles
  | noSuchProfile (name : Text)
  | malformedProfile (name : Text)
  | malformedField (field owner : Text)
  | noProfileName
  deriving DecidableEq

/-- What is wrong with a configuration, in words. -/
def ConfigError.message : ConfigError → Text
  | .noConfiguration => "No solano configuration found"
  | .unreadable path => "Could not parse " ++ path
  | .notAMapping path => "Expected a mapping at the top of " ++ path
  | .noProfiles => "No profiles defined"
  | .malformedProfiles => "Malformed 'profiles': expected a mapping of profile names"
  | .noSuchProfile name => "No such profile '" ++ name ++ "'"
  | .malformedProfile name => "Malformed profile '" ++ name ++ "': expected a mapping"
  | .malformedField field owner => "Malformed '" ++ field ++ "' in " ++ owner
  | .noProfileName => "missing profile name"

/-- A value as an optional one; the null value counts as missing. -/
def Value.present? : Value → Option Value
  | .null => none
  | other => some other

namespace Config

/-- The profile of a name. -/
def profile (config : Entries) (name : Text) : Except ConfigError Entries :=
  match (config.field? "profiles").bind Value.present? with
  | none => .error .noProfiles
  | some (.map profiles) =>
    match (Entries.field? profiles name).bind Value.present? with
    | none => .error (.noSuchProfile name)
    | some (.map entries) => .ok entries
    | some _ => .error (.malformedProfile name)
  | some _ => .error .malformedProfiles

/-- A setting as a list. -/
def asList (field owner : Text) : Value → Except ConfigError (List Value)
  | .null => .ok []
  | .str s => .ok [.str s]
  | .list items => .ok items
  | _ => .error (.malformedField field owner)

/-- The setting of a name as a list. -/
def setting (entries : Entries) (field owner : Text) : Except ConfigError (List Value) :=
  asList field owner ((entries.field? field).getD .null)

end Config
end TestSelection
