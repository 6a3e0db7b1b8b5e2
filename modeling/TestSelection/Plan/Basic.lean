/-
# Plans

A plan for a profile holds the test files, selected by the patterns at the top of the configuration
and then those of the profile, and the parallel commands of both, each with the files that its own
patterns select.

A plan is made in three steps, and the first fault in their order is the one that is reported:

1. `Outline.ofConfig` looks the profile up, joins the settings and compiles the test patterns;
2. the files are listed;
3. `Outline.fill` selects the tests and expands the commands.
-/

import TestSelection.Config.Profile
import TestSelection.Json.Printer
import TestSelection.Pattern.Parallel

namespace TestSelection

/-- What a run has selected. -/
structure Plan where
  tests : List String
  /-- The parallel commands, each a mapping. -/
  commands : List Value

/-- A plan as a value. -/
def Plan.toValue (plan : Plan) : Value :=
  .map [(.str "tests", .ofStrings plan.tests), (.str "commands", .list plan.commands)]

/-- The JSON text of a plan, with a line end at its end. -/
def Plan.json (plan : Plan) : Except Json.Unwritable String :=
  (Json.text plan.toValue).map (· ++ "\n")

/-- Why there is no plan. `ε` is what a listing of files may fail with. -/
inductive PlanError (ε : Type) where
  | config (e : ConfigError)
  | pattern (e : PatternError)
  | listing (e : ε)

/-- What a profile asks for, before any file is listed. -/
structure Outline where
  profile : Text
  selection : Sequence
  commands : List Value

namespace Outline

/-- What messages call a profile. -/
def owner (profile : Text) : Text := "profile '" ++ profile ++ "'"

/-- A setting at the top of the configuration followed by that of the profile. -/
def joined (config profile : Entries) (name field : Text) : Except ConfigError (List Value) := do
  let top ← Config.setting config field "top-level config"
  let own ← Config.setting profile field (owner name)
  return top ++ own

/-- What the profile of a name asks for. -/
def ofConfig (config : Entries) (name : Text) : Except (ConfigError ⊕ PatternError) Outline := do
  let profile ← (Config.profile config name).mapError .inl
  let patterns ← (joined config profile name "test_pattern").mapError .inl
  let commands ← (joined config profile name "tests").mapError .inl
  let declared ← (Misshapen.lift
    (Pattern.ofValues ("'test_pattern' in " ++ owner name) patterns)).mapError .inr
  let selection ← (Glob.Rejection.lift (Sequence.compile declared none)).mapError .inr
  return ⟨name, selection, commands⟩

/-- Selects the tests, each path once, and expands the commands. -/
def fill (outline : Outline) (files : List String) : Except PatternError Plan := do
  let commands ← Parallel.expandAll files outline.commands
  return ⟨(outline.selection.select files).eraseDups, Parallel.parallelOnly commands⟩

end Outline

/-- Reports a fault of a configuration or of its patterns as a reason for no plan. -/
def PlanError.ofOutline {ε : Type} : ConfigError ⊕ PatternError → PlanError ε
  | .inl e => .config e
  | .inr e => .pattern e

/-- Builds the plan for a profile of a configuration. A computation lists the files; it is only
begun when nothing is wrong with the configuration. -/
def Plan.buildWith {ε : Type} {m : Type → Type} [Monad m] (config : Entries) (profile : Text)
    (lister : m (Except ε (List String))) : m (Except (PlanError ε) Plan) :=
  match Outline.ofConfig config profile with
  | .error e => pure (.error (.ofOutline e))
  | .ok outline => do
    let listing ← lister
    return (do
      let files ← listing.mapError .listing
      (outline.fill files).mapError .pattern)

/-- The plan for a profile of a configuration, over the files of a listing. -/
def Plan.build {ε : Type} (config : Entries) (profile : Text)
    (listing : Except ε (List String)) : Except (PlanError ε) Plan :=
  Id.run (Plan.buildWith config profile (pure listing))

/-- The steps in which a plan is built over the files of a listing. -/
theorem Plan.build_eq {ε : Type} (config : Entries) (profile : Text)
    (listing : Except ε (List String)) : Plan.build config profile listing = (do
      let outline ← (Outline.ofConfig config profile).mapError .ofOutline
      let files ← listing.mapError .listing
      (outline.fill files).mapError .pattern) := by
  rw [build, buildWith]
  cases Outline.ofConfig config profile <;> rfl

end TestSelection
