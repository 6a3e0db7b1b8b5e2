/-
# Why there is no plan

A run that cannot make its plan fails for one of the reasons `RunError`. Of each of them it is known
what kind of failure it is (`RunError.kind`), and the kind decides the code that the run ends with:
1 if the configuration or the command that lists files is to blame, and 2 otherwise
(`FailureKind.code`).
-/

import TestSelection.Config.ProfileName
import TestSelection.Ignore.File
import TestSelection.Listing.FindOutput
import TestSelection.Plan.Basic

namespace TestSelection
namespace Command

/-- Why there is no plan. -/
inductive RunError where
  | load (e : LoadError)
  | config (e : ConfigError)
  | pattern (e : PatternError)
  | listing (f : Listing.Failure)
  | ignore (f : Ignore.Fault)

/-- What went wrong, in words. -/
def RunError.message : RunError → Text
  | .load e => e.message
  | .config e => e.message
  | .pattern e => e.message
  | .listing f => f.message
  | .ignore f => f.message

/-- What kind of failure it is that leaves a run without a plan. -/
inductive FailureKind where
  /-- The configuration, a pattern, a number or a path is not what it has to be. -/
  | wrongValue
  /-- The command that lists files has failed. -/
  | failedCommand
  /-- The system refuses a file. -/
  | refusedFile
  /-- A value, or a tree of directories, is too large or too deep to be handled, or of a kind that
  nobody looks for. -/
  | unforeseen
  deriving DecidableEq

/-- The kind of a fault of a file. A path with a NUL is wrong, and directories may be nested too
deeply; everything else the system says. -/
def fileKind : Fault → FailureKind
  | .nul => .wrongValue
  | .tooDeep => .unforeseen
  | _ => .refusedFile

/-- The kind of a fault of a document whose value cannot be built: a value that is wrong counts like
a configuration that is. -/
def valueKind : Yaml.Fault → FailureKind
  | .malformed | .noCharacter | .date _ | .badInteger _ _ | .longInteger _ | .badFloat _ =>
    .wrongValue
  | _ => .unforeseen

/-- The kind of a reason for no plan. -/
def RunError.kind : RunError → FailureKind
  | .load (.config _) | .load .notText | .load .longKey | .config _ | .pattern _ => .wrongValue
  | .load (.file f) | .ignore (.file f) => fileKind f
  | .load (.value f) => valueKind f
  | .load (.json .malformed) | .load (.json (.longInteger _)) => .wrongValue
  | .load (.json (.tooDeep _)) => .unforeseen
  | .listing (.command _) => .failedCommand
  | .listing .noPath => .wrongValue
  | .ignore (.badLine _) => .wrongValue
  | .ignore (.badRange _ _) => .unforeseen

/-- The code for a kind of failure. -/
def FailureKind.code : FailureKind → Nat
  | .wrongValue | .failedCommand => 1
  | .refusedFile | .unforeseen => 2

/-- The code that a run without a plan ends with. -/
def RunError.code (e : RunError) : Nat := e.kind.code

end Command
end TestSelection
