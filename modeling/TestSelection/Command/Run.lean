/-
# A run of the program

A run takes the arguments and a directory tree and gives what is printed, how it ends, and the tree
afterwards. It goes through these steps, and ends at the first that fails:

1. the arguments are read; `--help` and `--version` end here;
2. the profile is named, the configuration loaded, the files listed, and the plan made
   (`Run.makePlan`); while this goes on, it is logged;
3. the plan is printed, or written to the output file.

What is wrong with the configuration, the patterns or the files ends the run with the code 1, and
everything else with the code 2 (`RunError.code`). A plan that has no JSON text ends it without any
code (`Ending.escaped`), and so do a directory or an output file that is given as nothing, and an
output file that no path leads to.

A run is taken to be one in which everything that is printed can be printed, on a system that does
nothing else to the tree. A closed output would make the last line fail, after the plan was written;
so would a stack that ends while missing directories are made (`Tree.makeAll`). Where the depth of
the stack decides what is read or listed, it is part of the definitions (`Json.deepest`,
`Yaml.deepest`, `Yaml.deepestValue`, `Listing.deepestWalk`).
-/

import TestSelection.Command.Failure
import TestSelection.Command.Options
import TestSelection.Command.Usage
import TestSelection.Listing.Find
import TestSelection.Listing.Walk
import TestSelection.Plan.Write

namespace TestSelection
namespace Command

/-- What ends a run without a code. -/
inductive Escape where
  /-- The plan has no JSON text. -/
  | unwritable
  /-- The directory or the output file is given as nothing. -/
  | notGiven
  /-- The path of the output file has no name or a NUL. -/
  | badPath
  deriving DecidableEq

/-- How a run ends. -/
inductive Ending where
  | code (n : Nat)
  | escaped (e : Escape)
  deriving DecidableEq

/-- What a run leaves. -/
structure Outcome where
  ending : Ending
  output : String
  errors : Text
  tree : Tree

/-! ## The log -/

/-- A computation that is logged, line by line, and may fail. -/
abbrev Logged := ExceptT RunError (StateM (List Text))

/-- Logs a line of a part of the program, at a level. -/
def log (level part : String) (text : Text) : Logged Unit :=
  modify (· ++ [level ++ " " ++ program ++ "." ++ part ++ ": " ++ text])

/-- The lines of a log as they are printed. -/
def printedLog (lines : List Text) : Text := lines.flatMap (· ++ "\n")

/-- Fails as a result does. -/
def settle {ε α : Type} (cause : ε → RunError) (result : Except ε α) : Logged α :=
  match result with
  | .ok a => pure a
  | .error e => throw (cause e)

namespace Run

/-- Lists the files below a directory. -/
def listFiles (o : Options) (tree : Tree) (root : Path) : Logged (List String) := do
  match o.lister with
  | .walk =>
    let files ← settle .ignore (Listing.walk tree root o.respectIgnore)
    log "DEBUG" "listing" ("Listed " ++ toString files.length ++ " files under " ++ root.text)
    return files
  | .find =>
    log "DEBUG" "listing"
      ("Running " ++ Text.quoted Listing.findCommand ++ " in " ++ root.text)
    settle .listing (Listing.find tree root)

/-- Reports a fault of a configuration or of its patterns. -/
def ofOutline : ConfigError ⊕ PatternError → RunError
  | .inl e => .config e
  | .inr e => .pattern e

/-- Makes the plan for the tree below a directory. -/
def makePlan (o : Options) (tree : Tree) (root : Path) : Logged Plan := do
  let name ← settle .load (Config.profileName tree root (o.profile.map Text.ofString)
    (o.defaultProfile.map Text.ofString))
  log "INFO" "cli" ("Using profile " ++ Text.quoted name)
  let (path, config) ← settle .load (Config.loadBelow tree root)
  log "INFO" "cli" ("Loaded configuration from " ++ path.text)
  let outline ← settle ofOutline (Outline.ofConfig config name)
  let owner := Outline.owner name
  log "DEBUG" "plan" ("Compiled " ++ toString outline.selection.matchers.length ++
    " test patterns for " ++ owner)
  let files ← listFiles o tree root
  log "DEBUG" "plan" ("Listed " ++ toString files.length ++ " files")
  let plan ← settle .pattern (outline.fill files)
  log "INFO" "plan" ("Selected " ++ toString plan.tests.length ++ " of " ++
    toString files.length ++ " files and " ++ toString plan.commands.length ++
    " parallel commands for " ++ owner)
  return plan

/-- A failure as it is printed. -/
def complain (message : Text) : Text := "Error: " ++ message ++ "\n"

/-- Prints a plan. -/
def printPlan (plan : Plan) (tree : Tree) (logged : Text) : Outcome :=
  match plan.json with
  | .ok text => ⟨.code 0, text, logged, tree⟩
  | .error _ => ⟨.escaped .unwritable, "", logged, tree⟩

/-- Writes a plan to a path, which is given below a directory as a text. -/
def writePlan (plan : Plan) (tree : Tree) (root : Path) (output : String) (logged : Text) :
    Outcome :=
  match plan.write tree (root.under output) with
  | (tree, .ok ()) => ⟨.code 0, "Generated " ++ output ++ "\n", logged, tree⟩
  | (tree, .error .unwritable) => ⟨.escaped .unwritable, "", logged, tree⟩
  | (tree, .error .noName) => ⟨.escaped .badPath, "", logged, tree⟩
  | (tree, .error (.file .nul)) => ⟨.escaped .badPath, "", logged, tree⟩
  | (tree, .error e) => ⟨.code 2, "", logged ++ complain e.message, tree⟩

/-- Makes a plan and prints or writes it. -/
def select (o : Options) (tree : Tree) : Outcome :=
  match o.root with
  | none => ⟨.escaped .notGiven, "", [], tree⟩
  | some directory =>
    let root := Path.ofText directory
    let (made, lines) := (makePlan o tree root).run.run []
    let logged := if o.verbose then printedLog lines else []
    match made with
    | .error e => ⟨.code e.code, "", logged ++ complain e.message, tree⟩
    | .ok plan =>
      if o.print then printPlan plan tree logged
      else
        match o.output with
        | none => ⟨.escaped .notGiven, "", logged, tree⟩
        | some output => writePlan plan tree root output logged

end Run

/-- Runs the program; `installed` says whether its own version is known. -/
def run (installed : Bool) (arguments : List String) (tree : Tree) : Outcome :=
  match Request.ofArguments arguments with
  | .error mistake => ⟨.code 2, "", complaint mistake.message, tree⟩
  | .ok .help => ⟨.code 0, help, [], tree⟩
  | .ok (.run o) =>
    if o.version then ⟨.code 0, versionText installed, [], tree⟩ else Run.select o tree

end Command
end TestSelection
