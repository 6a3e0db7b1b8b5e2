/-
# The texts of the command line

What is printed for `--help`, in front of a complaint about the arguments, and for `--version`.
-/

namespace TestSelection
namespace Command

/-- The name of the program. -/
def program : String := "ciselect"

/-- The version of the program. -/
def version : String := "0.1.0"

/-- Lines as a text, each with its line end. -/
def ofLines (lines : List String) : String := String.join (lines.map (· ++ "\n"))

/-- How the program is called. -/
def usage : String := ofLines [
  "usage: ciselect [-h] [-p PROFILE] [--default-profile NAME] [-r ROOT]",
  "                [-o OUTPUT] [--lister \x7bwalk,find\x7d] [--respect-gitignore]",
  "                [--print] [-v] [--version]"]

/-- How the program is called, what its options mean, and what it does. -/
def help : String := usage ++ ofLines [
  "",
  "ciselect: Select the test files and parallel test commands for a CI run",
  "",
  "options:",
  "  -h, --help            show this help message and exit",
  "  -p PROFILE, --profile PROFILE",
  "                        Configuration profile to select tests for",
  "  --default-profile NAME",
  "                        Profile to use when neither --profile nor the plan",
  "                        variables file names one",
  "  -r ROOT, --root ROOT  Repository root holding the configuration and files",
  "                        (default: .)",
  "  -o OUTPUT, --output OUTPUT",
  "                        Output file, relative to the repository root (default:",
  "                        test_list.json)",
  "  --lister \x7bwalk,find\x7d  How to list repository files: walk the tree in-",
  "                        process, or run `find` (default: walk)",
  "  --respect-gitignore   Skip files ignored by .gitignore (only applies to the",
  "                        walk lister)",
  "  --print               Print the plan JSON to stdout instead of writing the",
  "                        output file",
  "  -v, --verbose         Log selection details to stderr",
  "  --version             Show version information and exit",
  "",
  "Common usage:",
  "  ciselect --profile default",
  "  ciselect --profile approvals --root path/to/repo",
  "  ciselect --profile default --print",
  "",
  "Reads `solano.yml` (or `config/solano.yml`, `tddium.yml`, `config/tddium.yml`),",
  "matches the repository's files against the profile's include/exclude patterns,",
  "and writes the selection to `test_list.json`. Without --profile, the profile",
  "named by `next_profile` in `solano-plan-variables.json` is used.",
  "If neither names one, --default-profile gives the fallback (for example `default`)."]

/-- A complaint about the arguments. -/
def complaint (message : String) : String :=
  usage ++ program ++ ": error: " ++ message ++ "\n"

/-- What is printed for the version of a program that is installed, or is not. -/
def versionText (installed : Bool) : String :=
  if installed then "v" ++ version ++ "\n" else "unknown (package not installed)\n"

end Command
end TestSelection
