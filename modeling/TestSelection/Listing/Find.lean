/-
# Listing with the `find` command

The command is run in a directory and prints the visible files below it (`findOutput`). The listing
is what can be read back from that (`parseFind`), which is not always what was printed: a blank, a
quote or a backslash in a name changes the path.

The order of the files is the one in which the system keeps them, the last name of a directory
first.
-/

import TestSelection.Listing.FindOutput
import TestSelection.Listing.Visible

namespace TestSelection
namespace Listing

/-- The line that the command prints for a file. -/
def findLine (names : Place) : String := "./" ++ joined names ++ "\n"

/-- What the command prints in a directory. -/
def findOutput (directory : Node) : String :=
  String.join ((visibleFiles directory).reverse.map findLine)

/-- The files that the command lists below a directory. -/
def find (tree : Tree) (root : Path) : Except Failure (List String) :=
  match tree.resolve true root with
  | .ok (_, some (.dir entries)) => .ok (parseFind (findOutput (.dir entries)))
  | .ok (_, some _) => .error (.command Fault.notDirectory.message)
  | .ok (_, none) => .error (.command Fault.missing.message)
  | .error .nul => .error .noPath
  | .error fault => .error (.command fault.message)

end Listing
end TestSelection
