/-
# Visible files

A listing holds regular files, each by the names that lead to it. A name that begins with a dot is
hidden, and so is all that is below it; links are neither listed nor followed.

`Node.files` are all regular files of a tree, hidden or not, and `visibleFiles` those of them that
no hidden name leads to.
-/

import TestSelection.Tree.Basic

namespace TestSelection
namespace Node

mutual

/-- The regular files at and below a node. -/
def files : Node → List Place
  | .file _ => [[]]
  | .link _ => []
  | .dir entries => entryFiles entries

/-- The regular files at and below the entries of a directory. -/
def entryFiles : List (String × Node) → List Place
  | [] => []
  | (name, node) :: rest => (files node).map (name :: ·) ++ entryFiles rest

end

end Node

namespace Listing

/-- Whether a name is hidden. -/
def isHidden (name : String) : Bool := name.toList.head? == some '.'

/-- Whether no name on the way to a file is hidden. -/
def isVisible (names : Place) : Bool := names.all (!isHidden ·)

/-- The visible files at and below a node. -/
def visibleFiles (node : Node) : List Place := node.files.filter isVisible

/-- Names as one path. -/
def joined (names : Place) : String := "/".intercalate names

end Listing
end TestSelection
