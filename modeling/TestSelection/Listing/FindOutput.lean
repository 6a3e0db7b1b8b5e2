/-
# Listings made by the `find` command

`find .` prints one path a line, each after `./`. A path is the first field of its line
(`Listing.fields`), so a name with a blank in it comes out cut at the blank, and a line without any
field is no path.

A listing that could not be made is reported with the command and with the reason that the system
or the command gave. Where there cannot be such a directory, there is no command to report.
-/

import TestSelection.Listing.Fields
import TestSelection.Tree.Resolve

namespace TestSelection
namespace Listing

/-- The command that lists regular files outside of hidden directories. -/
def findCommand : String := "find . -type f -not -path '*/.*'"

/-- A line without the `./` in front of the path. -/
def dropDotSlash : List Char → List Char
  | '.' :: '/' :: rest => rest
  | line => line

/-- The path on a line. -/
def pathOfLine (line : List Char) : Option String :=
  (splitFields (dropDotSlash line)).head?.map String.ofList

/-- The paths that the command has printed, in order. -/
def parseFind (output : String) : List String :=
  (Text.lines output.toList).filterMap pathOfLine

/-- A listing that could not be made. -/
inductive Failure where
  | command (reason : Text)
  /-- The directory is no path. -/
  | noPath
  deriving DecidableEq

/-- What went wrong, in words. -/
def Failure.message : Failure → Text
  | .command reason => findCommand ++ " fails: " ++ reason
  | .noPath => Fault.nul.message

/-- The listing of a command that has ended with a code and these outputs. -/
def ofFind (code : Int) (output errors : String) : Except Failure (List String) :=
  if code = 0 then .ok (parseFind output) else .error (.command (Text.strip errors))

end Listing
end TestSelection
