import TangibleBlocks.Text.Blank

/-!
Paths as they are written: names with slashes between them, taken from the root
if there is a slash in front.
-/

namespace TangibleBlocks.Path

def isRooted (path : String) : Bool :=
  path.toList.head? == some '/'

/-- What stands between the slashes, in order, empty pieces included. -/
def pieces (path : String) : List String :=
  (Text.pieces '/' path.toList).map String.ofList

/-- The steps that lead to a path, without those that lead nowhere. A single dot only counts at
the beginning. -/
def steps (path : String) : List String :=
  match pieces path with
  | [] => []
  | first :: rest =>
    (if first = "" then [] else [first]) ++ rest.filter fun s => s != "" && s != "."

/-- The path of a place below a directory. -/
def join (directory name : String) : String :=
  if directory = "" then name
  else if directory.toList.getLast? = some '/' then directory ++ name
  else directory ++ "/" ++ name

/-- The path with the given steps. -/
def ofSteps (rooted : Bool) (steps : List String) : String :=
  (if rooted then "/" else "") ++ "/".intercalate steps

/-- What follows the last dot of a name, if something stands before it. -/
def extension? (name : String) : Option String :=
  let reversed := name.toList.reverse
  match reversed.dropWhile (· ≠ '.') with
  | [] => none
  | [_] => none
  | _ :: _ :: _ => some (String.ofList (reversed.takeWhile (· ≠ '.')).reverse)

end TangibleBlocks.Path
