/-!
# Paths

A path is a text of components between slashes. Its last component, if it names a file, may
have an extension.
-/

namespace Relabel.Path

/-- The components of a path. Empty ones and single dots do not count. -/
def components (path : String) : List String :=
  (path.splitOn "/").filter fun component => component != "" && component != "."

def fileName? (path : String) : Option String :=
  (components path).getLast?.filter (· != "..")

/-- What follows the last dot of a file name; a dot in front of the whole name does not count. -/
def extension? (path : String) : Option String := do
  let name := (← fileName? path).toList.reverse
  match name.dropWhile (· != '.') with
  | [] | [_] => none
  | _ :: _ :: _ => some (String.ofList (name.takeWhile (· != '.')).reverse)

end Relabel.Path
