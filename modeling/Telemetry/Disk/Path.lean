import Telemetry.Text.Split

/-!
# Paths

A path is text: names with slashes between them.  Different texts can mean the
same steps, which is why paths are compared by their components.
-/

namespace Telemetry

namespace Path

def isAbsolute (path : String) : Bool :=
  path.toList.head? == some '/'

/-- The names on a path, with the empty ones left out. -/
def names (path : String) : List String :=
  ((Text.splitAt '/' path.toList).filter (· ≠ [])).map String.ofList

/-- The steps that tell paths apart: a slash at the start, a dot at the start, and
the names.  Dots further on, repeated slashes and a slash at the end mean
nothing. -/
def components (path : String) : List String :=
  let steps := (names path).filter (· ≠ ".")
  if isAbsolute path then "/" :: steps
  else if (Text.splitAt '/' path.toList).head? = some ['.'] then "." :: steps
  else steps

def join (folder name : String) : String :=
  if folder.isEmpty || folder.toList.getLast? == some '/' then folder ++ name
  else folder ++ "/" ++ name

/-- What follows the last point of a name, unless the name begins with it. -/
def extension? (name : String) : Option String :=
  let reversed := name.toList.reverse
  let ending := reversed.takeWhile (· ≠ '.')
  match reversed.drop ending.length with
  | '.' :: _ :: _ => some (String.ofList ending.reverse)
  | _ => none

end Path

end Telemetry
