import Steward.Text.Blank

/-!
Paths as texts with `/` between their parts. Empty parts and parts `.` after the first carry no
meaning and are skipped, as they are when a path is taken apart.
-/
namespace Steward.Text.Path

def isAbsolute (path : String) : Bool := path.toList.head? == some '/'

/-- The base alone when `name` is empty at its end, `name` alone when it is absolute. -/
def join (base name : String) : String :=
  if isAbsolute name then name
  else if base.isEmpty || base.toList.getLast? == some '/' then base ++ name
  else base ++ "/" ++ name

/-- What precedes the last part, without slashes at its end, given the path in reverse. The last
part, the slashes before it and parts `.` before those are dropped. -/
def dropTrailing : Nat → List Char → List Char
  | 0, rev => rev
  | n + 1, rev =>
    match rev with
    | ['/'] => ['/']
    | '/' :: rest => dropTrailing n rest
    | '.' :: '/' :: rest => dropTrailing n ('/' :: rest)
    | rev => rev

/-- The path without its last part; `none` for the empty path and for the root. -/
def parent? (path : String) : Option String :=
  let rev := dropTrailing (path.length + 1) path.toList.reverse
  match rev with
  | [] => none
  | ['/'] => none
  | rev =>
    let before := rev.dropWhile (· ≠ '/')
    some (String.ofList (dropTrailing (path.length + 1) before).reverse)

/-- The last part, unless the path is a root, the current directory, or ends in `..`. -/
def fileName? (path : String) : Option String :=
  let rev := dropTrailing (path.length + 1) path.toList.reverse
  let part := rev.takeWhile (· ≠ '/')
  if part.isEmpty || part == ['.'] || part == ['.', '.'] then none else some (String.ofList part.reverse)

end Steward.Text.Path
