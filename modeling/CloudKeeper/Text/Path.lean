import CloudKeeper.Text.Pieces
/-!
File paths as text, with slashes between their parts.
-/
namespace CloudKeeper.Text.Path

/-- A path below a directory. An absolute path stands for itself, and a slash is put in only where one
is needed. -/
def join (directory path : String) : String :=
  if path.startsWith "/" then path
  else if directory.isEmpty || directory.endsWith "/" then directory ++ path
  else directory ++ "/" ++ path

/-- The last part of a path and what stands before it; slashes at the end do not count. -/
def splitName (path : String) : List Char × List Char :=
  let backwards := path.toList.reverse.dropWhile (· == '/')
  ((backwards.dropWhile (· != '/')).reverse, (backwards.takeWhile (· != '/')).reverse)

/-- The last part of a path. -/
def name (path : String) : String := String.ofList (splitName path).2

/-- A file name without its extension. A dot at the front begins no extension. -/
def stem (name : List Char) : List Char :=
  let backwards := name.reverse
  match backwards.dropWhile (· != '.') with
  | [] => name
  | _ :: before => if before.isEmpty then name else before.reverse

/-- The path with the extension of its last part replaced. Two dots alone take no extension, and so the
path ends with them when they are all that is left before the extension. -/
def withExtension (path extension : String) : String :=
  let (directory, name) := splitName path
  let front := stem name
  if name.isEmpty || name == ['.', '.'] then path
  else if front == ['.'] && name != ['.'] then String.ofList (directory ++ ['.', '.'])
  else String.ofList (directory ++ front) ++ "." ++ extension

/-- The places that a path leads to from a given one, each as the names on its way. -/
def placesFrom (place : List (List Char)) : List (List Char) → List (List (List Char))
  | [] => []
  | part :: rest =>
    if part == [] || part == ['.'] then placesFrom place rest
    else
      let next := if part == ['.', '.'] then place.dropLast else place ++ [part]
      next :: placesFrom next rest

/-- The places that a path leads to one after another, the last one being what it stands for. The names
of an absolute path begin with an empty one. -/
def places (path : String) : List (List (List Char)) :=
  placesFrom (if path.startsWith "/" then [[]] else []) (pieces (· == '/') path.toList)

/-- Whether a path can only stand for a directory. -/
def asksForDirectory (path : String) : Bool :=
  path.endsWith "/" || path.endsWith "/."

end CloudKeeper.Text.Path
