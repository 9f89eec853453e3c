import CloudKeeper.Store.Snapshot
/-!
Files under test: the octets at some paths. A path that leads through a file cannot be made a
directory, and a path that other paths lead through is a directory.
-/
namespace CloudKeeper.Simulation

open Text

/-- Files by path. What cannot be done fails for the one reason that is given. -/
structure Files where
  files : List (String × List UInt8)
  why : String
  deriving Repr

namespace Files

/-- The place of a path. -/
def placeOf (path : String) : List (List Char) := (Path.places path).getLastD []

/-- The octets of the file at a place; of several the last one was written last. -/
def fileAt? (f : Files) (place : List (List Char)) : Option (List UInt8) :=
  (f.files.reverse.find? fun e => placeOf e.1 == place).map (·.2)

/-- Whether files lie below a place. -/
def isDirectory (f : Files) (place : List (List Char)) : Bool :=
  f.files.any fun e => placeOf e.1 != place && place.isPrefixOf (placeOf e.1)

/-- What stands at a path, whatever it leads through. -/
def contents (f : Files) (path : String) : Contents :=
  let place := placeOf path
  match f.fileAt? place with
  | some data => if Path.asksForDirectory path then .unreadable f.why else .octets data
  | none => if f.isDirectory place then .unreadable f.why else .missing

/-- Reads a file. All that its path leads through must be there. -/
def read (f : Files) (path : String) : Except String (List UInt8) :=
  if (Path.places path).dropLast.all f.isDirectory then
    match f.contents path with
    | .octets data => .ok data
    | .unreadable why => .error why
    | .missing => .error f.why
  else .error f.why

/-- Makes a directory and those that lead to it, unless one of them is a file. -/
def makeDirectory (f : Files) (path : String) : Except String Unit :=
  if (Path.places path).any fun place => (f.fileAt? place).isSome then .error f.why else .ok ()

end Files

end CloudKeeper.Simulation
