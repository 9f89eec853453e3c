import CloudKeeper.Store.Snapshot
/-!
The files of the machine.
-/
namespace CloudKeeper.Live

/-- Reads a file. -/
def read (path : String) : IO (Except String (List UInt8)) := do
  try return .ok (← IO.FS.readBinFile path).toList
  catch e => return .error e.toString

/-- Makes a directory and those that lead to it. -/
def makeDirectory (path : String) : IO (Except String Unit) := do
  try
    IO.FS.createDirAll path
    return .ok ()
  catch e => return .error e.toString

/-- What stands at a path. -/
def contents (path : String) : IO Contents := do
  try return .octets (← IO.FS.readBinFile path).toList
  catch
    | .noFileOrDirectory .. => return .missing
    | e => return .unreadable e.toString

/-- Writes what a snapshot's file holds, by way of the temporary file (`MemoryStore::persist`), and tells how that
went. -/
def save (file : Snapshot) : IO WriteOutcome :=
  match file.target with
  | .octets data => do
    try IO.FS.writeBinFile file.temporaryPath (ByteArray.mk data.toArray)
    catch e => return .temporaryFailed e.toString
    try
      IO.FS.rename file.temporaryPath file.path
      return .written
    catch e => return .replaceFailed e.toString
  | _ => return .written

end CloudKeeper.Live
