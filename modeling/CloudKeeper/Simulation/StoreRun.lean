import CloudKeeper.Simulation.World
/-!
A store under test beside the directory of its file. A test can put a file or a directory in the place
of either of the two files of a snapshot and take it away again. A store in memory pays no heed to the
directory, but files can be put there all the same.
-/
namespace CloudKeeper.Simulation

open Time (Timestamp)

/-- A store, the directory, and what stands there where a store in memory has no file. -/
structure StoreRun (S : Type) where
  world : World S
  directory : String
  aside : Snapshot

namespace StoreRun

variable {S : Type} [Spec S]

/-- Whether a file name cannot be one: it names a directory or is too long. -/
def isNoFileName (name : String) : Bool :=
  name == "" || name == "." || name == ".." || 255 < name.utf8ByteSize

/-- Whether no temporary file can be written: its name is none, or its directory is not there. -/
def isHopeless (directory : String) (file : Snapshot) : Bool :=
  isNoFileName (Text.Path.name file.temporaryPath)
    || Text.Path.join directory (Text.Path.name file.path) != file.path

/-- The two files before the store is opened. What cannot be a file fails for the reason given. -/
def snapshot (directory name why : String) (target : Contents) : Snapshot :=
  let file : Snapshot :=
    { path := Text.Path.join directory name
      target := if isNoFileName name then .unreadable why else target }
  { file with temporary := if isHopeless directory file then .unreadable why else .missing }

/-- A store of the file that is given, or one in memory beside it. -/
def open? (directory : String) (file : Snapshot) (inMemory : Bool) (stamp : Timestamp) :
    Except StoreError (StoreRun S) := do
  let store ← if inMemory then pure .inMemory else Store.ofSnapshot? file
  return { world := { engine := { store }, stamp }, directory, aside := file }

/-- The two files as they stand. -/
def files (r : StoreRun S) : Snapshot := r.world.store.snapshot.getD r.aside

/-- Changes what stands at the two files. -/
def withFiles (r : StoreRun S) (change : Snapshot → Snapshot) : StoreRun S :=
  match r.world.store.snapshot with
  | some _ => { r with world := r.world.withFiles change }
  | none => { r with aside := change r.aside }

/-- Writes some octets to the file, unless a directory stands in its place. -/
def write (r : StoreRun S) (data : List UInt8) : StoreRun S :=
  r.withFiles fun f =>
    match f.target with
    | .unreadable _ => f
    | _ => { f with target := .octets data }

/-- Puts a directory in the place of the file. -/
def blockTarget (r : StoreRun S) (why : String) : StoreRun S :=
  r.withFiles fun f => { f with target := .unreadable why }

/-- Puts a directory in the place of the temporary file, which may be the file itself. -/
def blockTemporary (r : StoreRun S) (why : String) : StoreRun S :=
  r.withFiles fun f =>
    if f.temporaryPath = f.path then { f with target := .unreadable why }
    else { f with temporary := .unreadable why }

/-- What is left of something when a directory there is taken away. -/
def unblocked : Contents → Contents
  | .unreadable _ => .missing
  | c => c

/-- Takes the directories away that stand in the place of the files. -/
def unblock (r : StoreRun S) : StoreRun S :=
  r.withFiles fun f =>
    { f with
      target := unblocked f.target
      temporary := if isHopeless r.directory f then f.temporary else unblocked f.temporary }

/-- The names of what stands at the two files, sorted. -/
def names (r : StoreRun S) : List String :=
  let f := r.files
  let target := if f.target = .missing then [] else [Text.Path.name f.path]
  let temporary := if f.temporary = .missing || isHopeless r.directory f then []
    else [Text.Path.name f.temporaryPath]
  (target ++ temporary).mergeSort fun a b => (compare a b).isLE

/-- Opens the store again, if its file lets it. -/
def reopen (r : StoreRun S) : StoreRun S × Except StoreError Unit :=
  let (world, result) := r.world.reopen
  ({ r with world }, result)

end StoreRun

end CloudKeeper.Simulation
