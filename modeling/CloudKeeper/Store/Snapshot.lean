import CloudKeeper.Error
import CloudKeeper.Json.Printer
import CloudKeeper.Object.Declared
import CloudKeeper.Text.Path
/-!
The file behind a store. A snapshot is written to a temporary file that then takes the place of the
real one, so the real file always holds a whole snapshot. Each write can fail at either step.
-/
namespace CloudKeeper

/-- What stands at a path. -/
inductive Contents
  | missing
  /-- Something that can be neither read nor replaced, and why. -/
  | unreadable (why : String)
  | octets (data : List UInt8)
  deriving DecidableEq, Repr

/-- The text that stands there, if it is text. -/
def Contents.text? : Contents → Option String
  | .octets data => ((Text.Utf8.decode data).mapM id).map String.ofList
  | _ => none

/-- The outcome of writing a snapshot. -/
inductive WriteOutcome
  | written
  | temporaryFailed (why : String)
  | replaceFailed (why : String)
  deriving DecidableEq, Repr

/-- The file of a store and the temporary file beside it (`Snapshot`), with what stands there. -/
structure Snapshot where
  path : String
  target : Contents := .missing
  temporary : Contents := .missing
  deriving DecidableEq, Repr

namespace Snapshot

/-- The path of the temporary file. -/
def temporaryPath (s : Snapshot) : String :=
  Text.Path.withExtension s.path "tmp"

/-- The outcome of a write that nothing but the two paths can hinder. -/
def outcome (s : Snapshot) : WriteOutcome :=
  match s.temporary, s.target with
  | .unreadable why, _ => .temporaryFailed why
  | _, .unreadable why => if s.temporaryPath = s.path then .temporaryFailed why else .replaceFailed why
  | _, _ => .written

/-- The files after a write, and the error if it failed: the end of `MemoryStore::persist`. A temporary file that
cannot be written is left as it was. A path that ends in `.tmp` is its own temporary path: what has been written
there has taken its place already, so that the second step cannot fail (`outcome_of_one_path`). -/
def write (s : Snapshot) (data : List UInt8) : WriteOutcome → Snapshot × Except StoreError Unit
  | .written => ({ s with target := .octets data, temporary := .missing }, .ok ())
  | .temporaryFailed why =>
    (s, .error (.persist ("cannot write " ++ s.temporaryPath ++ ": " ++ why)))
  | .replaceFailed why =>
    ({ s with temporary := .octets data },
      .error (.persist ("cannot replace " ++ s.path ++ ": " ++ why)))

/-- A file is not hindered from taking its own place. -/
theorem outcome_of_one_path {s : Snapshot} (one : s.temporaryPath = s.path) (why : String) :
    s.outcome ≠ .replaceFailed why := by
  unfold outcome
  split
  · simp
  · simp [one]
  · simp

/-- A file that is its own temporary file holds what is written, or it is as it was and the write has failed. -/
theorem write_of_one_path {s : Snapshot} (one : s.temporaryPath = s.path) (data : List UInt8) :
    let ended := s.write data s.outcome
    (ended.1.target = .octets data ∧ ended.2 = .ok ()) ∨
      ended.1 = s ∧ ∃ why, ended.2 = .error (.persist ("cannot write " ++ s.path ++ ": " ++ why)) := by
  cases met : s.outcome with
  | written => exact .inl ⟨rfl, rfl⟩
  | temporaryFailed why =>
    refine .inr ⟨rfl, why, ?_⟩
    rw [← one]
    rfl
  | replaceFailed why => exact absurd met (outcome_of_one_path one why)

/-- The objects in the file, as `MemoryStore::open` reads them. No file means no objects. -/
def objects? {S : Type} [Spec S] (s : Snapshot) : Except StoreError (List (Declared S)) :=
  match s.target with
  | .missing => .ok []
  | .unreadable why => .error (.persist ("cannot read " ++ s.path ++ ": " ++ why))
  | .octets data =>
    match Json.decodeOctets (Json.Decoder.list Declared.decoder) data with
    | .ok objects => .ok objects
    | .error e => .error (.persist ("cannot parse " ++ s.path ++ ": " ++ e.message))

/-- The text that `MemoryStore::persist` writes for objects. -/
def text {S : Type} [Spec S] (objects : List (Declared S)) : String :=
  Json.Value.toPrettyText (.array (objects.map Declared.toJson))

end Snapshot

end CloudKeeper
