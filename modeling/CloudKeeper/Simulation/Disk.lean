import CloudKeeper.Remote
/-!
Disks, a kind of resource for tests: a size that must be positive, and a label.
-/
namespace CloudKeeper.Simulation

open Json (Decoder Record Value)

/-- The declared parameters of a disk. -/
structure DiskSpec where
  size : UInt64
  label : String
  deriving DecidableEq, Repr

namespace DiskSpec

/-- The parameters as a JSON value. -/
def toJson (s : DiskSpec) : Value :=
  .object [("size", .nat s.size.toNat), ("label", .string s.label)]

/-- How the parameters are read. -/
def decoder : Decoder DiskSpec :=
  ((Record.make DiskSpec.mk)
    |>.field "size" Decoder.uint64
    |>.field "label" Decoder.string).decoder

instance : Spec DiskSpec where
  same a b := decide (a = b)
  toJson := toJson
  decoder := decoder

end DiskSpec

namespace Disk

/-- The name of the kind. -/
def kindName : String := "disk"

/-- A disk must have a size. -/
def validate (s : DiskSpec) : Except String Unit :=
  if s.size = 0 then .error "size must be positive" else .ok ()

/-- The readiness of a disk. -/
def readiness (r : RemoteResource) : Readiness :=
  if r.state = "available" then .ready
  else if r.state = "creating" then .transitional
  else .failed

/-- The label must agree, and the size too where the resource shows one. -/
def isUpToDate (s : DiskSpec) (r : RemoteResource) : Bool :=
  r.text "label" == s.label &&
    match r.uint64? "size" with
    | none => true
    | some size => size == s.size

/-- Disks with a policy. -/
def kind (policy : Policy) : Kind DiskSpec where
  name := kindName
  policy := policy
  validate := validate
  readiness := readiness
  isUpToDate := isUpToDate

/-- Disks without a policy or a validation of their own. -/
def plainKind : Kind DiskSpec where
  name := kindName
  readiness := readiness
  isUpToDate := isUpToDate

end Disk

end CloudKeeper.Simulation
