import CloudKeeper.Kind.FloatingIp
import CloudKeeper.Kind.VirtualMachine
import CloudKeeper.Kind.Volume
/-!
The manifest lists every object that should exist, kind by kind. Names must be given, and within a kind
no name may be given twice.
-/
namespace CloudKeeper

open Json (Decoder Record)

/-- An object that should exist. -/
structure ManifestEntry (S : Type) where
  name : String
  spec : S
  deriving Repr

/-- How an entry is read. -/
def ManifestEntry.decoder {S : Type} [Spec S] : Decoder (ManifestEntry S) :=
  ((Record.make ManifestEntry.mk)
    |>.field "name" Decoder.string
    |>.field "spec" Spec.decoder).decoder

/-- Why there is no manifest. -/
inductive ManifestError
  | read (path why : String)
  | parse (text : String)
  | emptyName (kind : String)
  | duplicate (kind name : String)
  deriving DecidableEq, Repr

/-- The text of the error, as `ManifestError` displays itself. -/
def ManifestError.message : ManifestError → String
  | .read path why => "cannot read manifest " ++ path ++ ": " ++ why
  | .parse text => "cannot parse manifest: " ++ text
  | .emptyName kind => kind ++ " entry without a name"
  | .duplicate kind name => kind ++ " " ++ name ++ " is declared twice"

/-- All objects that should exist. -/
structure Manifest where
  volumes : List (ManifestEntry VolumeSpec) := []
  floatingIps : List (ManifestEntry FloatingIpSpec) := []
  virtualMachines : List (ManifestEntry VirtualMachineSpec) := []
  deriving Repr

namespace Manifest

/-- How a manifest is read. -/
def decoder : Decoder Manifest :=
  ((Record.make Manifest.mk)
    |>.field "volumes" (Decoder.list ManifestEntry.decoder) (some [])
    |>.field "floatingIps" (Decoder.list ManifestEntry.decoder) (some [])
    |>.field "virtualMachines" (Decoder.list ManifestEntry.decoder) (some [])).decoder

/-- Checks the names of a kind's entries from the front, given those already seen (`check_names`). -/
def checkNames (kind : String) (seen : List String) : List String → Except ManifestError Unit
  | [] => .ok ()
  | name :: rest =>
    if name.isEmpty then .error (.emptyName kind)
    else if name ∈ seen then .error (.duplicate kind name)
    else checkNames kind (name :: seen) rest

/-- Reads the octets of a manifest (`Manifest::parse`). -/
def parse (data : List UInt8) : Except ManifestError Manifest :=
  match Json.decodeOctets decoder data with
  | .error e => .error (.parse e.message)
  | .ok m => do
    checkNames Volume.kindName [] (m.volumes.map (·.name))
    checkNames FloatingIp.kindName [] (m.floatingIps.map (·.name))
    checkNames VirtualMachine.kindName [] (m.virtualMachines.map (·.name))
    return m

/-- The manifest at a path, given the octets read there or the reason why they could not be read
(`Manifest::load`). -/
def load (path : String) : Except String (List UInt8) → Except ManifestError Manifest
  | .error why => .error (.read path why)
  | .ok data => parse data

end Manifest

end CloudKeeper
