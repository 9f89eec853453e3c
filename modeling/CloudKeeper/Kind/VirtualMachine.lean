import CloudKeeper.Kind.Service
/-!
Virtual machines of the compute service.
-/
namespace CloudKeeper

open Json (Decoder Record Value)

/-- A disk of a virtual machine. -/
structure BlockDevice where
  bootIndex : Int64 := 0
  deleteOnTermination : Bool := false
  deviceName : String := ""
  sourceType : String
  destinationType : String := ""
  volumeSize : UInt64 := 0
  volumeType : String := ""
  uuid : String := ""
  deriving DecidableEq, Repr

/-- The declared parameters of a virtual machine. -/
structure VirtualMachineSpec where
  name : String
  projectId : String
  cellId : String := ""
  imageRef : String
  flavorRef : String
  availabilityZone : String := ""
  userData : String := ""
  metadata : SortedMap String String := .empty
  securityGroups : List String := []
  blockDevices : List BlockDevice := []
  deriving DecidableEq, Repr

/-- A map of texts as a JSON value. -/
def textMap (m : SortedMap String String) : Value :=
  .object (m.entries.map fun e => (e.1, .string e.2))

namespace BlockDevice

/-- The disk as a JSON value. -/
def toJson (d : BlockDevice) : Value :=
  .object
    [("bootIndex", .int d.bootIndex.toInt), ("deleteOnTermination", .bool d.deleteOnTermination),
      ("deviceName", .string d.deviceName), ("sourceType", .string d.sourceType),
      ("destinationType", .string d.destinationType), ("volumeSize", .nat d.volumeSize.toNat),
      ("volumeType", .string d.volumeType), ("uuid", .string d.uuid)]

/-- How a disk is read. -/
def decoder : Decoder BlockDevice :=
  ((Record.make BlockDevice.mk)
    |>.field "bootIndex" Decoder.int64 (some 0)
    |>.field "deleteOnTermination" Decoder.bool (some false)
    |>.field "deviceName" Decoder.string (some "")
    |>.field "sourceType" Decoder.string
    |>.field "destinationType" Decoder.string (some "")
    |>.field "volumeSize" Decoder.uint64 (some 0)
    |>.field "volumeType" Decoder.string (some "")
    |>.field "uuid" Decoder.string (some "")).decoder

/-- A member of a request, left out where its text is empty. -/
def textMember (name value : String) : List (String × Value) :=
  if value.isEmpty then [] else [(name, .string value)]

/-- The disk in a create request (`BlockDeviceMapping`): apart from the boot index and the source, what is empty,
zero or false is left out. -/
def requestBody (d : BlockDevice) : Value :=
  .object <|
    [("boot_index", .int d.bootIndex.toInt)]
    ++ (if d.deleteOnTermination then [("delete_on_termination", .bool true)] else [])
    ++ textMember "device_name" d.deviceName
    ++ [("source_type", .string d.sourceType)]
    ++ textMember "destination_type" d.destinationType
    ++ (if d.volumeSize = 0 then [] else [("volume_size", .nat d.volumeSize.toNat)])
    ++ textMember "volume_type" d.volumeType
    ++ textMember "uuid" d.uuid

end BlockDevice

namespace VirtualMachineSpec

/-- The parameters as a JSON value. -/
def toJson (s : VirtualMachineSpec) : Value :=
  .object
    [("name", .string s.name), ("projectId", .string s.projectId), ("cellId", .string s.cellId),
      ("imageRef", .string s.imageRef), ("flavorRef", .string s.flavorRef),
      ("availabilityZone", .string s.availabilityZone), ("userData", .string s.userData),
      ("metadata", textMap s.metadata), ("securityGroups", .array (s.securityGroups.map .string)),
      ("blockDeviceMapping", .array (s.blockDevices.map BlockDevice.toJson))]

/-- How the parameters are read. -/
def decoder : Decoder VirtualMachineSpec :=
  ((Record.make VirtualMachineSpec.mk)
    |>.field "name" Decoder.string
    |>.field "projectId" Decoder.string
    |>.field "cellId" Decoder.string (some "")
    |>.field "imageRef" Decoder.string
    |>.field "flavorRef" Decoder.string
    |>.field "availabilityZone" Decoder.string (some "")
    |>.field "userData" Decoder.string (some "")
    |>.field "metadata" (Decoder.map Decoder.string) (some .empty)
    |>.field "securityGroups" (Decoder.list Decoder.string) (some [])
    |>.field "blockDeviceMapping" (Decoder.list BlockDevice.decoder) (some [])).decoder

instance : Spec VirtualMachineSpec where
  same a b := decide (a = b)
  toJson := toJson
  decoder := decoder

end VirtualMachineSpec

namespace VirtualMachine

/-- The name of the kind (`KIND`). -/
def kindName : String := "virtual_machine"

/-- The path of all servers (`COLLECTION`). -/
def collection : String := "/virtualmachine/v3/servers"

/-- The path of one server (`VirtualMachineClient::item`). -/
def item (id : String) : String := collection ++ "/" ++ id

/-- Every disk must name its source. -/
def validateDevices (index : Nat) : List BlockDevice → Except String Unit
  | [] => .ok ()
  | d :: rest =>
    if d.sourceType.isEmpty then
      .error ("blockDeviceMapping[" ++ String.ofList (Decimal.text index) ++ "].sourceType is required")
    else validateDevices (index + 1) rest

/-- What must be given (`VirtualMachineClient::validate`). -/
def validate (s : VirtualMachineSpec) : Except String Unit := do
  require "name" s.name
  require "projectId" s.projectId
  require "imageRef" s.imageRef
  require "flavorRef" s.flavorRef
  validateDevices 0 s.blockDevices

/-- States that a server leaves on its own (`TRANSITIONAL`). -/
def transitionalStates : List String :=
  ["BUILD", "REBUILD", "RESIZE", "VERIFY_RESIZE", "REBOOT", "HARD_REBOOT", "MIGRATING", "PASSWORD"]

/-- The readiness of a server (`VirtualMachineClient::readiness`). -/
def readiness (r : RemoteResource) : Readiness :=
  if r.state = "ACTIVE" then .ready
  else if transitionalStates.contains r.state then .transitional
  else .failed

/-- The text of a metadata entry of a server. -/
def metadata? (r : RemoteResource) (key : String) : Option String :=
  ((r.attribute? "metadata").bind fun m => m.get? key).bind Value.string?

/-- The name and the declared metadata can be changed (`VirtualMachineClient::is_up_to_date`). Metadata that the
service adds does not count; image, flavor and disks are fixed. -/
def isUpToDate (s : VirtualMachineSpec) (r : RemoteResource) : Bool :=
  r.text "name" == s.name && s.metadata.entries.all fun e => metadata? r e.1 == some e.2

/-- The body of a create request (`CreateRequest`). -/
def createBody (s : VirtualMachineSpec) : Value :=
  .object
    [("name", .string s.name), ("project_id", .string s.projectId), ("cell_id", .string s.cellId),
      ("imageRef", .string s.imageRef), ("flavorRef", .string s.flavorRef),
      ("availability_zone", .string s.availabilityZone), ("user_data", .string s.userData),
      ("metadata", textMap s.metadata),
      ("security_groups", .array (s.securityGroups.map fun g => .object [("name", .string g)])),
      ("block_device_mapping", .array (s.blockDevices.map BlockDevice.requestBody))]

/-- The body of an update request (`UpdateRequest`). -/
def updateBody (s : VirtualMachineSpec) : Value :=
  .object [("server", .object [("name", .string s.name), ("metadata", textMap s.metadata)])]

/-- A server in a response (`Server`); any member but the identifier may be null or absent. Image and flavor are
shown by reference. -/
structure Shown where
  id : String
  status : Option String
  name : Option String
  metadata : Option (SortedMap String String)
  image : Option (Option String)
  flavor : Option (Option String)
  deriving DecidableEq, Repr

/-- How a reference is read (`Reference`): its identifier. -/
def reference : Decoder (Option String) :=
  ((Record.make id).field "id" (Decoder.optional Decoder.string) (some none)).decoder

/-- How a server in a response is read. -/
def Shown.decoder : Decoder Shown :=
  ((Record.make Shown.mk)
    |>.field "id" Decoder.string
    |>.field "status" (Decoder.optional Decoder.string) (some none)
    |>.field "name" (Decoder.optional Decoder.string) (some none)
    |>.field "metadata" (Decoder.optional (Decoder.map Decoder.string)) (some none)
    |>.field "image" (Decoder.optional reference) (some none)
    |>.field "flavor" (Decoder.optional reference) (some none)).decoder

/-- How the response that shows one server is read (`ServerEnvelope`). -/
def envelope : Decoder Shown :=
  ((Record.make id).field "server" Shown.decoder).decoder

/-- The resource that a response shows (`RemoteResource::from`); members that are not there read as empty. -/
def Shown.toResource (v : Shown) : RemoteResource where
  id := v.id
  state := v.status.getD ""
  attributes :=
    [("flavor", .string ((v.flavor.getD none).getD "")), ("image", .string ((v.image.getD none).getD "")),
      ("metadata", textMap (v.metadata.getD .empty)), ("name", .string (v.name.getD ""))]

/-- The request that a call is: what `VirtualMachineClient` sends in `observe`, `create`, `update` and `delete`. It
does not override `find_existing`, so none is ever found. -/
def ask : (call : RemoteCall VirtualMachineSpec) → Outgoing call.Answer
  | .observe _ id => .send { method := .get, path := item id }
  | .create o => .send { method := .post, path := collection, body := some (createBody o.spec) }
  | .update o r =>
    .send { method := .put, path := item r.id, body := some (updateBody o.spec) }
  | .delete _ id => .send { method := .delete, path := item id }
  | .lookup _ => .known none

/-- What a response says in those methods of `VirtualMachineClient`. -/
def read : (call : RemoteCall VirtualMachineSpec) → Http.Response → Except ClientError call.Answer
  | .observe _ _, response =>
    if response.isNotFound then .ok .absent
    else do return .present (← (← response.check).decode envelope).toResource
  | .create _, response => do createdId (← (← response.check).decode envelope).id kindName
  | .update _ _, response => do let _ ← response.check
  | .delete _ _, response => do let _ ← response.check
  | .lookup _, _ => .ok none

/-- The kind and its service. -/
def service : Service VirtualMachineSpec where
  name := kindName
  validate := validate
  readiness := readiness
  isUpToDate := isUpToDate
  ask := ask
  read := read

end VirtualMachine

end CloudKeeper
