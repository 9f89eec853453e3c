import CloudKeeper.Json.Printer
import CloudKeeper.Config
import CloudKeeper.Kind.Service
/-!
Volumes of the block storage service. Every volume is tagged with the deployment and the key of its
object, so one whose identifier was never recorded can be found again.
-/
namespace CloudKeeper

open Json (Decoder Record Value)

/-- The declared parameters of a volume. The size is in GiB; the volume may be asked to lie on one
host with others. -/
structure VolumeSpec where
  name : String
  projectId : String
  size : UInt64
  volumeType : String
  description : String := ""
  multiattach : Bool := false
  cellId : String := ""
  availabilityZone : Option String := none
  sameHost : List String := []
  deriving DecidableEq, Repr

namespace VolumeSpec

/-- The parameters as a JSON value. An absent zone and an empty list of hosts are left out. -/
def toJson (s : VolumeSpec) : Value :=
  .object <|
    [("name", .string s.name), ("projectId", .string s.projectId), ("size", .nat s.size.toNat),
      ("volumeType", .string s.volumeType), ("description", .string s.description),
      ("multiattach", .bool s.multiattach), ("cellId", .string s.cellId)]
    ++ (s.availabilityZone.map fun z => ("availabilityZone", Value.string z)).toList
    ++ (if s.sameHost.isEmpty then [] else [("sameHost", .array (s.sameHost.map .string))])

/-- How the parameters are read. -/
def decoder : Decoder VolumeSpec :=
  ((Record.make VolumeSpec.mk)
    |>.field "name" Decoder.string
    |>.field "projectId" Decoder.string
    |>.field "size" Decoder.uint64
    |>.field "volumeType" Decoder.string
    |>.field "description" Decoder.string (some "")
    |>.field "multiattach" Decoder.bool (some false)
    |>.field "cellId" Decoder.string (some "")
    |>.field "availabilityZone" (Decoder.optional Decoder.string) (some none)
    |>.field "sameHost" (Decoder.list Decoder.string) (some [])).decoder

instance : Spec VolumeSpec where
  same a b := decide (a = b)
  toJson := toJson
  decoder := decoder

end VolumeSpec

namespace Volume

/-- The name of the kind (`KIND`). -/
def kindName : String := "volume"

/-- The metadata key of the ownership tag (`OBJECT_TAG`). -/
def tagKey : String := "ucan.io/object"

/-- The ownership tag of the volume of an object (`VolumeClient::tag`). -/
def tag (deployment : String) (key : Key) : String :=
  deployment ++ "/" ++ key.kind ++ "/" ++ key.name

/-- The path of a project's volumes (`VolumeClient::collection`). -/
def collection (projectId : String) : String :=
  "/volume/v3/" ++ projectId ++ "/volumes"

/-- The path of one volume (`VolumeClient::item`). -/
def item (projectId id : String) : String :=
  collection projectId ++ "/" ++ id

/-- What must be given (`VolumeClient::validate`). -/
def validate (s : VolumeSpec) : Except String Unit := do
  require "name" s.name
  require "projectId" s.projectId
  requirePositive "size" s.size
  require "volumeType" s.volumeType

/-- States in which a volume can be used (`READY`). -/
def readyStates : List String := ["available", "in-use"]

/-- States that a volume leaves on its own (`TRANSITIONAL`). -/
def transitionalStates : List String :=
  ["creating", "downloading", "uploading", "extending", "attaching", "detaching", "reserved",
    "maintenance"]

/-- The readiness of a volume (`VolumeClient::readiness`). -/
def readiness (r : RemoteResource) : Readiness :=
  if readyStates.contains r.state then .ready
  else if transitionalStates.contains r.state then .transitional
  else .failed

/-- Name and description can be changed; size, type and sharing are fixed (`VolumeClient::is_up_to_date`). -/
def isUpToDate (s : VolumeSpec) (r : RemoteResource) : Bool :=
  r.text "name" == s.name && r.text "description" == s.description

/-- The body of a create request (`CreateRequest`). -/
def createBody (deployment : String) (key : Key) (s : VolumeSpec) : Value :=
  .object
    [("volume", .object <|
        [("name", .string s.name), ("size", .nat s.size.toNat),
          ("volume_type", .string s.volumeType), ("description", .string s.description),
          ("multiattach", .bool s.multiattach)]
        ++ (s.availabilityZone.map fun z => ("availability_zone", Value.string z)).toList
        ++ [("cell_id", .string s.cellId),
          ("metadata", .object [(tagKey, .string (tag deployment key))])]),
      ("OS-SCH-HNT:scheduler_hints", .object [("same_host", .array (s.sameHost.map .string))])]

/-- The body of an update request (`UpdateRequest`). -/
def updateBody (s : VolumeSpec) : Value :=
  .object [("volume", .object [("name", .string s.name), ("description", .string s.description)])]

/-- The filter by which `VolumeClient::find_existing` asks for the volume of an object. -/
def tagFilter (deployment : String) (key : Key) : String :=
  Value.toText (.object [(tagKey, .string (tag deployment key))])

/-- A volume in a response (`Volume`); any member but the identifier may be null or absent. -/
structure Shown where
  id : String
  status : Option String
  name : Option String
  description : Option String
  size : Option UInt64
  volumeType : Option String
  multiattach : Option Bool
  deriving DecidableEq, Repr

/-- How a volume in a response is read. -/
def Shown.decoder : Decoder Shown :=
  ((Record.make Shown.mk)
    |>.field "id" Decoder.string
    |>.field "status" (Decoder.optional Decoder.string) (some none)
    |>.field "name" (Decoder.optional Decoder.string) (some none)
    |>.field "description" (Decoder.optional Decoder.string) (some none)
    |>.field "size" (Decoder.optional Decoder.uint64) (some none)
    |>.field "volume_type" (Decoder.optional Decoder.string) (some none)
    |>.field "multiattach" (Decoder.optional Decoder.bool) (some none)).decoder

/-- How the response that shows one volume is read (`VolumeEnvelope`). -/
def envelope : Decoder Shown :=
  ((Record.make id).field "volume" Shown.decoder).decoder

/-- How the response that lists volumes is read (`VolumeList`). -/
def listing : Decoder (List Shown) :=
  ((Record.make id).field "volumes" (Decoder.list Shown.decoder) (some [])).decoder

/-- The resource that a response shows (`RemoteResource::from`); members that are not there read as empty. -/
def Shown.toResource (v : Shown) : RemoteResource where
  id := v.id
  state := v.status.getD ""
  attributes :=
    [("description", .string (v.description.getD "")), ("multiattach", .bool (v.multiattach.getD false)),
      ("name", .string (v.name.getD "")), ("size", .nat (v.size.getD 0).toNat),
      ("volume_type", .string (v.volumeType.getD ""))]

/-- The volume that a tag finds, the answer of `VolumeClient::find_existing`: none, one, or an error that names how
many there are. -/
def found (deployment : String) (key : Key) : List Shown → Except ClientError (Option String)
  | [] => .ok none
  | [v] => .ok (some v.id)
  | vs =>
    .error (.invalid (String.ofList (Decimal.text vs.length) ++ " volumes are tagged " ++ tagKey ++ "="
      ++ tag deployment key))

/-- The request that a call is: what `VolumeClient` sends in `observe`, `create`, `update`, `delete` and
`find_existing`. -/
def ask (deployment : String) : (call : RemoteCall VolumeSpec) → Outgoing call.Answer
  | .observe o id => .send { method := .get, path := item o.spec.projectId id }
  | .create o =>
    .send
      { method := .post, path := collection o.spec.projectId
        body := some (createBody deployment o.key o.spec) }
  | .update o r =>
    .send
      { method := .put, path := item o.spec.projectId r.id, body := some (updateBody o.spec) }
  | .delete o id => .send { method := .delete, path := item o.spec.projectId id }
  | .lookup o =>
    .send
      { method := .get, path := collection o.spec.projectId ++ "/detail"
        query := some ("metadata", tagFilter deployment o.key) }

/-- What a response says in those methods of `VolumeClient`. -/
def read (deployment : String) :
    (call : RemoteCall VolumeSpec) → Http.Response → Except ClientError call.Answer
  | .observe _ _, response =>
    if response.isNotFound then .ok .absent
    else do return .present (← (← response.check).decode envelope).toResource
  | .create _, response => do createdId (← (← response.check).decode envelope).id kindName
  | .update _ _, response => do let _ ← response.check
  | .delete _ _, response => do let _ ← response.check
  | .lookup o, response => do found deployment o.key (← (← response.check).decode listing)

/-- The kind and its service. -/
def service (deployment : String) : Service VolumeSpec where
  name := kindName
  validate := validate
  readiness := readiness
  isUpToDate := isUpToDate
  ask := ask deployment
  read := read deployment

end Volume

end CloudKeeper
