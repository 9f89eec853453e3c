import CloudKeeper.Kind.Service
/-!
Floating IP addresses of the network service. Every request names the project in a header.
-/
namespace CloudKeeper

open Json (Decoder Record Value)

/-- The declared parameters of a floating IP. The bandwidth is in Mbit/s. -/
structure FloatingIpSpec where
  name : String := ""
  projectId : String
  cellId : String := ""
  isp : String
  floatingNetworkId : String := ""
  routeId : String := ""
  description : String := ""
  bandwidth : UInt64
  deriving DecidableEq, Repr

namespace FloatingIpSpec

/-- The parameters as a JSON value. -/
def toJson (s : FloatingIpSpec) : Value :=
  .object
    [("name", .string s.name), ("projectId", .string s.projectId), ("cellId", .string s.cellId),
      ("isp", .string s.isp), ("floatingNetworkId", .string s.floatingNetworkId),
      ("routeId", .string s.routeId), ("description", .string s.description),
      ("bandwidth", .nat s.bandwidth.toNat)]

/-- How the parameters are read. -/
def decoder : Decoder FloatingIpSpec :=
  ((Record.make FloatingIpSpec.mk)
    |>.field "name" Decoder.string (some "")
    |>.field "projectId" Decoder.string
    |>.field "cellId" Decoder.string (some "")
    |>.field "isp" Decoder.string
    |>.field "floatingNetworkId" Decoder.string (some "")
    |>.field "routeId" Decoder.string (some "")
    |>.field "description" Decoder.string (some "")
    |>.field "bandwidth" Decoder.uint64).decoder

instance : Spec FloatingIpSpec where
  same a b := decide (a = b)
  toJson := toJson
  decoder := decoder

end FloatingIpSpec

namespace FloatingIp

/-- The name of the kind (`KIND`). -/
def kindName : String := "floating_ip"

/-- The path of all floating IPs (`COLLECTION`). -/
def collection : String := "/v3/floatingips"

/-- The path of one floating IP (`FloatingIpClient::item`). -/
def item (id : String) : String := collection ++ "/" ++ id

/-- What must be given (`FloatingIpClient::validate`). -/
def validate (s : FloatingIpSpec) : Except String Unit := do
  require "projectId" s.projectId
  require "isp" s.isp
  requirePositive "bandwidth" s.bandwidth

/-- States that a floating IP leaves on its own, as in `FloatingIpClient::readiness`. -/
def transitionalStates : List String := ["pending", "creating", "updating"]

/-- The readiness of a floating IP (`FloatingIpClient::readiness`). -/
def readiness (r : RemoteResource) : Readiness :=
  if r.state = "running" then .ready
  else if transitionalStates.contains r.state then .transitional
  else .failed

/-- Name, description and bandwidth can be changed; the rest is fixed (`FloatingIpClient::is_up_to_date`). -/
def isUpToDate (s : FloatingIpSpec) (r : RemoteResource) : Bool :=
  r.text "name" == s.name && r.text "description" == s.description
    && r.uint64? "bandwidth" == some s.bandwidth

/-- The body of a create request (`CreateRequest`). -/
def createBody (s : FloatingIpSpec) : Value :=
  .object
    [("floatingip", .object
      [("name", .string s.name), ("project_id", .string s.projectId), ("cell_id", .string s.cellId),
        ("floating_network_id", .string s.floatingNetworkId), ("isp", .string s.isp),
        ("bandwidth", .nat s.bandwidth.toNat), ("description", .string s.description),
        ("route_id", .string s.routeId)])]

/-- The body of an update request (`UpdateRequest`). -/
def updateBody (s : FloatingIpSpec) : Value :=
  .object
    [("floatingip", .object
      [("name", .string s.name), ("description", .string s.description),
        ("bandwidth", .nat s.bandwidth.toNat)])]

/-- A floating IP in a response (`FloatingIp`); any member but the identifier may be null or absent. -/
structure Shown where
  id : String
  status : Option String
  name : Option String
  description : Option String
  bandwidth : Option UInt64
  isp : Option String
  address : Option String
  deriving DecidableEq, Repr

/-- How a floating IP in a response is read. -/
def Shown.decoder : Decoder Shown :=
  ((Record.make Shown.mk)
    |>.field "id" Decoder.string
    |>.field "status" (Decoder.optional Decoder.string) (some none)
    |>.field "name" (Decoder.optional Decoder.string) (some none)
    |>.field "description" (Decoder.optional Decoder.string) (some none)
    |>.field "bandwidth" (Decoder.optional Decoder.uint64) (some none)
    |>.field "isp" (Decoder.optional Decoder.string) (some none)
    |>.field "floating_ip_address" (Decoder.optional Decoder.string) (some none)).decoder

/-- How the response that shows one floating IP is read (`FloatingIpEnvelope`). -/
def envelope : Decoder Shown :=
  ((Record.make id).field "floatingips" Shown.decoder).decoder

/-- The resource that a response shows (`RemoteResource::from`); members that are not there read as empty. -/
def Shown.toResource (f : Shown) : RemoteResource where
  id := f.id
  state := f.status.getD ""
  attributes :=
    [("bandwidth", .nat (f.bandwidth.getD 0).toNat), ("description", .string (f.description.getD "")),
      ("floating_ip_address", .optional f.address), ("isp", .string (f.isp.getD "")),
      ("name", .string (f.name.getD ""))]

/-- The request that a call is: what `FloatingIpClient` sends in `observe`, `create`, `update` and `delete`. It does
not override `find_existing`, so none is ever found. -/
def ask : (call : RemoteCall FloatingIpSpec) → Outgoing call.Answer
  | .observe o id => withScope o.spec.projectId { method := .get, path := item id }
  | .create o =>
    withScope o.spec.projectId
      { method := .post, path := collection, body := some (createBody o.spec) }
  | .update o r =>
    withScope o.spec.projectId
      { method := .put, path := item r.id, body := some (updateBody o.spec) }
  | .delete o id => withScope o.spec.projectId { method := .delete, path := item id }
  | .lookup _ => .known none

/-- What a response says in those methods of `FloatingIpClient`. -/
def read : (call : RemoteCall FloatingIpSpec) → Http.Response → Except ClientError call.Answer
  | .observe _ _, response =>
    if response.isNotFound then .ok .absent
    else do return .present (← (← response.check).decode envelope).toResource
  | .create _, response => do createdId (← (← response.check).decode envelope).id kindName
  | .update _ _, response => do let _ ← response.check
  | .delete _ _, response => do let _ ← response.check
  | .lookup _, _ => .ok none

/-- The kind and its service. -/
def service : Service FloatingIpSpec where
  name := kindName
  validate := validate
  readiness := readiness
  isUpToDate := isUpToDate
  ask := ask
  read := read

end FloatingIp

end CloudKeeper
