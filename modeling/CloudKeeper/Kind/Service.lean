import CloudKeeper.Remote
import CloudKeeper.Http.Exchange
/-!
A kind of resource together with the service that holds it: which request a call is, and what the
response says. Some calls are answered without a request, and some cannot be sent.
-/
namespace CloudKeeper

/-- What a call needs. -/
inductive Outgoing (α : Type)
  /-- The answer is known without asking. -/
  | known (answer : α)
  /-- No request can be built. -/
  | refused (error : ClientError)
  | send (request : Http.Request)

/-- A kind and how its service is spoken to: what an `ExternalClient` asks and how it reads the response, without
the sending. -/
structure Service (S : Type) extends Kind S where
  ask : (call : RemoteCall S) → Outgoing call.Answer
  read : (call : RemoteCall S) → Http.Response → Except ClientError call.Answer

namespace Service

variable {S : Type}

/-- The outcome of a call, given what becomes of the request when it is sent (`HttpClient::send`). -/
def outcome (service : Service S) (base : String) (call : RemoteCall S)
    (exchange : Http.Request → Http.Exchange) : Except ClientError call.Answer :=
  match service.ask call with
  | .known answer => .ok answer
  | .refused error => .error error
  | .send request =>
    match request.url? base with
    | none => .error Http.unbuildable
    | some url => do
      let response ← (exchange request).response url.text
      service.read call response

end Service

/-- Whether text stands in a required field (`require`). -/
def require (field value : String) : Except String Unit :=
  if Text.isBlankText value then .error (field ++ " is required") else .ok ()

/-- Whether a required number is given (`require_positive`). -/
def requirePositive (field : String) (value : UInt64) : Except String Unit :=
  if value = 0 then .error (field ++ " must be greater than zero") else .ok ()

/-- The identifier in the answer to a create request, which must not be empty (`created_id`). -/
def createdId (id kind : String) : Except ClientError String :=
  if id.isEmpty then .error (.decode ("create response carries no " ++ kind ++ " id")) else .ok id

/-- The request with the value of a header, unless no header can have it (`FloatingIpClient::scoped`). -/
def withScope {α : Type} (scope : String) (request : Http.Request) : Outgoing α :=
  if Http.isHeaderValue scope then .send { request with scope := some scope }
  else .refused Http.unbuildable

end CloudKeeper
