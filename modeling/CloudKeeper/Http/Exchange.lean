import CloudKeeper.Error
import CloudKeeper.Http.Form
import CloudKeeper.Json.Decoder
/-!
Requests, what can become of them, and responses. A request that gets no full answer is a transport
error; what a status means is decided by the reader of the response.
-/
namespace CloudKeeper.Http

/-- The methods in use. -/
inductive Method
  | get
  | post
  | put
  | delete
  deriving DecidableEq, Repr

/-- The written name of a method. -/
def Method.name : Method → String
  | .get => "GET"
  | .post => "POST"
  | .put => "PUT"
  | .delete => "DELETE"

/-- The header that names a project (`NAMESPACE_HEADER`); the names of headers are sent in lower case. -/
def scopeHeader : String := "x-ucan-ns"

/-- A request to a service. The scope is the value of the header that names a project. -/
structure Request where
  method : Method
  path : String
  query : Option (String × String) := none
  scope : Option String := none
  body : Option Json.Value := none
  deriving Repr

/-- A full answer (`RawResponse`). -/
structure Response where
  status : Nat
  body : List UInt8
  deriving DecidableEq, Repr

/-- What becomes of a request that is sent. -/
inductive Exchange
  /-- No answer came. -/
  | unreachable
  /-- No answer came in time. -/
  | timedOut
  /-- The answer broke off. -/
  | cut
  | answered (response : Response)
  deriving DecidableEq, Repr

/-- Whether a text can be the value of a header: no control character but the tab. -/
def isHeaderValue (s : String) : Bool :=
  s.toList.all fun c => c == '\t' || (0x20 ≤ c.toNat && c.toNat != 0x7F)

/-- The error of a request that cannot be built, of which `transport` makes a transport error like any other. -/
def unbuildable : ClientError := .transport "builder error"

/-- The complete URL of a request, if the base and the path make one. The two are put together by
`HttpClient::url`. -/
def Request.url? (r : Request) (base : String) : Option Url :=
  (Url.parse? (join base r.path)).map fun url =>
    match r.query with
    | none => url
    | some (name, value) => { url with parts := url.parts.addParameter (Form.parameter name value) }

/-- The response of a request, or the error of having none (`HttpClient::send`, with the text from `transport`). -/
def Exchange.response (url : String) : Exchange → Except ClientError Response
  | .unreachable => .error (.transport ("error sending request for url (" ++ url ++ ")"))
  | .timedOut => .error (.transport ("timed out: error sending request for url (" ++ url ++ ")"))
  | .cut => .error (.transport "error decoding response body")
  | .answered response => .ok response

namespace Response

/-- Whether the resource does not exist (`RawResponse::is_not_found`). -/
def isNotFound (r : Response) : Bool := r.status == 404

/-- The response, unless its status says that the call failed (`RawResponse::error_for_status`). -/
def check (r : Response) : Except ClientError Response :=
  if r.status = 404 then .error .notFound
  else if 400 ≤ r.status then .error (.status r.status (Text.Utf8.lossy r.body))
  else .ok r

/-- The decoded body (`RawResponse::json`). -/
def decode {α : Type} (decoder : Json.Decoder α) (r : Response) : Except ClientError α :=
  match Json.decodeOctets decoder r.body with
  | .ok a => .ok a
  | .error e => .error (.decode e.message)

end Response

end CloudKeeper.Http
