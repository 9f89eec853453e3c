import CloudKeeper.Http.Message
import Std.Async.DNS
import Std.Async.Select
import Std.Async.TCP
import Std.Async.Timer
import Std.Sync.CancellationToken
/-!
Requests over TCP without encryption. A request is given up when its time has run out or when the
process shuts down.
-/
namespace CloudKeeper.Live

open Http Std.Async Std.Net

/-- The address that a URL leads to, if its host has one. -/
def resolve (url : Url) : Async (Option SocketAddress) := do
  let number := url.endpoint.getD url.scheme.endpoint
  let found ← DNS.getAddrInfo (String.ofList url.host) (toString number)
  let endpoint := number.toUInt16
  return found[0]?.map fun
    | .v4 addr => .v4 ⟨addr, endpoint⟩
    | .v6 addr => .v6 ⟨addr, endpoint⟩

/-- What ends the wait for an answer. -/
inductive Waited
  | received (data : Option ByteArray)
  | timedOut
  | stopped

/-- Receives until the response is whole. -/
partial def receive (socket : TCP.Socket.Client) (deadline : Sleep) (stop : Std.CancellationToken)
    (received : List UInt8) : Async (Option Exchange) := do
  let waited ← Selectable.one #[
    .case (socket.recvSelector 65536) fun data => return Waited.received data,
    .case deadline.selector fun _ => return Waited.timedOut,
    .case stop.selector fun _ => return Waited.stopped]
  match waited with
  | .timedOut => return some .timedOut
  | .stopped => return none
  | .received none => return some (.ofReceived received)
  | .received (some data) =>
    let received := received ++ data.toList
    match Arrival.of received false with
    | .whole response => return some (.answered response)
    | .malformed => return some .unreachable
    | .partly => receive socket deadline stop received

/-- Sends a request and waits for its response. -/
def send (url : Url) (address : SocketAddress) (deadline : Sleep)
    (stop : Std.CancellationToken) (request : Request) : Async (Option Exchange) := do
  let socket ← TCP.Socket.Client.mk
  socket.connect address
  socket.send (ByteArray.mk (request.octets url).toArray)
  receive socket deadline stop []

/-- What becomes of a request (`HttpClient::send`); nothing is said of one that is given up because of a
shutdown. -/
def exchange (base : String) (timeoutMs : Nat) (stop : Std.CancellationToken) (request : Request) :
    IO (Option Exchange) :=
  match request.url? base with
  | none | some { scheme := .https, .. } => return some .unreachable
  | some url =>
    let wait : Std.Time.Millisecond.Offset := .ofNat timeoutMs
    let work : Async (Option Exchange) := do
      match ← resolve url with
      | none => return some .unreachable
      | some address => send url address (← Sleep.mk wait) stop request
    let limit : Async (Option Exchange) := do
      sleep wait
      return some .timedOut
    try Async.block (Async.race work limit)
    catch _ => return some .unreachable

end CloudKeeper.Live
