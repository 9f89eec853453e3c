import CloudKeeper.Http.Exchange
import CloudKeeper.Json.Printer
/-!
Requests and responses as octets on a connection. Every request asks for the connection to be closed
after its response, so a response that does not tell its length ends with the connection.
-/
namespace CloudKeeper.Http

/-- A line of text with its end. -/
def line (text : String) : String := text ++ "\r\n"

/-- A request as it is sent to the host of its URL. -/
def Request.octets (r : Request) (url : Url) : List UInt8 :=
  let body := (r.body.map fun v => Text.Utf8.ofString v.toText).getD []
  let number (n : Nat) : String := String.ofList (Decimal.text n)
  let lines :=
    [r.method.name ++ " " ++ url.target ++ " HTTP/1.1",
      "host: " ++ String.ofList url.host ++ ((url.endpoint.map fun n => ":" ++ number n).getD ""),
      "accept: */*",
      "connection: close", "content-type: application/json"]
    ++ (r.scope.map fun s => scopeHeader ++ ": " ++ s).toList
    ++ (r.body.map fun _ => "content-length: " ++ number body.length).toList
  Text.Utf8.ofString (String.join (lines.map line) ++ line "") ++ body

/-- What has come of a response. -/
inductive Arrival
  /-- More must come. -/
  | partly
  /-- It is no response. -/
  | malformed
  | whole (response : Response)
  deriving DecidableEq, Repr

/-- The octets up to the end of a line, and those behind it. -/
def splitLine? : List UInt8 → Option (List UInt8 × List UInt8)
  | 13 :: 10 :: rest => some ([], rest)
  | b :: rest => (splitLine? rest).map fun (text, behind) => (b :: text, behind)
  | [] => none

/-- The lines up to an empty one, at most a number of them, and the octets behind it. -/
def splitHead? : Nat → List UInt8 → Option (List (List UInt8) × List UInt8)
  | 0, _ => none
  | fuel + 1, octets =>
    match splitLine? octets with
    | none => none
    | some ([], rest) => some ([], rest)
    | some (text, rest) => (splitHead? fuel rest).map fun (lines, behind) => (text :: lines, behind)

/-- A line of a head as its name, in lower case, and its value. -/
def field (octets : List UInt8) : String × String :=
  let (name, value) := splitAt? ':' (Text.Utf8.lossy octets).toList
  (String.ofList (name.map Char.toLower), String.ofList (trim (value.getD [])))

/-- The status in the first line of a head. -/
def status? (octets : List UInt8) : Option Nat :=
  match splitAt? ' ' (Text.Utf8.lossy octets).toList with
  | (_, some rest) =>
    match Decimal.spanDigits rest with
    | ([], _) => none
    | (ds, _) => some (Decimal.ofDigits ds)
  | _ => none

/-- The number at the start of a line in hexadecimal digits. -/
def hexLength : Nat → List UInt8 → Nat
  | n, b :: rest =>
    match Json.hexValue? (Char.ofNat b.toNat) with
    | some d => hexLength (n * 16 + d) rest
    | none => n
  | n, [] => n

/-- The octets in chunks, if the last chunk has come. -/
def unchunk? : Nat → List UInt8 → Option (List UInt8)
  | 0, _ => none
  | fuel + 1, octets =>
    match splitLine? octets with
    | none => none
    | some (size, rest) =>
      let n := hexLength 0 size
      if n = 0 then some []
      else if rest.length < n + 2 then none
      else (unchunk? fuel (rest.drop (n + 2))).map (rest.take n ++ ·)

/-- The body of a response, if all of it has come. -/
def body? (status : Nat) (fields : List (String × String)) (rest : List UInt8) (closed : Bool) :
    Option (List UInt8) :=
  if status = 204 ∨ status = 304 then some []
  else if fields.lookup "transfer-encoding" = some "chunked" then unchunk? (rest.length + 1) rest
  else
    match (fields.lookup "content-length").map fun text => Decimal.spanDigits text.toList with
    | some (ds, _) =>
      let n := Decimal.ofDigits ds
      if rest.length < n then none else some (rest.take n)
    | none => if closed then some rest else none

/-- What some octets are of a response. -/
def Arrival.of (received : List UInt8) (closed : Bool) : Arrival :=
  match splitHead? (received.length + 1) received with
  | none => .partly
  | some ([], _) => .malformed
  | some (first :: lines, rest) =>
    match status? first with
    | none => .malformed
    | some status =>
      match body? status (lines.map field) rest closed with
      | some body => .whole ⟨status, body⟩
      | none => .partly

/-- What has become of a request when nothing more will come. -/
def Exchange.ofReceived (received : List UInt8) : Exchange :=
  match Arrival.of received true with
  | .whole response => .answered response
  | .malformed => .unreachable
  | .partly => if (splitHead? (received.length + 1) received).isSome then .cut else .unreachable

end CloudKeeper.Http
