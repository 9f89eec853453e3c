import CloudKeeper.Error
import CloudKeeper.Json.Decoder
import CloudKeeper.Text.Quoted
/-!
The credentials of the provider: a pair of keys and the scope they belong to. The secret is never
shown.
-/
namespace CloudKeeper

/-- An access key, its secret and their scope. -/
structure Credentials where
  accessKeyId : String
  secretAccessKey : String
  service : String := ""
  region : String := ""
  deriving DecidableEq

namespace Credentials

/-- How credentials are read. -/
def decoder : Json.Decoder Credentials :=
  ((Json.Record.make Credentials.mk)
    |>.field "accessKeyId" Json.Decoder.string
    |>.field "secretAccessKey" Json.Decoder.string
    |>.field "service" Json.Decoder.string (some "")
    |>.field "region" Json.Decoder.string (some "")).decoder

/-- Reads the octets of credentials (`Credentials::parse`); neither key may be empty. -/
def parse (data : List UInt8) : Except ClientError Credentials :=
  match Json.decodeOctets decoder data with
  | .error e => .error (.invalid ("cannot parse credentials: " ++ e.message))
  | .ok c =>
    if c.accessKeyId.isEmpty || c.secretAccessKey.isEmpty then .error (.invalid "invalid certificate")
    else .ok c

/-- Credentials as they may be shown (`Credentials::fmt`). -/
def text (c : Credentials) : String :=
  "Credentials \x7b access_key_id: " ++ Text.quoted c.accessKeyId
    ++ ", secret_access_key: " ++ Text.quoted "<redacted>"
    ++ ", service: " ++ Text.quoted c.service
    ++ ", region: " ++ Text.quoted c.region ++ " \x7d"

end Credentials

end CloudKeeper
