import CloudKeeper.Decimal.Digits
import CloudKeeper.Text.Pieces
import CloudKeeper.Text.Utf8
/-!
URLs of requests: a base without its trailing slashes, a path of the service, and for some requests a
query. What a URL cannot hold is written as percent signs with octets; what it already holds encoded
stays as it is. A text that names no host, or an endpoint that there cannot be, is no URL.
-/
namespace CloudKeeper.Http

/-- The base URL and a path put together (`HttpClient::url`). -/
def join (base path : String) : String :=
  String.ofList (base.toList.reverse.dropWhile (· == '/')).reverse ++ path

/-- A hexadecimal digit in upper case. -/
def upperHex (n : Nat) : Char :=
  if n < 10 then Char.ofNat (48 + n) else Char.ofNat (55 + n)

/-- An octet as a percent sign and two digits. -/
def percent (b : UInt8) : List Char :=
  ['%', upperHex (b.toNat / 16), upperHex (b.toNat % 16)]

/-- A character in octets, each with a percent sign. -/
def percentChar (c : Char) : List Char :=
  (Text.Utf8.encode [c]).flatMap percent

/-- Whether a character must be encoded wherever it stands. -/
def isForbidden (c : Char) : Bool :=
  c.toNat ≤ 0x20 || 0x7F ≤ c.toNat

/-- Whether a character must be encoded in a path. -/
def isForbiddenInPath (c : Char) : Bool :=
  isForbidden c || ['"', '<', '>', '\x60', '\x7b', '\x7d'].contains c

/-- Whether a character must be encoded in a query. -/
def isForbiddenInQuery (c : Char) : Bool :=
  isForbidden c || ['"', '#', '<', '>', '\''].contains c

/-- Whether a character must be encoded in a fragment. -/
def isForbiddenInFragment (c : Char) : Bool :=
  isForbidden c || ['"', '<', '>', '\x60'].contains c

/-- Encodes the characters for which a rule says so. -/
def encode (forbidden : Char → Bool) (cs : List Char) : List Char :=
  cs.flatMap fun c => if forbidden c then percentChar c else [c]

/-- Whether a character is dropped from a URL before it is read. -/
def isDropped (c : Char) : Bool :=
  c == '\t' || c == '\n' || c == '\r'

/-- A text in two at the first mark, which belongs to neither half. -/
def splitAt? (mark : Char) (cs : List Char) : List Char × Option (List Char) :=
  (cs.takeWhile (· != mark),
    match cs.dropWhile (· != mark) with
    | [] => none
    | _ :: rest => some rest)

/-- Whether a character is a blank or a control character of ASCII. -/
def isPadding (c : Char) : Bool :=
  c.toNat ≤ 0x20

/-- A text without the blanks and control characters at both ends. -/
def trim (cs : List Char) : List Char :=
  ((cs.dropWhile isPadding).reverse.dropWhile isPadding).reverse

/-- The parts of a URL behind its host, the query and the fragment without their marks. -/
structure Parts where
  path : List Char
  query : Option (List Char)
  fragment : Option (List Char)
  deriving DecidableEq, Repr

/-- Whether a character parts a path; both kinds of slashes do. -/
def isSlash (c : Char) : Bool :=
  c == '/' || c == '\\'

/-- Whether a segment is a number of dots, each plain or encoded. -/
def isDots : Nat → List Char → Bool
  | 0, [] => true
  | n + 1, '.' :: rest => isDots n rest
  | n + 1, '%' :: '2' :: c :: rest => (c == 'e' || c == 'E') && isDots n rest
  | _, _ => false

/-- The segments of a path without those that stay where they are or go back to the one before, given
what has been kept so far with the last one first. -/
def withoutDots : List (List Char) → List (List Char) → List (List Char)
  | kept, [] => kept.reverse
  | kept, s :: rest =>
    let next := if isDots 2 s then kept.tail else if isDots 1 s then kept else s :: kept
    if rest.isEmpty && (isDots 2 s || isDots 1 s) then withoutDots ([] :: next) rest
    else withoutDots next rest

/-- The encoded path of a URL; no path is the same as a single slash. -/
def encodePath (cs : List Char) : List Char :=
  encode isForbiddenInPath ((withoutDots [] (Text.pieces isSlash cs.tail)).flatMap ('/' :: ·))

/-- Splits the text behind a host into its encoded parts. A fragment may hold anything, a query anything
but the mark of a fragment. -/
def Parts.of (cs : List Char) : Parts :=
  let (front, fragment) := splitAt? '#' cs
  let (path, query) := splitAt? '?' front
  { path := encodePath path
    query := query.map (encode isForbiddenInQuery)
    fragment := fragment.map (encode isForbiddenInFragment) }

/-- The parts with one more parameter in the query. -/
def Parts.addParameter (p : Parts) (parameter : List Char) : Parts :=
  { p with query := some (match p.query with
      | none | some [] => parameter
      | some q => q ++ '&' :: parameter) }

/-- The written parts. -/
def Parts.text (p : Parts) : List Char :=
  p.path ++ (p.query.map ('?' :: ·)).getD [] ++ (p.fragment.map ('#' :: ·)).getD []

/-- The schemes of requests. -/
inductive Scheme
  | http
  | https
  deriving DecidableEq, Repr

namespace Scheme

/-- The scheme of a name in letters of either case. -/
def ofName? (name : List Char) : Option Scheme :=
  match String.ofList (name.map Char.toLower) with
  | "http" => some .http
  | "https" => some .https
  | _ => none

/-- The name of a scheme. -/
def name : Scheme → String
  | .http => "http"
  | .https => "https"

/-- The endpoint of a host that is meant when none is given. -/
def endpoint : Scheme → Nat
  | .http => 80
  | .https => 443

end Scheme

/-- A complete URL. The endpoint is given where it is not that of the scheme. -/
structure Url where
  scheme : Scheme
  host : List Char
  endpoint : Option Nat
  parts : Parts
  deriving DecidableEq, Repr

namespace Url

/-- Whether a character ends the part of a URL that names the host. -/
def endsAuthority (c : Char) : Bool :=
  isSlash c || c == '?' || c == '#'

/-- Whether a character can stand in the name of a host. Names outside ASCII are not taken. -/
def isHostChar (c : Char) : Bool :=
  0x20 < c.toNat && c.toNat < 0x7F && !(['%', '<', '>', '\\', '^', '|', '[', ']', ':'].contains c)

/-- The name of a host, in lower case, and what stands behind it. A name in brackets is an address with
colons of its own. -/
def host? : List Char → Option (List Char × List Char)
  | '[' :: rest =>
    match splitAt? ']' rest with
    | (address, some behind) =>
      if address.all fun c => c.isAlphanum || c == ':' || c == '.' then
        some ('[' :: address.map Char.toLower ++ [']'], behind)
      else none
    | _ => none
  | cs =>
    let name := cs.takeWhile (· != ':')
    if !name.isEmpty && name.all isHostChar then
      some (name.map Char.toLower, cs.dropWhile (· != ':'))
    else none

/-- The endpoint that is written behind the name of a host, if it is not that of the scheme. -/
def endpoint? (scheme : Scheme) : List Char → Option (Option Nat)
  | [] => some none
  | ':' :: digits =>
    match Decimal.spanDigits digits with
    | ([], []) => some none
    | (ds, []) =>
      let n := Decimal.ofDigits ds
      if 65535 < n then none else some (if n = scheme.endpoint then none else some n)
    | _ => none
  | _ => none

/-- What stands behind the last mark of a text, or all of it. -/
def afterLast (mark : Char) (cs : List Char) : List Char :=
  (cs.reverse.takeWhile (· != mark)).reverse

/-- Reads a complete URL. Blanks around it and line breaks within do not count, and a user's name and
password are left out. -/
def parse? (text : String) : Option Url :=
  match splitAt? ':' ((trim text.toList).filter (!isDropped ·)) with
  | (name, some rest) => do
    let scheme ← Scheme.ofName? name
    let rest := rest.dropWhile isSlash
    let authority := rest.takeWhile (!endsAuthority ·)
    let (host, digits) ← host? (afterLast '@' authority)
    let endpoint ← endpoint? scheme digits
    return { scheme, host, endpoint, parts := .of (rest.dropWhile (!endsAuthority ·)) }
  | _ => none

/-- A URL in full. -/
def text (u : Url) : String :=
  u.scheme.name ++ "://" ++ String.ofList (u.host
    ++ (u.endpoint.map fun n => ':' :: Decimal.text n).getD [] ++ u.parts.text)

/-- What is sent of a URL: path and query. -/
def target (u : Url) : String :=
  String.ofList { u.parts with fragment := none : Parts }.text

end Url

end CloudKeeper.Http
