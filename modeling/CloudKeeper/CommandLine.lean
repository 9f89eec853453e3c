import CloudKeeper.Config
import CloudKeeper.Decimal.Digits
/-!
The command line of the provider. Arguments are read from left to right; an option takes its value
after an equals sign or from the next argument, which must not look like an option. Options that are
not given come from the environment, then from their defaults.
-/
namespace CloudKeeper.CommandLine

open Time (Duration)

/-- The options, the fields of `Args`. -/
inductive Flag
  | manifest
  | stateDir
  | credentials
  | pollInterval
  | manifestInterval
  | concurrency
  | backoffBase
  | backoffMax
  | requestTimeout
  | deployment
  | volumeEndpoint
  | networkEndpoint
  | computeEndpoint
  deriving DecidableEq, Repr

/-- Why the program does not start with these arguments. The last two are wishes, not mistakes. -/
inductive Stop
  | missingRequiredArgument
  | unknownArgument
  | invalidValue
  | valueValidation
  | argumentConflict
  | tooManyValues
  | displayHelp
  | displayVersion
  deriving DecidableEq, Repr

/-- The exit code of the program. -/
def Stop.exitCode : Stop → Nat
  | .displayHelp | .displayVersion => 0
  | _ => 2

/-- What an option takes: a path, which is not empty, any text, or an unsigned 64-bit number not below
a bound. -/
inductive Shape
  | path
  | text
  | number (least : Nat)
  deriving DecidableEq, Repr

namespace Flag

/-- All options in declaration order. -/
def all : List Flag :=
  [.manifest, .stateDir, .credentials, .pollInterval, .manifestInterval, .concurrency, .backoffBase,
    .backoffMax, .requestTimeout, .deployment, .volumeEndpoint, .networkEndpoint, .computeEndpoint]

/-- The name of an option, without its dashes. -/
def name : Flag → String
  | .manifest => "manifest"
  | .stateDir => "state-dir"
  | .credentials => "credentials"
  | .pollInterval => "poll-interval"
  | .manifestInterval => "manifest-interval"
  | .concurrency => "concurrency"
  | .backoffBase => "backoff-base-ms"
  | .backoffMax => "backoff-max"
  | .requestTimeout => "request-timeout"
  | .deployment => "instance"
  | .volumeEndpoint => "volume-endpoint"
  | .networkEndpoint => "network-endpoint"
  | .computeEndpoint => "compute-endpoint"

/-- The variable of the environment that stands in for an option. -/
def variableName? : Flag → Option String
  | .manifest => some "UCAN_MANIFEST"
  | .stateDir => some "UCAN_STATE_DIR"
  | .credentials => some "UCAN_CREDENTIALS"
  | .deployment => some "UCAN_INSTANCE"
  | .volumeEndpoint => some "UCAN_VOLUME_ENDPOINT"
  | .networkEndpoint => some "UCAN_NETWORK_ENDPOINT"
  | .computeEndpoint => some "UCAN_COMPUTE_ENDPOINT"
  | _ => none

/-- What an option takes. -/
def shape : Flag → Shape
  | .manifest | .stateDir | .credentials => .path
  | .backoffBase => .number 1
  | .pollInterval | .manifestInterval | .concurrency | .backoffMax | .requestTimeout => .number 0
  | .deployment | .volumeEndpoint | .networkEndpoint | .computeEndpoint => .text

/-- The option of a name. -/
def ofName? (name : String) : Option Flag :=
  all.find? fun f => f.name == name

end Flag

/-- Reads an unsigned 64-bit number; a plus sign may stand before its digits. -/
def number? (s : String) : Option UInt64 :=
  let cs := match s.toList with
    | '+' :: rest => rest
    | cs => cs
  match Decimal.spanDigits cs with
  | ([], _) => none
  | (ds, []) =>
    if Decimal.ofDigits ds < UInt64.size then some (Decimal.ofDigits ds).toUInt64 else none
  | _ => none

/-- Checks the value of an option. -/
def Shape.check (shape : Shape) (value : String) : Except Stop Unit :=
  match shape with
  | .path => if value.isEmpty then .error .invalidValue else .ok ()
  | .text => .ok ()
  | .number least =>
    match number? value with
    | none => .error .valueValidation
    | some n => if least ≤ n.toNat then .ok () else .error .valueValidation

/-- The options that have been given, with their values. -/
abbrev Given := List (Flag × String)

/-- The arguments read so far: what has been given, the option that waits, with its value if that has
been seen, and whether the two dashes have been seen that end the options. -/
structure Reading where
  given : Given := []
  waiting : Option (Flag × Option String) := none
  ended : Bool := false
  deriving DecidableEq, Repr

/-- Takes an option with its value. -/
def take (given : Given) (flag : Flag) (value : String) : Except Stop Given :=
  if (given.lookup flag).isSome then .error .argumentConflict
  else do
    flag.shape.check value
    return (flag, value) :: given

namespace Reading

/-- Takes the option that waits. -/
def settle (r : Reading) : Except Stop Reading :=
  match r.waiting with
  | none => .ok r
  | some (_, none) => .error .invalidValue
  | some (flag, some value) => do
    return { r with given := ← take r.given flag value, waiting := none }

/-- Reads an argument that begins with two dashes, given the name and the value after an equals
sign. -/
def long (r : Reading) (name : String) (value : Option String) : Except Stop Reading :=
  if name = "help" ∨ name = "version" then
    match value with
    | some _ => .error .tooManyValues
    | none => do
      let _ ← r.settle
      .error (if name = "help" then .displayHelp else .displayVersion)
  else
    match Flag.ofName? name with
    | none => .error .unknownArgument
    | some flag => do
      let r ← r.settle
      match value with
      | some v => return { r with given := ← take r.given flag v }
      | none => return { r with waiting := some (flag, none) }

/-- Reads an argument that begins with one dash: its first letter decides. -/
def short (r : Reading) (letter : Char) : Except Stop Reading :=
  if letter = 'h' ∨ letter = 'V' then do
    let _ ← r.settle
    .error (if letter = 'h' then .displayHelp else .displayVersion)
  else .error .unknownArgument

/-- Reads an argument that is no option: the value that an option waits for. -/
def plain (r : Reading) (arg : String) : Except Stop Reading :=
  match r.waiting with
  | some (flag, none) => .ok { r with waiting := some (flag, some arg) }
  | _ => .error .unknownArgument

/-- Reads one argument. -/
def step (r : Reading) (arg : String) : Except Stop Reading :=
  if r.ended then .error .unknownArgument
  else
    match arg.toList with
    | '-' :: '-' :: [] => .ok { r with ended := true }
    | '-' :: '-' :: rest =>
      let name := String.ofList (rest.takeWhile (· != '='))
      match rest.dropWhile (· != '=') with
      | _ :: value => r.long name (some (String.ofList value))
      | [] => r.long name none
    | '-' :: letter :: _ => r.short letter
    | _ => r.plain arg

end Reading

/-- Takes an option from the environment if it has not been given. -/
def takeVariable (environment : List (String × String)) (given : Given) (flag : Flag) :
    Except Stop Given :=
  match given.lookup flag, flag.variableName?.bind (fun v => environment.lookup v) with
  | none, some value => take given flag value
  | _, _ => .ok given

/-- What the command line asks for: a configuration and the file of the credentials. -/
structure Arguments where
  config : Config
  credentials : String
  deriving DecidableEq, Repr

/-- The number given for an option, or its default. -/
def numberOf (given : Given) (flag : Flag) (standard : UInt64) : UInt64 :=
  ((given.lookup flag).bind number?).getD standard

/-- The larger of a number and one. -/
def atLeastOne (n : UInt64) : UInt64 := if n = 0 then 1 else n

/-- The directory of the snapshots when none is given. -/
def defaultStateDir : String := "/var/lib/ucan-provider"

/-- Builds the configuration from checked options (`Args::config`). -/
def arguments (given : Given) : Except Stop Arguments :=
  match given.lookup .manifest, given.lookup .credentials with
  | some manifest, some credentials =>
    let endpoints : Endpoints := {}
    .ok
      { credentials := credentials
        config :=
          { manifest := manifest
            stateDir := (given.lookup .stateDir).getD defaultStateDir
            manifestInterval := .ofSeconds (atLeastOne (numberOf given .manifestInterval 10))
            requestTimeout := .ofSeconds (numberOf given .requestTimeout 30)
            scheduler :=
              { pollInterval := .ofSeconds (atLeastOne (numberOf given .pollInterval 60))
                concurrency := numberOf given .concurrency 10
                backoff := .new (.ofMillis (numberOf given .backoffBase 1000))
                  (.ofSeconds (numberOf given .backoffMax 60)) }
            endpoints :=
              { volume := (given.lookup .volumeEndpoint).getD endpoints.volume
                network := (given.lookup .networkEndpoint).getD endpoints.network
                compute := (given.lookup .computeEndpoint).getD endpoints.compute }
            deployment := (given.lookup .deployment).getD defaultInstance } }
  | _, _ => .error .missingRequiredArgument

/-- Reads the arguments after the program's name, and the environment (`Args::parse`). -/
def parse (args : List String) (environment : List (String × String)) : Except Stop Arguments := do
  let reading ← args.foldlM Reading.step {}
  let reading ← reading.settle
  let given ← Flag.all.foldlM (takeVariable environment) reading.given
  arguments given

end CloudKeeper.CommandLine
