import CloudKeeper.CommandLine
import CloudKeeper.Credentials
import CloudKeeper.Kind.Family
import CloudKeeper.Manifest.Feeder
import CloudKeeper.Scheduler
import CloudKeeper.Text.Tamed
/-!
The start of the provider: the directory of the snapshots is made, the credentials are checked, and the
stores of all kinds are opened one after another. The first step that fails ends the start.
-/
namespace CloudKeeper

/-- Why the provider does not start. -/
inductive StartError
  | readCredentials (path why : String)
  | makeDirectory (path why : String)
  /-- The client that is built first refuses the credentials. -/
  | client (source : ClientError)
  | openStore (kind : String) (source : StoreError)
  deriving DecidableEq, Repr

namespace StartError

/-- The step that failed. -/
def context : StartError → String
  | .readCredentials path _ => "cannot read credentials " ++ path
  | .makeDirectory path _ => "cannot create " ++ path
  | .client _ => "cannot build volume client"
  | .openStore kind _ => "cannot open " ++ kind ++ " store"

/-- Why it failed. -/
def cause : StartError → String
  | .readCredentials _ why => why
  | .makeDirectory _ why => why
  | .client source => source.message
  | .openStore _ source => source.message

/-- The step and the cause in one line. -/
def message (e : StartError) : String := e.context ++ ": " ++ e.cause

/-- A text with all its lines moved to the right. -/
def indent (text : String) : String :=
  let margin : List Char := List.replicate 4 ' '
  String.ofList (margin ++ text.toList.flatMap fun c => if c = '\n' then '\n' :: margin else [c])

/-- What the program writes before it gives up. -/
def report (e : StartError) : String :=
  "Error: " ++ e.context ++ "\n\nCaused by:\n" ++ indent e.cause

end StartError

namespace Provider

/-- The store of a kind, opened from what stands at its paths, as in `launch`. -/
def openStore {S : Type} [Spec S] (config : Config) (at_ : String → Contents) (kind : String) :
    Except StartError (Store S) :=
  let file : Snapshot := { path := config.storePath kind, target := at_ (config.storePath kind) }
  (Store.ofSnapshot? { file with temporary := at_ file.temporaryPath }).mapError (.openStore kind)

/-- The stores of all kinds (`Provider::start`), given how the making of the directory went, the octets of the
credentials, and what stands at every path. -/
def openStores (config : Config) (directory : Except String Unit) (credentials : List UInt8)
    (at_ : String → Contents) : Except StartError (Family Store) := do
  directory.mapError (.makeDirectory config.stateDir)
  let _ ← (Credentials.parse credentials).mapError StartError.client
  let volumes ← openStore config at_ Volume.kindName
  let floatingIps ← openStore config at_ FloatingIp.kindName
  let virtualMachines ← openStore config at_ VirtualMachine.kindName
  return { volumes, floatingIps, virtualMachines }

/-- The base URLs of all kinds. -/
def baseUrls (e : Endpoints) : Family (fun _ => String) := ⟨e.volume, e.network, e.compute⟩

/-- The lines that tell what the program works on, safe for a terminal. -/
def announcement (config : Config) : List String :=
  ["Manifest: " ++ config.manifest, "Volume endpoint: " ++ config.endpoints.volume,
    "Network endpoint: " ++ config.endpoints.network,
    "Compute endpoint: " ++ config.endpoints.compute].map Text.tamed

/-- What a call to the program leads to. -/
inductive Start
  /-- The arguments end the program. -/
  | stopped (stop : CommandLine.Stop)
  /-- The start fails after some lines. -/
  | failed (announced : List String) (error : StartError)
  | running (arguments : CommandLine.Arguments) (stores : Family Store)

/-- The lines that the program has announced. -/
def Start.announced : Start → List String
  | .stopped _ => []
  | .failed lines _ => lines
  | .running arguments _ => announcement arguments.config

/-- The error that ended the program, as it is written. -/
def Start.error : Start → Option String
  | .failed _ e => some e.report
  | _ => none

/-- The exit code; a program that runs exits with zero when it is shut down. -/
def Start.exitCode : Start → Nat
  | .stopped stop => stop.exitCode
  | .failed .. => 1
  | .running .. => 0

/-- Starts the program with its arguments and the environment (`main`), given what reading a file, making a
directory and looking at a path lead to. -/
def start (args : List String) (environment : List (String × String))
    (read : String → Except String (List UInt8)) (makeDirectory : String → Except String Unit)
    (at_ : String → Contents) : Start :=
  match CommandLine.parse args environment with
  | .error stop => .stopped stop
  | .ok arguments =>
    match read arguments.credentials with
    | .error why => .failed [] (.readCredentials arguments.credentials why)
    | .ok credentials =>
      let config := arguments.config
      match openStores config (makeDirectory config.stateDir) credentials at_ with
      | .error e => .failed (announcement config) e
      | .ok stores => .running arguments stores

end Provider

end CloudKeeper
