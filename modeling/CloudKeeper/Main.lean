import CloudKeeper.Live.Site
import CloudKeeper.Provider
import Std.Async.Signal
/-!
The program: it reads its arguments, opens the stores, and schedules all kinds until it is interrupted.
-/
namespace CloudKeeper.Main

open CommandLine (Flag)
open Live

/-- The variables of the environment that stand in for options. -/
def readEnvironment : IO (List (String × String)) := do
  let found ← (Flag.all.filterMap Flag.variableName?).mapM fun name =>
    return (← IO.getEnv name).map fun value => (name, value)
  return found.filterMap id

/-- The lines that help with the options. -/
def help : List String :=
  "Usage: ucan-provider --manifest <MANIFEST> --credentials <CREDENTIALS> [OPTIONS]"
    :: "" :: "Options:" :: Flag.all.map fun flag => "      --" ++ flag.name ++ " <VALUE>"

/-- What is written when the arguments end the program. -/
def explain : CommandLine.Stop → IO Unit
  | .displayHelp => help.forM IO.println
  | .displayVersion => IO.println "ucan-provider 0.1.0"
  | .missingRequiredArgument => IO.eprintln "error: a required argument is missing"
  | .unknownArgument => IO.eprintln "error: unexpected argument found"
  | .argumentConflict => IO.eprintln "error: an argument cannot be used multiple times"
  | .invalidValue | .valueValidation | .tooManyValues => IO.eprintln "error: invalid value"

/-- Starts the program. What reading, making a directory and looking at a path lead to is found out
first, each only if it is needed. -/
def start (args : List String) : IO Provider.Start := do
  let environment ← readEnvironment
  match CommandLine.parse args environment with
  | .error stop => return .stopped stop
  | .ok arguments =>
    let credentials ← read arguments.credentials
    let directory ← match credentials with
      | .ok _ => makeDirectory arguments.config.stateDir
      | .error why => pure (.error why)
    let files := [Volume.kindName, FloatingIp.kindName, VirtualMachine.kindName].map fun kind =>
      arguments.config.storePath kind
    let found ← files.mapM fun path => return (path, ← contents path)
    return Provider.start args environment (fun _ => credentials) (fun _ => directory)
      fun path => (found.lookup path).getD .missing

/-- Reads the manifest at its interval, and declares what it lists (`ManifestFeeder::run`). -/
partial def feed (config : Config) (stop : Std.CancellationToken) (sites : Family Site)
    (ticker : Feeder.Ticker) : IO Unit := do
  if ← stop.isCancelled then return
  let now ← instant
  if ticker.due.due now then
    match Manifest.load config.manifest (← read config.manifest) with
    | .error e => IO.eprintln ("Skipping manifest: " ++ e.message)
    | .ok m =>
      let _ ← sites.volumes.declare m.volumes
      let _ ← sites.floatingIps.declare m.floatingIps
      let _ ← sites.virtualMachines.declare m.virtualMachines
    feed config stop sites (ticker.tick now)
  else
    IO.sleep 20
    feed config stop sites ticker

/-- Runs the provider until it is interrupted, and then until nothing runs any more. -/
def serve (config : Config) (stores : Family Store) : IO Unit := do
  let interrupt ← Std.Async.Signal.Waiter.mk .sigint false
  let waiting ← interrupt.wait
  let stop ← Std.CancellationToken.new
  let all := services config.deployment
  let bases := Provider.baseUrls config.endpoints
  let volumes ← Site.open_ all.volumes bases.volumes config stop stores.volumes
  let floatingIps ← Site.open_ all.floatingIps bases.floatingIps config stop stores.floatingIps
  let virtualMachines ←
    Site.open_ all.virtualMachines bases.virtualMachines config stop stores.virtualMachines
  let ticker : Feeder.Ticker := ⟨config.manifestInterval, ← instant⟩
  let loops ← [volumes.serve, floatingIps.serve, virtualMachines.serve,
    feed config stop ⟨volumes, floatingIps, virtualMachines⟩ ticker].mapM fun loop =>
      IO.asTask loop .dedicated
  let _ ← waiting.block
  stop.cancel
  for loop in loops do
    let _ ← IO.wait loop

end CloudKeeper.Main

/-- Runs the program with its arguments. -/
def main (args : List String) : IO UInt32 := do
  let start ← CloudKeeper.Main.start args
  start.announced.forM IO.println
  (← IO.getStdout).flush
  match start with
  | .stopped stop => CloudKeeper.Main.explain stop
  | .failed _ e => IO.eprintln e.report
  | .running arguments stores => CloudKeeper.Main.serve arguments.config stores
  return start.exitCode.toUInt32
