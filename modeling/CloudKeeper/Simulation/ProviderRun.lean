import CloudKeeper.Provider
import CloudKeeper.Simulation.FeederRun
import CloudKeeper.Simulation.Files
import CloudKeeper.Simulation.SchedulerRun
/-!
The provider under test, in virtual time: a scheduler for each kind over file-backed stores, and the
feeder of all three. The clock moves only when it is told to; whatever was due in between happens then,
once.
-/
namespace CloudKeeper.Simulation

open Time (Instant Timestamp)

/-- A provider at work: its configuration, the credentials it was started with, and its feeder with the
schedulers that it feeds. -/
structure ProviderRun where
  config : Config
  credentials : List UInt8
  feeding : Feeding (Family SchedulerRun)

namespace ProviderRun

/-- The scheduler of a kind over an opened store. -/
def scheduler {S : Type} [Spec S] (config : Config) (clock : Instant) (stamp : Timestamp)
    (exchange : Http.Request → Http.Exchange) (service : Service S) (base : String)
    (store : Store S) : SchedulerRun S where
  config := config.scheduler
  bench :=
    { kind := service.toKind
      remote := .ruled fun c => service.outcome base c exchange
      world := { engine := { store }, stamp }
      clock }
  queue := { backoff := config.scheduler.backoff }

/-- The schedulers of all kinds over opened stores. -/
def schedulers (config : Config) (clock : Instant) (stamp : Timestamp)
    (exchange : Http.Request → Http.Exchange) (stores : Family Store) : Family SchedulerRun :=
  let all := services config.deployment
  let bases := Provider.baseUrls config.endpoints
  let make {S : Type} [Spec S] := scheduler (S := S) config clock stamp exchange
  { volumes := make all.volumes bases.volumes stores.volumes
    floatingIps := make all.floatingIps bases.floatingIps stores.floatingIps
    virtualMachines := make all.virtualMachines bases.virtualMachines stores.virtualMachines }

/-- The authors that feed the stores. -/
def authors : Authors (Family SchedulerRun) :=
  .ofFamily <| World.author.within (·.bench.world) fun r w => { r with bench := { r.bench with world := w } }

/-- The present time. -/
def clock (r : ProviderRun) : Instant := r.feeding.state.volumes.clock

/-- Starts a provider on some files. -/
def start? (config : Config) (credentials : List UInt8) (files : Files) (stamp : Timestamp)
    (exchange : Http.Request → Http.Exchange) : Except StartError ProviderRun := do
  let stores ← Provider.openStores config (files.makeDirectory config.stateDir) credentials
    files.contents
  let feeding : Feeding (Family SchedulerRun) :=
    { path := config.manifest
      file := files.read config.manifest
      interval := config.manifestInterval
      state := schedulers config .zero stamp exchange stores }
  return ⟨config, credentials, feeding.start .zero⟩

/-- Lets the schedulers do all that is due. -/
def settleSchedulers (r : ProviderRun) : ProviderRun :=
  let settled {S : Type} [Spec S] (s : SchedulerRun S) : SchedulerRun S := s.pause
  { r with feeding := { r.feeding with state := r.feeding.state.map settled } }

/-- Lets everything happen that is due. -/
def settle (r : ProviderRun) : ProviderRun :=
  let r := r.settleSchedulers
  { r with feeding := r.feeding.tick authors r.clock : ProviderRun }.settleSchedulers

/-- Moves the clock, and then lets everything happen that has become due. -/
def advance (r : ProviderRun) (ms : Nat) : ProviderRun :=
  let goal := r.clock.plusMillis ms
  let moved {S : Type} [Spec S] (s : SchedulerRun S) : SchedulerRun S :=
    { s with bench := s.bench.moveTo goal }
  { r with feeding := { r.feeding with state := r.feeding.state.map moved } : ProviderRun }.settle

/-- The stores of all kinds. -/
def stores (r : ProviderRun) : Family Store :=
  let stored {S : Type} [Spec S] (s : SchedulerRun S) : Store S := s.bench.world.store
  r.feeding.state.map stored

/-- What stands at a path of the stores' files. -/
def contents (r : ProviderRun) (path : String) : Contents :=
  let at_ (file : Snapshot) : Option Contents :=
    if file.path = path then some file.target
    else if file.temporaryPath = path then some file.temporary
    else none
  let file {S : Type} [Spec S] (s : Store S) : Option Snapshot := s.snapshot
  ((r.stores.named file).findSome? fun entry => entry.2.bind at_).getD .missing

/-- Shuts the provider down and starts it again on the files that it left. -/
def restart (r : ProviderRun) (stamp : Timestamp) (exchange : Http.Request → Http.Exchange) :
    Except StartError ProviderRun := do
  let stores ← Provider.openStores r.config (.ok ()) r.credentials r.contents
  let state := schedulers r.config r.clock stamp exchange stores
  return { r with feeding := { r.feeding with state }.start r.clock }

end ProviderRun

end CloudKeeper.Simulation
