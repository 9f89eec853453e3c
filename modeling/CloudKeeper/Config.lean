import CloudKeeper.Backoff
import CloudKeeper.Text.Path
/-!
The configuration of a scheduler and of the whole provider.
-/
namespace CloudKeeper

open Time (Duration)

/-- How one kind is scheduled: the interval between cycles of a healthy object, the number of objects
that are reconciled at one time, and the backoff of failed cycles. -/
structure SchedulerConfig where
  pollInterval : Duration := .ofSeconds 60
  concurrency : UInt64 := 10
  backoff : Backoff := .standard
  deriving DecidableEq, Repr

/-- The base URLs of the three services. -/
structure Endpoints where
  volume : String := "http://volume.ucan.ustack.com"
  network : String := "http://zed-network-apiserver.ucan-system.svc.cluster.local:8088"
  compute : String := "http://virtualmachine.ucan.ustack.com"
  deriving DecidableEq, Repr

/-- All services behind one base URL (`Endpoints::single`). -/
def Endpoints.single (url : String) : Endpoints := ⟨url, url, url⟩

/-- The name of a deployment that has none of its own (`DEFAULT_INSTANCE`). -/
def defaultInstance : String := "default"

/-- The configuration of the provider (`ProviderConfig`). -/
structure Config where
  manifest : String
  stateDir : String
  manifestInterval : Duration := .ofSeconds 10
  requestTimeout : Duration := .ofSeconds 30
  scheduler : SchedulerConfig := {}
  endpoints : Endpoints := {}
  /-- Tells deployments in one project apart. -/
  deployment : String := defaultInstance
  deriving DecidableEq, Repr

/-- The snapshot file of a kind's store (`ProviderConfig::store_path`). -/
def Config.storePath (c : Config) (kind : String) : String :=
  Text.Path.join c.stateDir (kind ++ ".json")

end CloudKeeper
