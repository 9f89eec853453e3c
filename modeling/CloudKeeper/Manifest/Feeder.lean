import CloudKeeper.Kind.Family
import CloudKeeper.Manifest.Sync
import CloudKeeper.Time.Instant
/-!
The feeder reads the manifest at an interval and brings the stores of all kinds in line with it. A
manifest that cannot be read changes nothing.
-/
namespace CloudKeeper

open Time (Duration Instant)

/-- How the feeder reaches the stores of all kinds. -/
abbrev Authors (σ : Type) : Type := Family (Author σ)

/-- Authors that act on the parts of a family. -/
def Authors.ofFamily {F : Type → Type} (author : {S : Type} → [Spec S] → Author (F S) S) :
    Authors (Family F) where
  volumes := author.within (·.volumes) fun k x => { k with volumes := x }
  floatingIps := author.within (·.floatingIps) fun k x => { k with floatingIps := x }
  virtualMachines := author.within (·.virtualMachines) fun k x => { k with virtualMachines := x }

namespace Feeder

/-- Brings all stores in line with a manifest. -/
def sync {σ : Type} (authors : Authors σ) (m : Manifest) (s : σ) : σ :=
  let s := (Sync.run authors.volumes Volume.kindName m.volumes s).1
  let s := (Sync.run authors.floatingIps FloatingIp.kindName m.floatingIps s).1
  (Sync.run authors.virtualMachines VirtualMachine.kindName m.virtualMachines s).1

/-- Reads the manifest once and brings all stores in line with it (`ManifestFeeder::sync_once`). -/
def syncOnce {σ : Type} (authors : Authors σ) (path : String) (file : Except String (List UInt8))
    (s : σ) : σ × Except ManifestError Unit :=
  match Manifest.load path file with
  | .ok m => (sync authors m s, .ok ())
  | .error e => (s, .error e)

/-- A clock that ticks at an interval, the first time at once, as in `ManifestFeeder::run`. -/
structure Ticker where
  period : Duration
  due : Instant
  deriving DecidableEq, Repr

/-- The lateness up to which a tick does not move the ones after it: five milliseconds. -/
def tolerance : Nat := 5000000

/-- The ticker after a tick. After one that comes late a full period passes before the next. -/
def Ticker.tick (t : Ticker) (now : Instant) : Ticker :=
  let from_ := if t.due.nanos + tolerance < now.nanos then now else t.due
  { t with due := from_.timerDue t.period }

end Feeder

end CloudKeeper
