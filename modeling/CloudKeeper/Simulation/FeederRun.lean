import CloudKeeper.Manifest.Feeder
import CloudKeeper.Simulation.World
/-!
A feeder under test, in virtual time: the manifest file, the stores that it feeds, and its ticker while
its loop runs.
-/
namespace CloudKeeper.Simulation

open Time (Duration Instant)

/-- A feeder with the state that its authors act on. -/
structure Feeding (σ : Type) where
  path : String
  /-- What is read at the path, or why nothing can be read there. -/
  file : Except String (List UInt8)
  interval : Duration
  ticker : Option Feeder.Ticker := none
  state : σ

namespace Feeding

variable {σ : Type}

/-- Reads the manifest. -/
def load (f : Feeding σ) : Except ManifestError Manifest := Manifest.load f.path f.file

/-- Reads the manifest and feeds the stores. -/
def syncOnce (authors : Authors σ) (f : Feeding σ) : Feeding σ × Except ManifestError Unit :=
  let (state, result) := Feeder.syncOnce authors f.path f.file f.state
  ({ f with state }, result)

/-- Starts the loop. Its first tick is due at once. -/
def start (now : Instant) (f : Feeding σ) : Feeding σ :=
  { f with ticker := some ⟨f.interval, now⟩ }

/-- Stops the loop. -/
def stop (f : Feeding σ) : Feeding σ := { f with ticker := none }

/-- Feeds the stores if a tick is due. -/
def tick (authors : Authors σ) (now : Instant) (f : Feeding σ) : Feeding σ :=
  match f.ticker with
  | none => f
  | some t =>
    if t.due.due now then { (f.syncOnce authors).1 with ticker := some (t.tick now) } else f

/-- When the next tick is due. -/
def nextDue (f : Feeding σ) : Option Instant := f.ticker.map (·.due)

end Feeding

/-- A feeder of stores in memory, and the clock. -/
structure FeederRun where
  feeding : Feeding (Family World)
  clock : Instant := .zero

namespace FeederRun

/-- The authors of the stores. -/
def authors : Authors (Family World) := .ofFamily World.author

/-- Moves the clock to a point in time, from tick to tick. -/
def runUntil (goal : Instant) : Nat → FeederRun → FeederRun
  | 0, r => { r with clock := goal }
  | fuel + 1, r =>
    match r.feeding.nextDue with
    | some due =>
      if due.due goal then
        let clock := if r.clock.before due then due else r.clock
        runUntil goal fuel ⟨r.feeding.tick authors clock, clock⟩
      else { r with clock := goal }
    | none => { r with clock := goal }

/-- Lets some milliseconds pass. -/
def sleep (r : FeederRun) (ms : Nat) : FeederRun :=
  r.runUntil (r.clock.plusMillis ms) (ms * 1000000 / max r.feeding.interval.toNanos 1 + 2)

end FeederRun

end CloudKeeper.Simulation
