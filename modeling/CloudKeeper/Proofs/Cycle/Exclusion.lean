import CloudKeeper.Proofs.Cycle.Run
import CloudKeeper.Proofs.Locks
import CloudKeeper.Proofs.Store.Effect
import CloudKeeper.Time.Epoch
/-!
Calls for cycles side by side, any number of them for any keys. Each fetches the lock of its key, asks for it,
runs its cycle when it has it, evicts the lock if there is no object any more, gives the lock on and drops it.
Every one of these steps is taken on its own, so other calls arrive, wait and run between any two of them.
-/
namespace CloudKeeper

variable {S : Type}

/-- Calls of `Reconciler::reconcile` side by side: the engine they share, the locks, the calls in the order in
which they have come, and what is left of the cycle of each. -/
structure Traffic (S : Type) where
  engine : Engine S := {}
  locks : Locks := {}
  visits : List Visit := []
  cycles : Nat → Cycle S CycleResult

/-- What each remote call is replied to, whichever is made. -/
structure Replies where
  observe : Option (Except ClientError Observation)
  create : Option (Except ClientError String)
  update : Option (Except ClientError Unit)
  delete : Option (Except ClientError Unit)
  lookup : Option (Except ClientError (Option String))

/-- The reply to a call. -/
def Replies.to (r : Replies) : (call : RemoteCall S) → call.Reply
  | .observe .. => r.observe
  | .create .. => r.create
  | .update .. => r.update
  | .delete .. => r.delete
  | .lookup .. => r.lookup

/-- A step of an author or of the call of a number. -/
inductive Pace (S : Type)
  | author (operation : StoreCall S) (write : WriteOutcome)
  /-- A call for a cycle of a key comes, and fetches the lock. -/
  | arrive (key : Key)
  | ask (i : Nat)
  /-- The call has got the lock and begins its cycle. -/
  | enter (i : Nat)
  /-- The next action of the cycle, and how it turns out, whichever it is. -/
  | act (i : Nat) (c : Action S → Circumstances)
  /-- A remote call of the cycle is answered, or given up. -/
  | answer (i : Nat) (replies : Replies)
  /-- The cycle is over, and the lock is evicted if there is no object any more. -/
  | evict (i : Nat)
  | release (i : Nat)
  | leave (i : Nat)

/-- Whether a result means that there is no object any more. -/
def leavesNone : CycleResult → Bool
  | .ok .deleted | .ok .gone => true
  | _ => false

namespace Traffic

/-- The calls with one at another place. -/
def move (t : Traffic S) (i : Nat) (v : Visit) (place : Place) : Traffic S :=
  { t with visits := t.visits.set i { v with place } }

/-- The calls with the cycle of one gone on. -/
def goOn (t : Traffic S) (i : Nat) (cycle : Cycle S CycleResult) : Traffic S :=
  { t with cycles := fun j => if j = i then cycle else t.cycles j }

/-- The calls before any has come. -/
def start (kind : Kind S) (engine : Engine S) : Traffic S := { engine, cycles := fun _ => reconcile kind }

variable [Spec S]

/-- The calls after a step; one that does not fit changes nothing. -/
def step (t : Traffic S) : Pace S → Traffic S
  | .author operation write =>
    { t with engine := { t.engine with store := (operation.perform t.engine.store write).1 } }
  | .arrive key =>
    let (locks, lock) := t.locks.fetch t.visits.length key
    { t with locks, visits := t.visits ++ [⟨key, lock, .arrived⟩] }
  | .ask i =>
    match t.visits[i]? with
    | some v =>
      if v.place = .arrived then { t with locks := t.locks.request i v.lock }.move i v .asking else t
    | none => t
  | .enter i =>
    match t.visits[i]? with
    | some v => if v.place = .asking ∧ t.locks.holds i v.lock then t.move i v .inside else t
    | none => t
  | .act i c =>
    match t.visits[i]?, t.cycles i with
    | some v, .step action next =>
      if v.place = .inside then
        let (engine, reply) := t.engine.perform (c action) v.key action
        { t with engine }.goOn i (next reply)
      else t
    | _, _ => t
  | .answer i replies =>
    match t.visits[i]?, t.cycles i with
    | some v, .call call next => if v.place = .inside then t.goOn i (next (replies.to call)) else t
    | _, _ => t
  | .evict i =>
    match t.visits[i]?, t.cycles i with
    | some v, .done result =>
      if v.place = .inside then
        let locks := if leavesNone result then t.locks.evict i v.key v.lock else t.locks
        { t with locks }.move i v .leaving
      else t
    | _, _ => t
  | .release i =>
    match t.visits[i]? with
    | some v =>
      if v.place = .leaving then { t with locks := t.locks.release v.lock }.move i v .released else t
    | none => t
  | .leave i =>
    match t.visits[i]? with
    | some v =>
      if v.place = .released then { t with locks := t.locks.leave i v.lock }.move i v .gone else t
    | none => t

/-- The calls after a run of steps. -/
def run (t : Traffic S) (paces : List (Pace S)) : Traffic S :=
  paces.foldl step t

end Traffic

namespace Traffic

/-- A call is between getting the lock and the end of its cycle. -/
structure Engaged (t : Traffic S) (i : Nat) (v : Visit) : Prop where
  found : t.visits[i]? = some v
  within : v.place = .inside ∨ v.place = .asking ∧ t.locks.holds i v.lock = true

/-- A call waits for its lock. -/
structure Waits (t : Traffic S) (i : Nat) (v : Visit) : Prop where
  found : t.visits[i]? = some v
  asking : v.place = .asking
  without : t.locks.holds i v.lock = false

variable {t : Traffic S} {i j : Nat} {v w : Visit}

private theorem holds_iff {l : Locks} {n : Nat} : l.holds i n = true ↔ (l.get n).holder = some i :=
  beq_iff_eq

/-- Calls of one key are not engaged at the same time. -/
theorem engaged_unique (serves : t.locks.Serves t.visits) (engaged : t.Engaged i v) (also : t.Engaged j w)
    (same : v.key = w.key) : i = j := by
  have holder : ∀ {i v}, t.Engaged i v → (t.locks.get v.lock).holder = some i := by
    rintro i v ⟨found, inside | ⟨-, holds⟩⟩
    · exact (serves.orderly v.lock).holder found inside
    · exact holds_iff.1 holds
  have pending : ∀ {i v}, t.Engaged i v → v.place.pending = true := by
    rintro i v ⟨-, inside | ⟨asking, -⟩⟩
    · rw [inside]
      rfl
    · rw [asking]
      rfl
  have lock := serves.one_lock engaged.found also.found same (pending engaged) (pending also)
  exact Option.some.inj ((holder engaged).symm.trans (lock ▸ holder also))

/-- A call that waits has another of its key before it, and all that are before it are of its key. -/
theorem waits_for_key (serves : t.locks.Serves t.visits) (waits : t.Waits i v) :
    (∃ j w, j ≠ i ∧ t.visits[j]? = some w ∧ w.key = v.key ∧ t.locks.holds j v.lock = true) ∧
      ∀ j ∈ (t.locks.get v.lock).line, ∃ w, t.visits[j]? = some w ∧ w.key = v.key := by
  have orderly := serves.orderly v.lock
  have queued : ∀ j ∈ (t.locks.get v.lock).line, ∃ w, t.visits[j]? = some w ∧ w.key = v.key := by
    intro j member
    obtain ⟨w, found, lock, -⟩ := (orderly.mem_line j).1 member
    exact ⟨w, found, serves.one_key found waits.found lock⟩
  have member : i ∈ (t.locks.get v.lock).line := by
    rw [orderly.mem_line, Visit.at_self waits.found, waits.asking]
    rfl
  refine ⟨?_, queued⟩
  cases holder : (t.locks.get v.lock).holder with
  | none =>
    rw [KeyLock.line, holder, orderly.free holder] at member
    cases member
  | some j =>
    have first : j ∈ (t.locks.get v.lock).line := by
      rw [KeyLock.line_of_held holder]
      exact List.mem_cons_self
    obtain ⟨w, found, key⟩ := queued j first
    refine ⟨j, w, ?_, found, key, holds_iff.2 holder⟩
    rintro rfl
    exact Bool.false_ne_true (waits.without.symm.trans (holds_iff.2 holder))

/-- A call gets the lock at once if no other of its key has asked for one and not given it on. -/
theorem ask_undisturbed [Spec S] (serves : t.locks.Serves t.visits) (found : t.visits[i]? = some v)
    (arrived : v.place = .arrived)
    (alone : ∀ (j : Nat) w, t.visits[j]? = some w → w.key = v.key → w.place.queues = false) :
    (t.step (.ask i)).locks.holds i v.lock = true := by
  have orderly := serves.orderly v.lock
  have free : (t.locks.get v.lock).holder = none := by
    cases holder : (t.locks.get v.lock).holder with
    | none => rfl
    | some j =>
      have first : j ∈ (t.locks.get v.lock).line := by
        rw [KeyLock.line_of_held holder]
        exact List.mem_cons_self
      obtain ⟨w, held, lock, queues⟩ := (orderly.mem_line j).1 first
      cases (alone j w held (serves.one_key held found lock)).symm.trans queues
  have steps : (t.step (.ask i)).locks = t.locks.modify v.lock (·.asked i) := by
    simp only [step, found, arrived, if_true]
    rfl
  rw [holds_iff, steps, Locks.get_modify (serves.fetched i v found), if_pos rfl,
    KeyLock.asked_holder orderly.free, free]
  rfl

variable [Spec S]

/-- Every step leaves the locks in order. -/
theorem step_serves (serves : t.locks.Serves t.visits) (pace : Pace S) :
    (t.step pace).locks.Serves (t.step pace).visits := by
  cases pace with
  | author operation write => exact serves
  | arrive key => exact serves.fetch key
  | ask i =>
    simp only [step]
    split
    case h_2 => exact serves
    case h_1 v found =>
      split
      case isFalse => exact serves
      case isTrue arrived =>
        exact serves.modify found arrived (·.asked i) ((serves.orderly v.lock).asks found arrived) fun _ => rfl
  | enter i =>
    simp only [step]
    split
    case h_2 => exact serves
    case h_1 v found =>
      split
      case isFalse => exact serves
      case isTrue enters =>
        obtain ⟨asking, holds⟩ := enters
        exact serves.keep found asking rfl rfl (fun _ => holds_iff.1 holds) fun _ => rfl
  | act i c =>
    simp only [step]
    split
    · split <;> exact serves
    · exact serves
  | answer i replies =>
    simp only [step]
    split
    · split <;> exact serves
    · exact serves
  | evict i =>
    simp only [step]
    split
    case h_2 => exact serves
    case h_1 v result found ended =>
      split
      case isFalse => exact serves
      case isTrue inside =>
        cases leavesNone result with
        | true => exact serves.evict found inside
        | false =>
          exact serves.keep found inside rfl rfl (fun _ => (serves.orderly v.lock).holder found inside) nofun
  | release i =>
    simp only [step]
    split
    case h_2 => exact serves
    case h_1 v found =>
      split
      case isFalse => exact serves
      case isTrue leaving =>
        exact serves.modify found leaving KeyLock.given ((serves.orderly v.lock).gives found leaving) nofun
  | leave i =>
    simp only [step]
    split
    case h_2 => exact serves
    case h_1 v found =>
      split
      case isFalse => exact serves
      case isTrue released =>
        exact serves.modify found released (fun lock => { lock with users := lock.users.erase i })
          ((serves.orderly v.lock).drops found released) nofun

theorem run_serves (serves : t.locks.Serves t.visits) (paces : List (Pace S)) :
    (t.run paces).locks.Serves (t.run paces).visits := by
  induction paces generalizing t with
  | nil => exact serves
  | cons pace paces ih => exact ih (step_serves serves pace)

omit [Spec S] in
theorem start_serves (kind : Kind S) (engine : Engine S) :
    (start kind engine).locks.Serves (start kind engine).visits where
  owned := ⟨fun _ => default, nofun, nofun⟩
  fetched := nofun
  made := nofun
  orderly _ := ⟨fun _ => rfl, List.nodup_nil, List.nodup_nil, fun _ => ⟨nofun, nofun⟩,
    fun _ => ⟨nofun, nofun⟩, nofun⟩
  tabled := nofun

/-- However many calls there are, for whatever keys, and however their steps and those of authors come one
after the other: two calls of one key are never both between getting the lock and the end of their cycles,
even while the lock is evicted. A call waits only for calls of its own key, one of which has the lock; and one
that asks while no other of its key has asked and not given the lock on has it at once. -/
theorem cycles_never_overlap (kind : Kind S) (engine : Engine S) (paces : List (Pace S)) :
    let t := (start kind engine).run paces
    (∀ i j v w, t.Engaged i v → t.Engaged j w → v.key = w.key → i = j) ∧
    (∀ i v, t.Waits i v →
      (∃ j w, j ≠ i ∧ t.visits[j]? = some w ∧ w.key = v.key ∧ t.locks.holds j v.lock = true) ∧
        ∀ j ∈ (t.locks.get v.lock).line, ∃ w, t.visits[j]? = some w ∧ w.key = v.key) ∧
    ∀ (i : Nat) v, t.visits[i]? = some v → v.place = .arrived →
      (∀ (j : Nat) w, t.visits[j]? = some w → w.key = v.key → w.place.queues = false) →
        (t.step (.ask i)).locks.holds i v.lock = true := by
  intro t
  have serves : t.locks.Serves t.visits := run_serves (start_serves kind engine) paces
  refine ⟨fun i j v w => engaged_unique serves, fun i v => waits_for_key serves, ?_⟩
  intro i v found arrived
  exact ask_undisturbed serves found arrived

section Volume

/-- A volume that is not there. -/
private def missing : Key := ⟨"volume", "data"⟩

/-- What is known of its kind does not matter. -/
private def anyKind : Kind Json.Value :=
  { name := "volume", readiness := fun _ => .ready, isUpToDate := fun _ _ => true }

/-- The cycle of the volume, which finds that it is not there, and the eviction of the lock. -/
private def attempt (i : Nat) : List (Pace Json.Value) :=
  [.enter i, .act i fun _ => ⟨.epoch, .written, none⟩, .evict i]

/-- A third call comes while the first, which would evict the lock, gives it on to the second. -/
private def crossing : List (Pace Json.Value) :=
  [.arrive missing, .arrive missing, .ask 0, .ask 1] ++ attempt 0 ++
    [.arrive missing, .release 0, .ask 2, .leave 0, .enter 1]

/-- The second runs its cycle, the third waits for it, and the third cannot be in its cycle at the same time. -/
theorem cycles_never_overlap_volume :
    let t := (start anyKind {}).run crossing
    t.Engaged 1 ⟨missing, 0, .inside⟩ ∧ t.Waits 2 ⟨missing, 0, .asking⟩ ∧
      (∀ v, t.Engaged 2 v → v.key ≠ missing) ∧
      ∃ j w, j ≠ 2 ∧ t.visits[j]? = some w ∧ w.key = missing ∧ t.locks.holds j 0 = true := by
  intro t
  have engaged : t.Engaged 1 ⟨missing, 0, .inside⟩ := ⟨rfl, .inl rfl⟩
  have waits : t.Waits 2 ⟨missing, 0, .asking⟩ := ⟨rfl, rfl, by decide⟩
  obtain ⟨alone, queued, -⟩ := cycles_never_overlap anyKind {} crossing
  refine ⟨engaged, waits, fun v also same => ?_, (queued 2 _ waits).1⟩
  cases alone 1 2 _ v engaged also same.symm

/-- The first does not evict the lock that the second waits for; the second does, and a call that comes then
makes a new one. -/
example :
    let t := (start anyKind {}).run <|
      [.arrive missing, .arrive missing, .ask 0, .ask 1] ++ attempt 0 ++ [.release 0, .leave 0] ++ attempt 1 ++
        [.arrive missing]
    t.visits.map (fun v => (v.lock, v.place)) = [(0, .gone), (0, .leaving), (1, .arrived)] := by
  decide

end Volume

end Traffic

end CloudKeeper
