import CloudKeeper.Proofs.Scheduler.Window
/-!
A key is tried again when it is due. The failures of a key and the numbers of its timers are counted
beside a queue in use. Numbers that are not used twice tell the timers of a key apart, so a backoff
window is ended by its own timer only; and until that timer fires it stays set, so the key is queued
again when it has fired.
-/
namespace CloudKeeper

open Time (Duration Instant)

namespace WorkQueue

variable {q : WorkQueue} {key : Key} {entry : QueueEntry}

theorem oneMore_toNat (failures : UInt32) :
    (oneMore failures).toNat = min (failures.toNat + 1) (UInt32.size - 1) := by
  have bound := failures.toNat_lt
  unfold oneMore
  split
  case isTrue last =>
    rw [last]
    rfl
  case isFalse below =>
    have apart : failures.toNat ≠ 0xFFFFFFFF := fun same => below (UInt32.toNat_inj.1 same)
    rw [UInt32.toNat_add, UInt32.toNat_one, UInt32.size]
    omega

theorem oneMore_ne_zero (failures : UInt32) : oneMore failures ≠ 0 := by
  intro none_
  have counts := oneMore_toNat failures
  rw [none_, UInt32.toNat_zero, UInt32.size] at counts
  omega

theorem triggered_queued (grounded : entry.inFlight = false) : entry.triggered.queued = true := by
  rw [QueueEntry.triggered, if_neg (Bool.eq_false_iff.1 grounded)]

/-- The key waits for a timer of its entry's generation that is due by a moment. -/
structure Awaits (q : WorkQueue) (key : Key) (moment : Nat) : Prop where
  found : q.entries.get? key = some (q.known key)
  idle : (q.known key).queued = false
  grounded : (q.known key).inFlight = false
  timed : ∃ timer ∈ q.timersOf key, timer.generation = (q.known key).generation ∧
    timer.due.nanos ≤ moment

/-- A timer that has been set last, of the entry's generation, is waited for. -/
theorem awaits_of_set {due : Instant} {timers : List QueueTimer}
    (found : q.entries.get? key = some entry) (idle : entry.queued = false)
    (grounded : entry.inFlight = false)
    (set : q.timersOf key = timers ++ [⟨key, entry.generation, due⟩]) : q.Awaits key due.nanos := by
  have known := known_of_found found
  refine ⟨known ▸ found, known ▸ idle, known ▸ grounded, ⟨key, entry.generation, due⟩, ?_, ?_,
    Nat.le_refl _⟩
  · rw [set]
    exact List.mem_append_right _ List.mem_cons_self
  · rw [known]

/-- What is known of a key agrees with the number of its failures and of the generations of its entry,
and the timers that are left of it are of different generations. -/
structure Tallies (q : WorkQueue) (key : Key) (failures generations : Nat) : Prop where
  failures : (q.known key).failures.toNat = min failures (UInt32.size - 1)
  generation : (q.known key).generation.toNat = generations
  numbered : (q.timersOf key).Pairwise fun a b => a.generation < b.generation
  past : ∀ timer ∈ q.timersOf key, timer.generation ≤ (q.known key).generation

namespace Tallies

variable {after : WorkQueue} {failures generations failures' : Nat}

/-- Nothing new is numbered. -/
theorem kept (tallies : q.Tallies key failures generations)
    (failed : (after.known key).failures.toNat = min failures' (UInt32.size - 1))
    (generation : (after.known key).generation = (q.known key).generation)
    (timers : (after.timersOf key).Sublist (q.timersOf key)) :
    after.Tallies key failures' generations where
  failures := failed
  generation := by
    rw [generation]
    exact tallies.generation
  numbered := tallies.numbered.sublist timers
  past timer set := by
    rw [generation]
    exact tallies.past timer (timers.subset set)

/-- A number that follows has not been used. -/
theorem grows (tallies : q.Tallies key failures generations) (few : generations + 1 < UInt64.size) :
    (q.known key).generation < (q.known key).generation + 1 := by
  have was := tallies.generation
  rw [UInt64.size] at few
  rw [UInt64.lt_iff_toNat_lt, UInt64.toNat_add, UInt64.toNat_one]
  omega

/-- The next number is taken, if only to disown the timer before. -/
theorem numbers (tallies : q.Tallies key failures generations) (due : Instant)
    (few : generations + 1 < UInt64.size)
    (failed : (after.known key).failures.toNat = min failures' (UInt32.size - 1))
    (generation : (after.known key).generation = (q.known key).generation + 1)
    (timers : (after.timersOf key).Sublist
      (q.timersOf key ++ [⟨key, (q.known key).generation + 1, due⟩])) :
    after.Tallies key failures' (generations + 1) := by
  have grows := tallies.grows few
  refine ⟨failed, ?_, ?_, fun timer set => ?_⟩
  · have was := tallies.generation
    rw [UInt64.size] at few
    rw [generation, UInt64.toNat_add, UInt64.toNat_one]
    omega
  · refine List.Pairwise.sublist timers (List.pairwise_append.2
      ⟨tallies.numbered, List.pairwise_singleton .., fun old isOld new isNew => ?_⟩)
    cases List.mem_singleton.1 isNew
    exact UInt64.lt_of_le_of_lt (tallies.past old isOld) grows
  · rw [generation]
    rcases List.mem_append.1 (timers.subset set) with old | new
    · exact UInt64.le_of_lt (UInt64.lt_of_le_of_lt (tallies.past timer old) grows)
    · cases List.mem_singleton.1 new
      exact UInt64.le_refl _

theorem oneMore (tallies : q.Tallies key failures generations) :
    (WorkQueue.oneMore (q.known key).failures).toNat = min (failures + 1) (UInt32.size - 1) := by
  have was := tallies.failures
  rw [oneMore_toNat]
  omega

end Tallies

end WorkQueue

namespace Dispatch

variable {d : Dispatch} {key : Key} {moment : Nat}

theorem Sound.isQueued (sound : d.Sound key) (queued : (d.queue.known key).queued = true) :
    d.queue.Queued key := by
  refine ⟨_, WorkQueue.found_of_known fun unknown => ?_, queued, sound.orderly.sent queued⟩
  rw [unknown] at queued
  cases queued

/-- A key that waits for a timer waits on, or is queued. -/
theorem Befalls.awaits {turn : Turn} {after : WorkQueue} (befalls : Befalls d key turn after)
    (awaits : d.queue.Awaits key moment) (unforgotten : turn ≠ .forget key) :
    after.Awaits key moment ∨ (after.known key).queued = true := by
  obtain ⟨found, idle, grounded, timer, set, present, due⟩ := awaits
  have stays : ¬(d.queue.known key).inFlight = true := Bool.eq_false_iff.1 grounded
  cases befalls with
  | nothing _ spares _ =>
    obtain ⟨member, own⟩ := WorkQueue.mem_timersOf.1 set
    have kept : timer ∈ after.timersOf key :=
      WorkQueue.mem_timersOf.2 ⟨spares.timers _ found timer member own present, own⟩
    refine .inl ⟨?_, ?_, ?_, timer, kept, ?_, due⟩ <;> rw [spares.known]
    · rw [spares.entries, found]
    · exact idle
    · exact grounded
    · exact present
  | triggered _ known =>
    rw [known]
    exact .inr (WorkQueue.triggered_queued grounded)
  | handedOut queued => exact absurd queued (Bool.eq_false_iff.1 idle)
  | awakened _ _ _ known =>
    rw [known]
    exact .inr (WorkQueue.triggered_queued grounded)
  | succeeded flies => exact absurd flies stays
  | retried flies => exact absurd flies stays
  | parked flies => exact absurd flies stays
  | overflowed flies => exact absurd flies stays
  | forgotten => exact absurd rfl unforgotten

theorem awaits_run (sound : ∀ key, d.Sound key) (awaits : d.queue.Awaits key moment) {later : List Turn}
    (unforgotten : .forget key ∉ later) : (d.run later).queue.Awaits key moment ∨
      ∃ sooner, sooner <+: later ∧ (d.run sooner).queue.Queued key := by
  induction later generalizing d with
  | nil => exact .inl awaits
  | cons turn rest ih =>
    obtain ⟨other, kept⟩ := not_or.1 (mt List.mem_cons.2 unforgotten)
    have sound' := sound_step sound turn
    rcases (step_befalls sound key turn).awaits awaits (Ne.symm other) with still | queued
    · rcases ih sound' still kept with still | ⟨sooner, within, queued⟩
      · exact .inl still
      · exact .inr ⟨turn :: sooner, List.cons_prefix_cons.2 ⟨rfl, within⟩, queued⟩
    · exact .inr ⟨[turn], ⟨rest, rfl⟩, (sound' key).isQueued queued⟩

/-- Through some turns the key has been queued, if the timers of the key that were due by a moment have all
fired. -/
def QueuedBy (d : Dispatch) (key : Key) (moment : Nat) (turns : List Turn) : Prop :=
  (∀ timer ∈ (d.run turns).queue.timersOf key, moment < timer.due.nanos) →
    ∃ sooner, sooner <+: turns ∧ (d.run sooner).queue.Queued key

theorem queuedBy_of_awaits (sound : ∀ key, d.Sound key) (awaits : d.queue.Awaits key moment)
    {later : List Turn} (unforgotten : .forget key ∉ later) : d.QueuedBy key moment later := by
  intro fired
  rcases awaits_run sound awaits unforgotten with still | queued
  · obtain ⟨timer, set, -, due⟩ := still.timed
    exact absurd (fired timer set) (Nat.not_lt.2 due)
  · exact queued

/-- A failure that is retried leaves its key waiting for the end of the delay. -/
theorem awaits_of_failed (sound : ∀ key, d.Sound key) {class_ : ErrorClass} {delay : Duration}
    (handed : (d.held key).isSome = true)
    (returns : (d.queue.failed d.now key class_).2 = .after delay) :
    (d.step (.failed key class_)).queue.Awaits key (d.now.nanos + delay.toNanos) := by
  obtain ⟨ends, within, -, known, timers⟩ := retried_known sound handed returns
  have reads : ends.nanos = d.now.nanos + delay.toNanos := (Instant.after?_eq_some_iff.1 within).1
  have found : (d.step (.failed key class_)).queue.entries.get? key =
      some ((d.queue.known key).heldBack ends) :=
    known ▸ WorkQueue.found_of_known fun unknown => by cases known.symm.trans unknown
  exact reads ▸ WorkQueue.awaits_of_set found rfl rfl timers

/-- A key that is done is queued at once if it has been triggered meanwhile, and waits for the timer of its
delay otherwise. -/
theorem queued_or_awaits_of_done (sound : ∀ key, d.Sound key) {delay : Duration}
    (handed : (d.held key).isSome = true) (pauses : delay.isZero = false) :
    ((d.step (.done key delay)).queue.known key).queued = true ∨
      (d.step (.done key delay)).queue.Awaits key (d.now.timerDue delay).nanos := by
  obtain ⟨flies, idle⟩ := (sound key).outstanding handed
  have found := WorkQueue.get?_done flies idle d.now delay
  have known := WorkQueue.known_of_found found
  have timers := WorkQueue.timersOf_done flies d.now delay
  rw [queue_of_done handed]
  cases dirty : (d.queue.known key).dirty with
  | true =>
    rw [known, QueueEntry.succeeded, dirty]
    exact .inl rfl
  | false =>
    rw [dirty, pauses, if_neg (by decide)] at timers
    have waits : ((d.queue.known key).succeeded delay).queued = false := by
      rw [QueueEntry.succeeded, dirty, pauses]
      rfl
    exact .inr (WorkQueue.awaits_of_set found waits rfl timers)

/-- After a success the key is queued again when the timer of its delay is due. -/
theorem queuedBy_of_done (sound : ∀ key, d.Sound key) {delay : Duration} {later : List Turn}
    (handed : (d.held key).isSome = true) (pauses : delay.isZero = false)
    (unforgotten : .forget key ∉ later) :
    (d.step (.done key delay)).QueuedBy key (d.now.timerDue delay).nanos later := by
  have sound' := sound_step sound (.done key delay)
  rcases queued_or_awaits_of_done sound handed pauses with queued | awaits
  · intro _
    exact ⟨[], List.nil_prefix, (sound' key).isQueued queued⟩
  · exact queuedBy_of_awaits sound' awaits unforgotten

end Dispatch

/-- A queue in use, with a count of what is reported of one key. -/
structure Ledger where
  dispatch : Dispatch
  /-- The failures of the key since its last success. -/
  failures : Nat := 0
  /-- The numbers that have been given to timers of the key. A report that sets no timer takes a number as
  well, by which the timer before it loses its effect. -/
  generations : Nat := 0

namespace Ledger

open Dispatch (Turn Befalls)

/-- The ledger of a queue that has not been used. -/
def fresh (backoff : Backoff) : Ledger := { dispatch := { queue := { backoff } } }

/-- The ledger after one turn. -/
def step (key : Key) (l : Ledger) (turn : Turn) : Ledger :=
  let dispatch := l.dispatch.step turn
  if turn.reported? = some key ∧ (l.dispatch.held key).isSome = true then
    match turn with
    | .failed _ class_ =>
      let overflows := (l.dispatch.queue.failed l.dispatch.now key class_).2 = .overflow
      { dispatch, failures := l.failures + 1
        generations := if overflows then l.generations else l.generations + 1 }
    | _ => { dispatch, failures := 0, generations := l.generations + 1 }
  else { l with dispatch }

/-- The ledger after a number of turns. -/
def run (key : Key) (l : Ledger) (turns : List Turn) : Ledger := turns.foldl (step key) l

variable {l : Ledger} {key : Key}

theorem step_dispatch (key : Key) (l : Ledger) (turn : Turn) :
    (l.step key turn).dispatch = l.dispatch.step turn := by
  simp only [step]
  split
  · split <;> rfl
  · rfl

theorem run_dispatch (key : Key) (l : Ledger) (turns : List Turn) :
    (l.run key turns).dispatch = l.dispatch.run turns := by
  induction turns generalizing l with
  | nil => rfl
  | cons turn rest ih =>
    refine (ih (l.step key turn)).trans ?_
    rw [step_dispatch]
    rfl

theorem run_append (key : Key) (l : Ledger) (before after : List Turn) :
    l.run key (before ++ after) = (l.run key before).run key after :=
  List.foldl_append

theorem generations_le_step (key : Key) (l : Ledger) (turn : Turn) :
    l.generations ≤ (l.step key turn).generations := by
  simp only [step]
  split
  · split
    · dsimp only
      split <;> omega
    · exact Nat.le_succ _
  · exact Nat.le_refl _

theorem generations_le_run (key : Key) (l : Ledger) (turns : List Turn) :
    l.generations ≤ (l.run key turns).generations := by
  induction turns generalizing l with
  | nil => exact Nat.le_refl _
  | cons turn rest ih => exact Nat.le_trans (l.generations_le_step key turn) (ih (l.step key turn))

/-- The ledger agrees with what the queue knows of its key. -/
def Balanced (l : Ledger) (key : Key) : Prop :=
  l.dispatch.queue.Tallies key l.failures l.generations

theorem step_unreported (turn : Turn)
    (unreported : l.dispatch.held key = none ∨ turn.reported? ≠ some key) :
    l.step key turn = { l with dispatch := l.dispatch.step turn } := by
  refine if_neg fun reported => ?_
  rcases unreported with unheld | other
  · rw [unheld] at reported
    cases reported.2
  · exact other reported.1

theorem step_done (handed : (l.dispatch.held key).isSome = true) (delay : Duration) :
    l.step key (.done key delay) =
      { dispatch := l.dispatch.step (.done key delay), generations := l.generations + 1 } :=
  if_pos ⟨rfl, handed⟩

theorem step_failed (handed : (l.dispatch.held key).isSome = true) (class_ : ErrorClass) :
    l.step key (.failed key class_) =
      { dispatch := l.dispatch.step (.failed key class_), failures := l.failures + 1
        generations := if (l.dispatch.queue.failed l.dispatch.now key class_).2 = .overflow
          then l.generations else l.generations + 1 } :=
  if_pos ⟨rfl, handed⟩

/-- What befalls the key is entered. -/
theorem Balanced.befalls {turn : Turn} {after : WorkQueue} (sound : l.dispatch.Sound key)
    (balanced : l.Balanced key) (befalls : Befalls l.dispatch key turn after)
    (unforgotten : turn ≠ .forget key) (few : (l.step key turn).generations < UInt64.size) :
    after.Tallies key (l.step key turn).failures (l.step key turn).generations := by
  have failed := balanced.failures
  have failsAgain := balanced.oneMore
  cases befalls with
  | nothing unreported spares timers =>
    rw [step_unreported turn unreported]
    refine balanced.kept ?_ ?_ timers <;> rw [spares.known]
    exact failed
  | triggered _ known timers =>
    rw [step_unreported (.add key) (.inr (Option.some_ne_none key).symm)]
    refine balanced.kept ?_ ?_ (timers ▸ List.Sublist.refl _) <;> rw [known, QueueEntry.triggered]
    · split <;> exact failed
    · split <;> rfl
  | handedOut _ known timers =>
    rw [step_unreported .next (.inr (Option.some_ne_none key).symm)]
    refine balanced.kept ?_ ?_ (timers ▸ List.Sublist.refl _) <;> rw [known]
    exact failed
  | awakened _ _ _ known timers =>
    rw [step_unreported (.fire _) (.inr (Option.some_ne_none key).symm)]
    refine balanced.kept ?_ ?_ (timers ▸ List.erase_sublist) <;> rw [known, QueueEntry.triggered]
    · split <;> exact failed
    · split <;> rfl
  | @succeeded delay _ flies known timers =>
    rw [step_done (sound.handed ▸ flies)] at few ⊢
    refine balanced.numbers (l.dispatch.now.timerDue delay) few ?_ ?_ ?_
    · rw [known]
      rfl
    · rw [known]
      rfl
    · rw [timers]
      refine List.Sublist.append_left ?_ _
      split
      · exact List.nil_sublist _
      · exact List.Sublist.refl _
  | @retried _ _ ends _ flies _ _ returns known timers =>
    rw [step_failed (sound.handed ▸ flies), returns, if_neg (by simp)] at few ⊢
    refine balanced.numbers ends few ?_ ?_ (timers ▸ List.Sublist.refl _) <;> rw [known]
    · exact failsAgain
    · rfl
  | parked flies returns known timers =>
    rw [step_failed (sound.handed ▸ flies), returns, if_neg (by simp)] at few ⊢
    refine balanced.numbers .zero few ?_ ?_ (timers ▸ List.sublist_append_left ..) <;> rw [known]
    · exact failsAgain
    · rfl
  | overflowed flies returns known timers =>
    rw [step_failed (sound.handed ▸ flies), returns, if_pos rfl] at few ⊢
    refine balanced.kept ?_ ?_ (timers ▸ List.Sublist.refl _) <;> rw [known]
    · exact failsAgain
    · rfl
  | forgotten => exact absurd rfl unforgotten

theorem Balanced.step (sound : ∀ key, l.dispatch.Sound key) (balanced : l.Balanced key) {turn : Turn}
    (unforgotten : turn ≠ .forget key) (few : (l.step key turn).generations < UInt64.size) :
    (l.step key turn).Balanced key := by
  have entered := balanced.befalls (sound key) (Dispatch.step_befalls sound key turn) unforgotten few
  rw [Balanced, step_dispatch]
  exact entered

theorem Balanced.run (sound : ∀ key, l.dispatch.Sound key) (balanced : l.Balanced key)
    {turns : List Turn} (unforgotten : .forget key ∉ turns)
    (few : (l.run key turns).generations < UInt64.size) : (l.run key turns).Balanced key := by
  induction turns generalizing l with
  | nil => exact balanced
  | cons turn rest ih =>
    obtain ⟨other, kept⟩ := not_or.1 (mt List.mem_cons.2 unforgotten)
    have fewer := Nat.lt_of_le_of_lt ((l.step key turn).generations_le_run key rest) few
    have sound' : ∀ other, (l.step key turn).dispatch.Sound other := by
      rw [step_dispatch]
      exact Dispatch.sound_step sound turn
    exact ih sound' (balanced.step sound (Ne.symm other) fewer) kept few

theorem balanced_fresh (backoff : Backoff) (key : Key) : (fresh backoff).Balanced key where
  failures := rfl
  generation := rfl
  numbered := .nil
  past := nofun

/-- The timer can still have an effect: after some turns that do not forget its key, nor use up the
numbers, it does more when it fires than to be gone. -/
def CanAct (l : Ledger) (key : Key) (timer : QueueTimer) : Prop :=
  ∃ later, .forget key ∉ later ∧ (l.run key later).generations < UInt64.size ∧
    let q := (l.run key later).dispatch.queue
    timer ∈ q.timers ∧ q.expire timer ≠ { q with timers := q.timers.erase timer }

/-- A timer that can still have an effect is of the entry's present generation. -/
theorem Balanced.present (sound : ∀ key, l.dispatch.Sound key) (balanced : l.Balanced key)
    {timer : QueueTimer} (set : timer ∈ l.dispatch.queue.timersOf key) (acts : l.CanAct key timer) :
    timer.generation = (l.dispatch.queue.known key).generation := by
  obtain ⟨later, unforgotten, few, -, effect⟩ := acts
  have own := (WorkQueue.mem_timersOf.1 set).2
  have entered := balanced.run sound unforgotten few
  have same : ((l.run key later).dispatch.queue.known key).generation = timer.generation := by
    refine Classical.byContradiction fun stale => effect (WorkQueue.expire_stale fun entry found => ?_)
    rw [own] at found
    rw [← WorkQueue.known_of_found found]
    exact stale
  have more := l.generations_le_run key later
  have past := UInt64.le_iff_toNat_le.1 (balanced.past timer set)
  have then_ := entered.generation
  have now_ := balanced.generation
  rw [same] at then_
  rw [← UInt64.toNat_inj]
  omega

/-- Of the timers that are left of the key, one at most can still have an effect. -/
theorem Balanced.single (sound : ∀ key, l.dispatch.Sound key) (balanced : l.Balanced key) :
    (l.dispatch.queue.timersOf key).Pairwise fun a b => ¬(l.CanAct key a ∧ l.CanAct key b) := by
  refine balanced.numbered.imp_of_mem fun {a b} isA isB apart both => ?_
  rw [balanced.present sound isA both.1, balanced.present sound isB both.2] at apart
  exact absurd apart (UInt64.lt_irrefl _)

/-- What comes of a failure that is to be retried after a delay, through the turns that follow it. -/
structure Retries (backoff : Backoff) (l : Ledger) (key : Key) (class_ : ErrorClass) (delay : Duration)
    (later : List Turn) : Prop where
  /-- The failures since the last success are counted up to the last number of their word. -/
  transient : class_ = .transient →
    delay = backoff.delay (.ofNat (min (l.failures + 1) (UInt32.size - 1)))
  poison : class_ = .poison → delay = backoff.max
  /-- The key is not handed out sooner. -/
  shut : let opened := l.dispatch.step (.failed key class_)
    ∀ queue, (opened.run later).queue.next = (queue, some key) →
      l.dispatch.now.nanos + delay.toNanos ≤ (opened.run later).now.nanos
  /-- The key is queued again by then. -/
  again : (l.dispatch.step (.failed key class_)).QueuedBy key
    (l.dispatch.now.nanos + delay.toNanos) later

theorem Balanced.answered (sound : l.dispatch.Sound key) (balanced : l.Balanced key)
    (handed : (l.dispatch.held key).isSome = true) (class_ : ErrorClass) :
    (l.dispatch.queue.failed l.dispatch.now key class_).2 = l.dispatch.queue.backoff.retry
      l.dispatch.now (.ofNat (min (l.failures + 1) (UInt32.size - 1))) class_ := by
  obtain ⟨flies, idle⟩ := sound.outstanding handed
  rw [WorkQueue.failed_returns flies idle, ← balanced.oneMore, UInt32.ofNat_toNat]

theorem Balanced.retries (sound : ∀ key, l.dispatch.Sound key) (balanced : l.Balanced key)
    {class_ : ErrorClass} {delay : Duration} {later : List Turn}
    (few : (l.step key (.failed key class_)).generations < UInt64.size) (unforgotten : .forget key ∉ later)
    (handed : (l.dispatch.held key).isSome = true)
    (returns : (l.dispatch.queue.failed l.dispatch.now key class_).2 = .after delay) :
    Retries l.dispatch.queue.backoff l key class_ delay later := by
  obtain ⟨-, -, retries, -, -⟩ := Dispatch.retried_known sound handed returns
  have sound' := Dispatch.sound_step sound (.failed key class_)
  have counted := balanced.oneMore
  rw [step_failed handed, returns, if_neg (by simp)] at few
  refine ⟨?_, ?_, ?_, ?_⟩
  · rintro rfl
    rw [← counted, UInt32.ofNat_toNat]
    exact (Option.some.inj retries).symm
  · rintro rfl
    exact (Option.some.inj retries).symm
  · intro opened queue out
    have shut := Dispatch.shut_of_failed sound handed returns fun timer set used => by
      -- the number of the window's timer is new, so no timer has it yet
      have past := balanced.past timer set
      rw [used] at past
      exact absurd (balanced.grows few) (UInt64.not_lt.2 past)
    exact Dispatch.shut_keeps sound' shut unforgotten out
  · exact Dispatch.queuedBy_of_awaits sound' (Dispatch.awaits_of_failed sound handed returns) unforgotten

theorem generations_le_of_part (key : Key) (l : Ledger) {sooner turns : List Turn}
    (part : sooner <+: turns) : (l.run key sooner).generations ≤ (l.run key turns).generations := by
  obtain ⟨rest, rfl⟩ := part
  rw [run_append]
  exact generations_le_run ..

/-- What a run of the queue keeps to, as far as one key is concerned. -/
structure Timely (backoff : Backoff) (key : Key) (turns : List Turn) : Prop where
  /-- A failure is answered as its class and the number of failures have it: with a delay, unless it is
  permanent or the delay ends beyond the clock. -/
  answered : ∀ before class_, before ++ [.failed key class_] <+: turns →
    let l := (fresh backoff).run key before
    let failures := .ofNat (min (l.failures + 1) (UInt32.size - 1))
    (l.dispatch.held key).isSome = true →
      (l.dispatch.queue.failed l.dispatch.now key class_).2 =
        backoff.retry l.dispatch.now failures class_
  /-- After a failure that is answered with a delay the key is not handed out until the delay is over, and
  is queued again then. -/
  failed : ∀ before class_ delay later, before ++ .failed key class_ :: later <+: turns →
    let l := (fresh backoff).run key before
    (l.dispatch.held key).isSome = true →
      (l.dispatch.queue.failed l.dispatch.now key class_).2 = .after delay →
        Retries backoff l key class_ delay later
  /-- After a success the key is queued again when the delay is over, if that is at a time which the clock
  can hold. -/
  done : ∀ before delay later due, before ++ .done key delay :: later <+: turns →
    let d := ((fresh backoff).run key before).dispatch
    (d.held key).isSome = true → delay.isZero = false → d.now.after? delay = some due →
      (d.step (.done key delay)).QueuedBy key due.nanos later
  /-- After a success whose delay ends beyond the clock the key is queued again after thirty years. -/
  beyond : ∀ before delay later, before ++ .done key delay :: later <+: turns →
    let d := ((fresh backoff).run key before).dispatch
    (d.held key).isSome = true → delay.isZero = false → d.now.after? delay = none →
      (d.step (.done key delay)).QueuedBy key (d.now.nanos + Instant.farFuture.toNanos) later
  /-- At any time one timer of the key at most can still have an effect. -/
  single : ∀ before, before <+: turns →
    let l := (fresh backoff).run key before
    (l.dispatch.queue.timersOf key).Pairwise fun a b => ¬(l.CanAct key a ∧ l.CanAct key b)

theorem sound_fresh_run (backoff : Backoff) (key : Key) (turns : List Turn) :
    ∀ other, ((fresh backoff).run key turns).dispatch.Sound other := by
  rw [run_dispatch]
  exact Dispatch.sound_run (Dispatch.sound_fresh backoff) turns

theorem backoff_fresh_run (backoff : Backoff) (key : Key) (turns : List Turn) :
    ((fresh backoff).run key turns).dispatch.queue.backoff = backoff := by
  rw [run_dispatch, Dispatch.backoff_run]
  rfl

private theorem parts_of_split {before later turns : List Turn} {turn : Turn}
    (part : before ++ turn :: later <+: turns) :
    before <+: turns ∧ before ++ [turn] <+: turns ∧ later ⊆ turns := by
  refine ⟨(List.prefix_append ..).trans part, ?_, fun other member => ?_⟩
  · rw [List.append_cons] at part
    exact (List.prefix_append ..).trans part
  · exact part.subset (List.mem_append_right _ (List.mem_cons_of_mem _ member))

/-- However a queue is used, a key that is not forgotten is tried again when it is due: after a failure
when its backoff window ends, and after a success when its delay is over, or after thirty years if that
would be beyond the clock. It takes a number for each of its timers, or instead of one, and these must not
run out. -/
theorem retries_timely (backoff : Backoff) (key : Key) (turns : List Turn)
    (unforgotten : .forget key ∉ turns)
    (few : ((fresh backoff).run key turns).generations < UInt64.size) : Timely backoff key turns := by
  have balanced : ∀ before, before <+: turns → ((fresh backoff).run key before).Balanced key := by
    intro before part
    refine (balanced_fresh backoff key).run (Dispatch.sound_fresh backoff)
      (fun forgets => unforgotten (part.subset forgets)) ?_
    exact Nat.lt_of_le_of_lt (generations_le_of_part key _ part) few
  have queuedBy : ∀ before delay later, before ++ .done key delay :: later <+: turns →
      let d := ((fresh backoff).run key before).dispatch
      (d.held key).isSome = true → delay.isZero = false →
        (d.step (.done key delay)).QueuedBy key (d.now.timerDue delay).nanos later := by
    intro before delay later part d handed pauses
    obtain ⟨-, -, kept⟩ := parts_of_split part
    exact Dispatch.queuedBy_of_done (sound_fresh_run backoff key before) handed pauses (mt (kept ·) unforgotten)
  refine ⟨?_, ?_, ?_, ?_, fun before part => ?_⟩
  · intro before class_ part l failures handed
    have sooner : before <+: turns := (List.prefix_append ..).trans part
    rw [(balanced before sooner).answered (sound_fresh_run backoff key before key) handed,
      backoff_fresh_run]
  · intro before class_ delay later part l handed returns
    obtain ⟨sooner, reported, kept⟩ := parts_of_split part
    have fewer : (l.step key (.failed key class_)).generations < UInt64.size := by
      have least := generations_le_of_part key (fresh backoff) reported
      rw [run_append] at least
      exact Nat.lt_of_le_of_lt least few
    have retries := (balanced before sooner).retries (sound_fresh_run backoff key before) fewer
      (mt (kept ·) unforgotten) handed returns
    rw [backoff_fresh_run] at retries
    exact retries
  · intro before delay later due part d handed pauses within
    have queued := queuedBy before delay later part handed pauses
    rw [Instant.timerDue_of_after? within] at queued
    exact queued
  · intro before delay later part d handed pauses beyond
    have queued := queuedBy before delay later part handed pauses
    rw [Instant.timerDue_of_beyond beyond] at queued
    exact queued
  · exact (balanced before part).single (sound_fresh_run backoff key before)

/-- A volume whose first cycle fails. It is triggered within its backoff window, handed out when the window
ends, and polled ten seconds after that. -/
theorem retries_timely_volume :
    let key : Key := ⟨"volume", "data"⟩
    let turns : List Turn := [.add key, .next, .failed key .transient, .add key, .wait 1000000000,
      .fire ⟨key, 1, ⟨1000000000⟩⟩, .next, .done key (.ofSeconds 10), .wait 10000000000]
    .forget key ∉ turns ∧ ((fresh .standard).run key turns).generations < UInt64.size ∧
      Timely .standard key turns := by
  refine ⟨by simp, by decide, ?_⟩
  exact retries_timely .standard _ _ (by simp) (by decide)

end Ledger

end CloudKeeper
