import CloudKeeper.Proofs.Scheduler.Following
/-!
As long as the event loop reads no removal of a key while that key is handed out, the key is handed out
once at a time, and no trigger of it is left to a backoff timer meanwhile.
-/
namespace CloudKeeper

open Time (Instant)

namespace Controller

variable {S : Type} {kind : Kind S} {config : SchedulerConfig} {c after : Controller S}
  {key other : Key}

/-- A key is in the hands of at most one worker, which its entry says, and no trigger of it has been left
to a timer while it was. -/
structure Single (c : Controller S) (key : Key) : Prop where
  free : c.queue.Free c.now key
  handed : c.InHands key → ∃ entry, c.queue.entries.get? key = some entry ∧ entry.inFlight = true ∧
    entry.queued = false
  once : c.waiting.count key ≤ 1
  apart : key ∈ c.waiting → c.running key = none
  running : ∀ ongoing, c.running key = some ongoing → ongoing.passedOver = false
  reported : ∀ report, c.reports key = some report → report.passedOver = false

/-- The hand-outs of a key are what they were; its entry may have changed. -/
private theorem Single.of_entry (single : c.Single key) (free : after.queue.Free after.now key)
    (handed : c.InHands key → ∃ entry, after.queue.entries.get? key = some entry ∧
      entry.inFlight = true ∧ entry.queued = false)
    (waiting : after.waiting.count key = c.waiting.count key)
    (running : after.running key = c.running key) (reports : after.reports key = c.reports key) :
    after.Single key := by
  have waits : key ∈ after.waiting ↔ key ∈ c.waiting := by
    rw [← List.count_pos_iff, ← List.count_pos_iff, waiting]
  refine ⟨free, fun hands => handed ?_, ?_, fun member => ?_, fun ongoing runs => ?_,
    fun report isReport => ?_⟩
  · unfold InHands at hands ⊢
    rw [waits, running] at hands
    exact hands
  · rw [waiting]
    exact single.once
  · rw [running]
    exact single.apart (waits.1 member)
  · rw [running] at runs
    exact single.running ongoing runs
  · rw [reports] at isReport
    exact single.reported report isReport

/-- Neither the entry nor the hand-outs of a key have changed. -/
private theorem Single.kept (single : c.Single key)
    (entries : after.queue.entries.get? key = c.queue.entries.get? key)
    (now : c.now.nanos ≤ after.now.nanos) (waiting : after.waiting.count key = c.waiting.count key)
    (running : after.running key = c.running key) (reports : after.reports key = c.reports key) :
    after.Single key := by
  refine single.of_entry (fun entry found live => ?_) (fun handed => ?_) waiting running reports
  · rw [entries] at found
    exact WorkQueue.isHeldBack_later now (single.free entry found live)
  · rw [entries]
    exact single.handed handed

/-- A trigger that is not left to a timer does not hand a key out. -/
private theorem Single.marked (single : c.Single key) {base : QueueEntry}
    (marked : after.queue.entries.get? key = some base.triggered)
    (unheld : WorkQueue.QueueEntry.isHeldBack base after.now = false)
    (handed : c.InHands key → base.inFlight = true ∧ base.queued = false)
    (waiting : after.waiting.count key = c.waiting.count key)
    (running : after.running key = c.running key) (reports : after.reports key = c.reports key) :
    after.Single key := by
  refine single.of_entry (fun entry found live => ?_) (fun hands => ?_) waiting running reports
  · cases Option.some.inj (marked.symm.trans found)
    rw [WorkQueue.isHeldBack_triggered]
    exact unheld
  · obtain ⟨flies, idle⟩ := handed hands
    refine ⟨_, marked, ?_, ?_⟩
    · exact (WorkQueue.triggered_eq base).1.trans flies
    · rw [QueueEntry.triggered, if_pos flies]
      exact idle

/-- A trigger of a key that is handed out is not left to a timer. -/
private theorem single_triggered (single : c.Single key) (consistent : c.queue.Consistent key)
    (queue : after.queue = c.queue.add c.now key) (now : after.now = c.now)
    (waiting : after.waiting = c.waiting) (running : after.running = c.passOver key)
    (reports : after.reports = c.reports) : after.Single key := by
  have does := (WorkQueue.add_cases c.now consistent).2
  rw [← queue] at does
  have unheld : c.InHands key → c.queue.holdsBack c.now key = false := by
    intro handed
    obtain ⟨entry, found, flies, -⟩ := single.handed handed
    rw [WorkQueue.holdsBack, found]
    exact single.free entry found (.inr flies)
  have sameCycle : after.running key = c.running key := by
    rw [running, passOver]
    split
    case isTrue held =>
      cases runs : c.running key with
      | none => rfl
      | some ongoing =>
        have handed : c.InHands key := .inr (by rw [runs]; rfl)
        cases (unheld handed).symm.trans held.2
    case isFalse => rfl
  have sameCount : after.waiting.count key = c.waiting.count key := by rw [waiting]
  have sameReport : after.reports key = c.reports key := by rw [reports]
  rcases does with ⟨held, spares, -⟩ | ⟨free, marked⟩
  · exact single.kept spares.entries (Nat.le_of_eq (by rw [now])) sameCount sameCycle sameReport
  · refine single.marked marked ?_ (fun hands => ?_) sameCount sameCycle sameReport
    · rw [now]
      exact free
    · obtain ⟨entry, found, flies, idle⟩ := single.handed hands
      rw [found]
      exact ⟨flies, idle⟩

/-- A key is handed out only when no worker has it. -/
private theorem single_handOut (single : c.Single key) (consistent : c.queue.Consistent key)
    {queue : WorkQueue} (next : c.queue.next = (queue, some key)) :
    ({ c with queue, waiting := key :: c.waiting } : Controller S).Single key := by
  obtain ⟨-, entry, found, queued, started⟩ := WorkQueue.next_cases consistent next
  have unhanded : ¬c.InHands key := by
    intro handed
    obtain ⟨own, known, -, idle⟩ := single.handed handed
    cases Option.some.inj (found.symm.trans known)
    cases queued.symm.trans idle
  have idle : c.running key = none := by
    cases runs : c.running key with
    | none => rfl
    | some ongoing => exact absurd (.inr (by rw [runs]; rfl)) unhanded
  refine ⟨fun own known _ => ?_, fun _ => ⟨_, started, rfl, rfl⟩, ?_, fun _ => idle, single.running,
    single.reported⟩
  · cases Option.some.inj (started.symm.trans known)
    exact single.free entry found (.inl queued)
  · have none_ : c.waiting.count key = 0 := List.count_eq_zero.2 fun waits => unhanded (.inl waits)
    exact Nat.le_of_eq (by rw [List.count_cons_self, none_])

private theorem single_begin (single : c.Single key) (waits : key ∈ c.waiting) :
    ({ c with waiting := c.waiting.erase key }.put key (some { cycle := reconcile kind })).Single
      key := by
  have once := single.once
  have left : (c.waiting.erase key).count key = 0 := by
    rw [List.count_erase_self]
    omega
  refine ⟨single.free, fun _ => single.handed (.inl waits), ?_, fun member => ?_, fun ongoing runs => ?_,
    single.reported⟩
  · exact Nat.le_trans (Nat.le_of_eq left) (Nat.zero_le 1)
  · exact absurd member (List.count_eq_zero.1 left)
  · cases put_own.symm.trans runs
    rfl

private theorem single_put (single : c.Single key) {before ongoing : Ongoing S}
    (runs : c.running key = some before) (passed : ongoing.passedOver = before.passedOver) :
    (c.put key (some ongoing)).Single key := by
  refine ⟨single.free, fun _ => single.handed (.inr (by rw [runs]; rfl)), single.once,
    fun waits => ?_, fun own isOwn => ?_, single.reported⟩
  · cases (single.apart waits).symm.trans runs
  · cases put_own.symm.trans isOwn
    exact passed.trans (single.running before runs)

/-- The report of the only cycle of a key takes it out of the hands of workers. -/
private theorem single_ended (single : c.Single key) (consistent : c.queue.Consistent key)
    {before ongoing : Ongoing S} {result : CycleResult} (runs : c.running key = some before)
    (passed : ongoing.passedOver = before.passedOver) :
    (c.ended config key ongoing result).Single key := by
  obtain ⟨entry, found, -, idle⟩ := single.handed (.inr (by rw [runs]; rfl))
  have gone : ¬(c.ended config key ongoing result).InHands key := by
    rintro (waits | still)
    · cases (single.apart waits).symm.trans runs
    · rw [ended, put_own] at still
      cases still
  refine ⟨?_, fun handed => absurd handed gone, single.once, fun waits => absurd (.inl waits) gone,
    fun own isOwn => ?_, fun report isReport => ?_⟩
  · intro own known live
    rcases Scheduler.report_cases consistent with
      ⟨-, untracked⟩ | ⟨untracked, -⟩ | ⟨same, foundAgain, after⟩
    · cases untracked.symm.trans known
    · cases untracked.symm.trans found
    · cases Option.some.inj (found.symm.trans foundAgain)
      obtain ⟨left, present, landed, open_⟩ := after.grounded
      cases Option.some.inj (present.symm.trans known)
      rcases live with queued | flies
      · exact WorkQueue.isHeldBack_closed (open_ idle queued)
      · cases landed.symm.trans flies
  · cases put_own.symm.trans isOwn
  · have reported : (c.ended config key ongoing result).reports key = some
        ⟨ongoing.read, ongoing.passedOver, Scheduler.ending c.now c.queue key result⟩ := if_pos rfl
    cases reported.symm.trans isReport
    exact passed.trans (single.running before runs)

private theorem single_fire (single : c.Single key) (consistent : c.queue.Consistent key)
    {timer : QueueTimer} (own : key = timer.key) :
    ({ c with queue := c.queue.expire timer } : Controller S).Single key := by
  subst own
  obtain ⟨-, spares | ⟨entry, found, marked⟩⟩ := WorkQueue.expire_cases consistent
  · exact single.kept spares.entries (Nat.le_refl _) rfl rfl rfl
  · refine single.marked marked (WorkQueue.isHeldBack_closed rfl) (fun handed => ?_) rfl rfl rfl
    obtain ⟨known, isKnown, flies, idle⟩ := single.handed handed
    cases Option.some.inj (found.symm.trans isKnown)
    exact ⟨flies, idle⟩

/-- A key whose removal is read while nobody has it stays single. -/
private theorem single_forgotten (single : c.Single key) (unhanded : ¬c.InHands key)
    (entries : after.queue.entries.get? key = none) (waiting : after.waiting = c.waiting)
    (running : after.running = c.running) (reports : after.reports = c.reports) :
    after.Single key := by
  refine single.of_entry (fun entry found => ?_) (fun handed => absurd handed unhanded) ?_ ?_ ?_
  · cases entries.symm.trans found
  · rw [waiting]
  · rw [running]
  · rw [reports]

/-- Every key is single whose removal has not been read while it was handed out. -/
def Uncrossed (c : Controller S) : Prop := ∀ key, c.crossed key = false → c.Single key

private theorem Uncrossed.kept (uncrossed : c.Uncrossed) (queue : after.queue = c.queue)
    (now : after.now = c.now) (waiting : after.waiting = c.waiting) (running : after.running = c.running)
    (reports : after.reports = c.reports) (crossed : after.crossed = c.crossed) : after.Uncrossed := by
  intro key fresh
  rw [crossed] at fresh
  refine (uncrossed key fresh).kept ?_ (Nat.le_of_eq ?_) ?_ ?_ ?_
  · rw [queue]
  · rw [now]
  · rw [waiting]
  · rw [running]
  · rw [reports]

/-- A trigger of a key leaves every key single that was. -/
private theorem uncrossed_triggered (uncrossed : c.Uncrossed) (sound : c.Sound kind)
    (queue : after.queue = c.queue.add c.now other) (now : after.now = c.now)
    (waiting : after.waiting = c.waiting) (running : after.running = c.passOver other)
    (reports : after.reports = c.reports) (crossed : after.crossed = c.crossed) :
    after.Uncrossed := by
  intro key fresh
  rw [crossed] at fresh
  have single := uncrossed key fresh
  by_cases same : key = other
  · subst same
    exact single_triggered single (sound.followed key).consistent queue now waiting running reports
  · refine single.kept ?_ (Nat.le_of_eq ?_) ?_ ?_ ?_
    · rw [queue]
      exact (WorkQueue.add_spares same).entries
    · rw [now]
    · rw [waiting]
    · rw [running]
      exact passOver_other same
    · rw [reports]

private theorem uncrossed_look (uncrossed : c.Uncrossed) (sound : c.Sound kind) : c.look.Uncrossed := by
  unfold look
  split
  case h_1 => exact uncrossed.kept rfl rfl rfl rfl rfl rfl
  case h_2 => exact uncrossed.kept rfl rfl rfl rfl rfl rfl
  case h_3 own keys listed => exact uncrossed_triggered uncrossed sound rfl rfl rfl rfl rfl rfl
  case h_4 =>
    dsimp only
    split
    case isTrue =>
      split
      · exact uncrossed
      case h_2 event rest events =>
        obtain ⟨change, own⟩ := event
        cases change with
        | applied => exact uncrossed_triggered uncrossed sound rfl rfl rfl rfl rfl rfl
        | deletionRequested => exact uncrossed_triggered uncrossed sound rfl rfl rfl rfl rfl rfl
        | removed =>
          intro key fresh
          obtain ⟨freshBefore, apart⟩ := Bool.or_eq_false_iff.1 fresh
          have single := uncrossed key freshBefore
          by_cases same : key = own
          · subst same
            have unhanded : ¬c.InHands key := fun handed => of_decide_eq_false apart ⟨rfl, handed⟩
            exact single_forgotten single unhanded (WorkQueue.get?_forget c.queue key) rfl rfl rfl
          · exact single.kept (WorkQueue.forget_spares same).entries (Nat.le_refl _) rfl rfl rfl
    case isFalse =>
      generalize (Event.pending c.engine.store.sent c.seen).lost = lost
      exact uncrossed.kept rfl rfl rfl rfl rfl rfl

private theorem uncrossed_handOut (uncrossed : c.Uncrossed) (sound : c.Sound kind) {queue : WorkQueue}
    {own : Key} (next : c.queue.next = (queue, some own)) :
    ({ c with queue, waiting := own :: c.waiting } : Controller S).Uncrossed := by
  intro key fresh
  have single := uncrossed key fresh
  by_cases same : key = own
  · subst same
    exact single_handOut single (sound.followed key).consistent next
  · refine single.kept (WorkQueue.next_spares next same).entries (Nat.le_refl _) ?_ rfl rfl
    exact List.count_cons_of_ne (Ne.symm same)

theorem uncrossed_start (store : Store S) : (start config store).Uncrossed := by
  intro key _
  have idle : ¬(start config store).InHands key := by
    rintro (waits | runs)
    · cases waits
    · cases runs
  exact ⟨nofun, fun handed => absurd handed idle, Nat.zero_le 1, nofun, nofun, nofun⟩

variable [Spec S]

private theorem uncrossed_goOn (uncrossed : c.Uncrossed) (sound : c.Sound kind) {engine : Engine S}
    {own : Key} {now : Time.Timestamp} {before ongoing : Ongoing S} (runs : c.running own = some before)
    (passed : ongoing.passedOver = before.passedOver) :
    (goOn config { c with engine } own now ongoing).Uncrossed := by
  unfold goOn
  split
  next settled result _ =>
    intro key fresh
    have single : ({ c with engine := settled } : Controller S).Single key :=
      (uncrossed key fresh).kept rfl (Nat.le_refl _) rfl rfl rfl
    by_cases same : key = own
    · subst same
      exact single_ended single (sound.followed key).consistent runs passed
    · exact single.kept (Scheduler.report_spares same).entries (Nat.le_refl _) rfl (if_neg same)
        (if_neg same)
  next settled cycle _ _ =>
    intro key fresh
    have single : ({ c with engine := settled } : Controller S).Single key :=
      (uncrossed key fresh).kept rfl (Nat.le_refl _) rfl rfl rfl
    by_cases same : key = own
    · subst same
      exact single_put single runs passed
    · exact single.kept rfl (Nat.le_refl _) rfl (if_neg same) rfl

theorem Uncrossed.step (uncrossed : c.Uncrossed) (sound : c.Sound kind) (turn : Turn S) :
    (c.step kind config turn).Uncrossed := by
  cases turn with
  | apply key spec => exact uncrossed.kept rfl rfl rfl rfl rfl rfl
  | requestDeletion key now => exact uncrossed.kept rfl rfl rfl rfl rfl rfl
  | watch => exact uncrossed_look uncrossed sound
  | handOut =>
    simp only [Controller.step]
    split
    next queue own next => exact uncrossed_handOut uncrossed sound next
    next queue next =>
      intro key fresh
      exact (uncrossed key fresh).kept (WorkQueue.next_none next key).entries (Nat.le_refl _) rfl rfl rfl
  | begin own =>
    simp only [Controller.step]
    split
    case isTrue begins =>
      intro key fresh
      by_cases same : key = own
      · subst same
        exact single_begin (uncrossed key fresh) begins.1
      · exact (uncrossed key fresh).kept rfl (Nat.le_refl _) (List.count_erase_of_ne same)
          (if_neg same) rfl
    case isFalse => exact uncrossed
  | act key now =>
    simp only [Controller.step]
    split
    next action next read passedOver runs => exact uncrossed_goOn uncrossed sound runs rfl
    next => exact uncrossed
  | answer key now reply =>
    simp only [Controller.step]
    split
    next remote next read passedOver runs => exact uncrossed_goOn uncrossed sound runs rfl
    next => exact uncrossed
  | fire timer =>
    simp only [Controller.step]
    split
    · intro key fresh
      by_cases own : key = timer.key
      · exact single_fire (uncrossed key fresh) (sound.followed key).consistent own
      · exact (uncrossed key fresh).kept (WorkQueue.expire_spares own).entries (Nat.le_refl _) rfl rfl
          rfl
    · exact uncrossed
  | wait nanos =>
    intro key fresh
    exact (uncrossed key fresh).kept rfl (Nat.le_add_right _ _) rfl rfl rfl

theorem Uncrossed.run (uncrossed : c.Uncrossed) (sound : c.Sound kind) (turns : List (Turn S)) :
    (c.run kind config turns).Uncrossed := by
  induction turns generalizing c with
  | nil => exact uncrossed
  | cons turn rest ih => exact ih (uncrossed.step sound turn) (sound.step turn)

end Controller

end CloudKeeper
