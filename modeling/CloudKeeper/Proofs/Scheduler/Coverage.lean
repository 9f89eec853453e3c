import CloudKeeper.Kind.Family
import CloudKeeper.Proofs.Scheduler.Crossing
import CloudKeeper.Time.Epoch
/-!
Whether anything keeps an eye on each declared object once the event loop has read all announcements. A
worker, the ready channel, a timer or a failure for good does, but for one case: a key that is handed out
twice can be triggered within a backoff window while its cycle is under way, and if that cycle then fails
for good, the trigger and the timer it was left to are both lost.
-/
namespace CloudKeeper.Controller

variable {S : Type} [Spec S]

omit [Spec S] in
private theorem quiet_learns_nothing {c : Controller S} (quiet : c.Quiet) (key : Key) :
    ¬c.Coming key := by
  obtain ⟨reading, seen⟩ := quiet
  rintro (listing | ⟨keys, listed, -⟩ | ⟨event, member, -⟩)
  · cases reading.symm.trans listing
  · cases reading.symm.trans listed
  · rw [unread, seen, Nat.sub_self] at member
    cases member

/-- Whenever the event loop has read all announcements, something keeps an eye on every object that is
there, unless the object is stranded; and to be stranded, the removal of its key must have been read
while the key was handed out, or a retry must lie beyond the clock. -/
theorem covered_iff_not_stranded (kind : Kind S) (config : SchedulerConfig) (store : Store S)
    (turns : List (Turn S)) (key : Key)
    (quiet : (run kind config (start config store) turns).Quiet)
    (there : (run kind config (start config store) turns).intent? key ≠ none) :
    let c := run kind config (start config store) turns
    (c.Covered key ↔ ¬c.Stranded key) ∧
      (c.Stranded key → c.crossed key = true ∨
        ∃ report, c.reports key = some report ∧ report.ending = .overflowed) := by
  intro c
  have sound : c.Sound kind := (sound_start store).run turns
  have uncrossed : c.Uncrossed := (uncrossed_start store).run (sound_start store) turns
  refine ⟨⟨?_, ?_⟩, ?_⟩
  · rintro (handed | queued | armed | ⟨report, isReport, ends, current⟩) stranded
    · exact stranded.unhanded handed
    · exact stranded.unqueued queued
    · exact stranded.unarmed armed
    · obtain ⟨other, isOther, ⟨-, outdated, -⟩ | overflowed⟩ := stranded.because
      · cases Option.some.inj (isReport.symm.trans isOther)
        exact outdated current
      · cases Option.some.inj (isReport.symm.trans isOther)
        cases ends.symm.trans overflowed
  · intro unstranded
    refine Classical.byContradiction fun uncovered => unstranded ?_
    simp only [Covered, not_or] at uncovered
    obtain ⟨unhanded, unqueued, unarmed, unparked⟩ := uncovered
    refine ⟨unhanded, unqueued, unarmed, ?_⟩
    rcases (sound.followed key).kept there with coming | handed | queued | armed | accounted
    · exact absurd coming (quiet_learns_nothing quiet key)
    · exact absurd handed unhanded
    · exact absurd queued unqueued
    · exact absurd armed unarmed
    · obtain ⟨report, isReport, ⟨ends, current | passed⟩ | overflowed⟩ := accounted
      · exact absurd ⟨report, isReport, ends, current⟩ unparked
      · refine ⟨report, isReport, .inl ⟨ends, fun current => ?_, passed⟩⟩
        exact unparked ⟨report, isReport, ends, current⟩
      · exact ⟨report, isReport, .inr overflowed⟩
  · intro stranded
    obtain ⟨report, isReport, ⟨-, -, passed⟩ | overflowed⟩ := stranded.because
    · refine .inl (eq_true_of_ne_false fun fresh => ?_)
      cases ((uncrossed key fresh).reported report isReport).symm.trans passed
    · exact .inr ⟨report, isReport, overflowed⟩

/-- An address that has just been listed. -/
theorem covered_iff_not_stranded_address :
    let key : Key := ⟨"floating_ip", "web"⟩
    let spec : FloatingIpSpec := { projectId := "p", isp := "BGP", bandwidth := 1 }
    let store : Store FloatingIpSpec := { objects := .ofList [(key, { key, spec })] }
    let kind := FloatingIp.service.toKind
    let c := run kind {} (start {} store) [.watch, .watch, .watch]
    c.Quiet ∧ c.intent? key ≠ none ∧ (c.Covered key ↔ ¬c.Stranded key) ∧
      (c.Stranded key → c.crossed key = true ∨
        ∃ report, c.reports key = some report ∧ report.ending = .overflowed) := by
  intro key spec store kind c
  have quiet : c.Quiet := by decide
  have there : c.intent? key ≠ none := by decide
  exact ⟨quiet, there, covered_iff_not_stranded kind {} store [.watch, .watch, .watch] key quiet there⟩

/-- An address whose deletion is requested. While its resource is being deleted it is declared again, and
once more after it has been removed. The event loop reads the first of these announcements and a second
worker takes the address; then it reads the removal and the other announcement, and the address is
queued again. The second worker's cycle fails and opens a backoff window, in which a third worker takes
the address. Its parameters are changed; the trigger is left to the timer; the third cycle, which had
read the earlier parameters, fails for good and the timer is disowned. -/
theorem declared_object_is_stranded :
    let key : Key := ⟨"floating_ip", "web"⟩
    let spec : FloatingIpSpec := { projectId := "p", isp := "BGP", bandwidth := 1 }
    let store : Store FloatingIpSpec := { objects := .ofList [(key,
      { key, spec, recordedId := some "ip-1", deletionRequested := some .epoch })] }
    let fails (e : ClientError) : Turn FloatingIpSpec := .answer key .epoch fun _ => some (.error e)
    let c := run FloatingIp.service.toKind {} (start {} store)
      [.watch, .watch, .watch, .handOut, .begin key, .act key .epoch, .act key .epoch,
        .apply key spec, fails .notFound, .act key .epoch, .apply key spec,
        .watch, .handOut, .begin key, .act key .epoch, .watch, .watch,
        fails (.transport "refused"), .act key .epoch, .handOut, .begin key, .act key .epoch,
        .apply key { spec with bandwidth := 2 }, .watch, fails (.invalid "no"), .act key .epoch]
    c.Quiet ∧ c.intent? key ≠ none ∧ ¬c.Covered key := by
  intro key spec store fails c
  have quiet : c.Quiet := by decide
  have wish : c.intent? key = some ({ spec with bandwidth := 2 }, false) := by decide
  have entry : c.queue.entries.get? key = some { failures := 2, generation := 2 } := by decide
  have timers : c.queue.timers.map (·.generation) = [1] := by decide
  have read : (c.reports key).map (·.read) = some (some (spec, false)) := by decide
  refine ⟨quiet, fun absent => Option.some_ne_none _ (wish.symm.trans absent), ?_⟩
  rintro (handed | ⟨own, found, queued, -⟩ | ⟨own, found, timer, set, -, current⟩ |
    ⟨report, isReport, -, current⟩)
  · exact absurd handed (by decide)
  · cases Option.some.inj (entry.symm.trans found)
    cases queued
  · cases Option.some.inj (entry.symm.trans found)
    have member := List.mem_map_of_mem (f := (·.generation)) set
    rw [timers, current] at member
    exact absurd member (by decide)
  · rw [isReport, Option.map_some, Option.some.injEq, current, wish, Option.some.injEq] at read
    exact absurd read (by decide)

end CloudKeeper.Controller
