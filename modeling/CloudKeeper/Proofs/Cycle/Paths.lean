import CloudKeeper.Proofs.Cycle.Discipline
import CloudKeeper.Proofs.Cycle.Solo
/-!
What a cycle leaves of the identifiers that are kept for its key. It is told along the paths of the program,
where an action changes the identifiers as its reply says, and then holds of every run: of a cycle that
nobody interferes with, and of one among the moves of authors and of other cycles.
-/
namespace CloudKeeper

variable {S α β : Type}

namespace Cycle

/-- However a program goes on with some identifiers kept, it ends as said of these, of what it has done and
of its value. -/
def Leads (said : Custody → List (Deed S) → α → Prop) : Cycle S α → Custody → List (Deed S) → Prop
  | .done a, h, own => said h own a
  | .step action next, h, own =>
    ∀ reply h', h.After action reply h' → (next reply).Leads said h' (.acted action reply :: own)
  | .call c next, h, own => ∀ reply, (next reply).Leads said h (.called c reply :: own)

variable {said : Custody → List (Deed S) → α → Prop} {lastly : Custody → List (Deed S) → β → Prop}
  {c : Cycle S α} {h : Custody} {own : List (Deed S)}

theorem Leads.bind {next : α → Cycle S β} (leads : c.Leads said h own)
    (goesOn : ∀ h own a, said h own a → (next a).Leads lastly h own) :
    (c.bind next).Leads lastly h own := by
  induction c generalizing h own with
  | done a => exact goesOn h own a leads
  | step action more ih => exact fun reply h' after => ih reply (leads reply h' after)
  | call c more ih => exact fun reply => ih reply (leads reply)

/-- What holds of the value on every path need not be told from the identifiers. -/
theorem Ends.leads {ends : α → Prop} {past : List (Deed S)} (always : c.Ends (fun _ => ends) past)
    (tells : ∀ h own a, ends a → said h own a) : c.Leads said h own := by
  induction c generalizing h own past with
  | done a => exact tells h own a always
  | step action next ih => exact fun reply h' _ => ih reply (always reply)
  | call c next ih => exact fun reply => ih reply (always reply)

/-- What is said of everything that contains a deed holds once that has been done. -/
theorem Leads.of_mem {deed : Deed S} (does : deed ∈ own)
    (tells : ∀ h own a, deed ∈ own → said h own a) : c.Leads said h own := by
  induction c generalizing h own with
  | done a => exact tells h own a does
  | step action next ih => exact fun reply h' _ => ih reply (List.mem_cons_of_mem _ does)
  | call c next ih => exact fun reply => ih reply (List.mem_cons_of_mem _ does)

/-- A cycle that nobody interferes with ends as said. -/
theorem Leads.run [Spec S] {key : Key} {e : Engine S} (leads : c.Leads said (e.custody key) own)
    (s : Surroundings S) (past : List (Deed S)) :
    let ended := s.run key c e (own ++ past)
    ∃ own', ended.past = own' ++ past ∧ said (ended.engine.custody key) own' ended.result := by
  induction c generalizing e own with
  | done a => exact ⟨own, rfl, leads⟩
  | step action next ih => exact ih _ (leads _ _ (e.perform_custody _ key action rfl))
  | call c next ih => exact ih _ (leads _)

end Cycle

namespace Works

open CloudKeeper.Cycle (Leads)

variable [Spec S] {kind : Kind S} {w : Works S} {key : Key} {move : Move S} {own : List (Deed S)}
  {said : Custody → List (Deed S) → CycleResult → Prop}

/-- The cycle of a key goes on to what is said. -/
def IsLed (w : Works S) (key : Key) (said : Custody → List (Deed S) → CycleResult → Prop)
    (own : List (Deed S)) : Prop :=
  ∃ c, w.running key = some c ∧ c.Leads said (w.engine.custody key) own

/-- An author leaves the identifiers alone. -/
theorem custody_authored {after : Works S} {call : StoreCall S} {write : WriteOutcome}
    (spares : call.SparesIds)
    (engine : after.engine = { w.engine with store := (call.perform w.engine.store write).1 }) :
    after.engine.custody key = w.engine.custody key := by
  rw [engine]
  exact congrArg (Custody.mk · _) (StoreCall.perform_spares spares w.engine.store write key)

theorem IsLed.step (led : w.IsLed key said own) (kind : Kind S) (stays : move ≠ .finish key) :
    (w.step kind move).IsLed key said ((w.deed? key move).toList ++ own) := by
  obtain ⟨c, runs, leads⟩ := led
  have seen := step_seen kind (.inl (Option.isSome_iff_exists.2 ⟨c, runs⟩)) stays
  generalize w.deed? key move = deed at seen
  cases seen with
  | @acted action next now write does ongoing engine goesOn =>
    cases Option.some.inj (runs.symm.trans ongoing)
    refine ⟨_, goesOn, ?_⟩
    rw [engine]
    exact leads _ _ (w.engine.perform_custody { now, write } key action rfl)
  | answered does calls engine goesOn =>
    cases Option.some.inj (runs.symm.trans calls)
    refine ⟨_, goesOn, ?_⟩
    rw [engine]
    exact leads _
  | authored _ _ _ spares engine same =>
    refine ⟨c, same.trans runs, ?_⟩
    rw [custody_authored spares engine]
    exact leads
  | nothing _ custody same =>
    refine ⟨c, same.trans runs, ?_⟩
    rw [custody]
    exact leads

/-- A cycle in the middle of everything else ends as said. -/
theorem IsLed.run (led : w.IsLed key said own) (kind : Kind S) {moves : List (Move S)} (one : .finish key ∉ moves) :
    (w.run kind moves).IsLed key said (w.deeds kind key moves ++ own) := by
  induction moves generalizing w own with
  | nil => exact led
  | cons move rest ih =>
    obtain ⟨stays, others⟩ := not_or.1 (mt List.mem_cons.2 one)
    have led := ih (led.step kind (Ne.symm stays)) others
    rw [← List.append_assoc] at led
    exact led

/-- A cycle that is about to act does so. -/
theorem step_act (kind : Kind S) {action : Action S} {next : action.Reply → Cycle S CycleResult}
    (runs : w.running key = some (.step action next)) (now : Time.Timestamp) (write : WriteOutcome) :
    let outcome := w.engine.perform { now, write } key action
    (w.step kind (.act key now write)).engine = outcome.1 ∧
      (w.step kind (.act key now write)).running key = some (next outcome.2) ∧
      w.deed? key (.act key now write) = some (.acted action outcome.2) := by
  simp only [step, deed?, runs, if_true, and_true]
  exact ⟨rfl, if_pos rfl⟩

/-- A cycle that waits for a reply gets it. -/
theorem step_answer (kind : Kind S) {c : RemoteCall S} {next : c.Reply → Cycle S CycleResult}
    (runs : w.running key = some (.call c next)) (replies : (call : RemoteCall S) → call.Reply) :
    (w.step kind (.answer key replies)).engine = w.engine ∧
      (w.step kind (.answer key replies)).running key = some (next (replies c)) ∧
      w.deed? key (.answer key replies) = some (.called c (replies c)) := by
  simp only [step, deed?, runs, if_true, and_true]
  exact ⟨rfl, if_pos rfl⟩

/-- What is said of every path of a cycle holds when it has come to its end. -/
theorem reports_led (leads : (reconcile kind).Leads said (w.engine.custody key) [])
    (idle : w.running key = none) {moves : List (Move S)} (one : .finish key ∉ moves)
    {result : CycleResult} (ends : (w.run kind (.begin key :: moves)).Reports key result) :
    said ((w.run kind (.begin key :: moves)).engine.custody key)
      (w.deeds kind key (.begin key :: moves)) result := by
  have begins : w.step kind (.begin key) = w.put key (some (reconcile kind)) := by
    simp only [step, idle]
  have led : (w.step kind (.begin key)).IsLed key said [] := by
    rw [begins]
    exact ⟨_, if_pos rfl, leads⟩
  obtain ⟨c, runs, leads⟩ := led.run kind one
  cases Option.some.inj (runs.symm.trans ends)
  exact leads

end Works

/-- A cycle that nobody interferes with is one run of moves among all those that works can take, with the
same deeds. -/
theorem Surroundings.run_deeds [Spec S] (s : Surroundings S) (kind : Kind S) {w : Works S} {key : Key}
    (c : Cycle S CycleResult) (runs : w.running key = some c) (past : List (Deed S)) :
    ∃ moves, let ended := s.run key c w.engine past
      (w.run kind moves).running key = some (.done ended.result) ∧
      (w.run kind moves).engine = ended.engine ∧ w.deeds kind key moves ++ past = ended.past := by
  induction c generalizing w past with
  | done a => exact ⟨[], runs, rfl, rfl⟩
  | step action next ih =>
    let move : Move S := .act key (s.now past) (s.write past)
    obtain ⟨engine, goesOn, does⟩ := Works.step_act kind runs (s.now past) (s.write past)
    obtain ⟨moves, ends, same, deeds⟩ := ih _ goesOn (.acted action _ :: past)
    rw [engine] at ends same deeds
    refine ⟨move :: moves, ends, same, ?_⟩
    rw [Works.deeds, does, List.append_assoc]
    exact deeds
  | call c next ih =>
    let move : Move S := .answer key (s.reply past)
    obtain ⟨engine, goesOn, does⟩ := Works.step_answer kind runs (s.reply past)
    obtain ⟨moves, ends, same, deeds⟩ := ih _ goesOn (.called c (s.reply past c) :: past)
    rw [engine] at ends same deeds
    refine ⟨move :: moves, ends, same, ?_⟩
    rw [Works.deeds, does, List.append_assoc]
    exact deeds

end CloudKeeper
