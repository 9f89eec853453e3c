import CloudKeeper.Kind.Family
import CloudKeeper.Proofs.Cycle.Locality
import CloudKeeper.Time.Epoch
/-!
Cycles of different objects commute. Cycles are run one after another, and their service answers a call about
an object by what it is asked and by what it has been asked about this object before. What a run comes to for an
object then depends on the cycles of its own key and on their order only, so the run can be put into any other
order that keeps the cycles of each key in theirs.
-/
namespace CloudKeeper

open Time (Timestamp)

variable {S : Type} {blur : Timestamp → Timestamp → Prop}

/-- A service that answers a call about the object of a key by the calls about it that it has answered before,
the latest first. -/
structure Client (S : Type) where
  reply : Key → List (Answered S) → (c : RemoteCall S) → c.Reply

/-- A service that does not tell times apart. -/
def Client.Blind (client : Client S) (blur : Timestamp → Timestamp → Prop) : Prop :=
  ∀ key heard heard' (c c' : RemoteCall S), List.Forall₂ (Answered.Alike blur) heard heard' → c.Alike blur c' →
    c.RepliedAlike c' (client.reply key heard c) (client.reply key heard' c')

/-- Every service keeps to this if no two times need be confused. -/
theorem Client.blind_eq (client : Client S) : client.Blind (· = ·) := by
  intro key heard heard' c c' same alike
  obtain rfl : c = c' := alike.eq
  obtain rfl : heard = heard' := by
    exact List.forall₂_eq_eq_eq ▸ same.imp fun _ _ alike => alike.eq
  exact .refl c _

/-- A cycle to be run: its key, and what its clock shows by the number of things that it has done. -/
structure Round where
  key : Key
  clock : Nat → Timestamp

/-- The same cycle, at times that are not told apart. -/
structure Round.Alike (blur : Timestamp → Timestamp → Prop) (r r' : Round) : Prop where
  key : r.key = r'.key
  clock : ∀ n, blur (r.clock n) (r'.clock n)

/-- Two runs have the same cycles of each key in the same order. -/
def Round.Reordered (blur : Timestamp → Timestamp → Prop) (rounds rounds' : List Round) : Prop :=
  ∀ key, List.Forall₂ (Round.Alike blur) (rounds.filter (·.key = key)) (rounds'.filter (·.key = key))

/-- Two cycles of different keys can change places. -/
theorem Round.Reordered.swap (reflexive : ∀ t, blur t t) {first second first' second' : Round}
    (apart : first.key ≠ second.key) (alike : first.Alike blur first') (also : second.Alike blur second')
    (rest : List Round) : Round.Reordered blur (first :: second :: rest) (second' :: first' :: rest) := by
  intro key
  have same : List.Forall₂ (Round.Alike blur) (rest.filter (·.key = key)) (rest.filter (·.key = key)) :=
    List.forall₂_same.2 fun round _ => ⟨rfl, fun _ => reflexive _⟩
  simp only [List.filter_cons, ← alike.key, ← also.key, decide_eq_true_eq]
  by_cases own : first.key = key
  · have away : second.key ≠ key := fun its => apart (own.trans its.symm)
    rw [if_pos own, if_neg away, if_neg away, if_pos own]
    exact .cons alike same
  · rw [if_neg own, if_neg own]
    split
    · exact .cons also same
    · exact same

/-- What a run has come to: the engine, and for each key what its calls have been answered and what its cycles
have resulted in, the latest first. -/
structure Series (S : Type) where
  engine : Engine S
  heard : Key → List (Answered S) := fun _ => []
  results : Key → List CycleResult := fun _ => []

/-- What a run has come to for one key. -/
structure Account (S : Type) where
  holding : Holding S
  heard : List (Answered S)
  results : List CycleResult

/-- The same is kept, the same calls have been made and answered, and the results are the same, but for times. -/
structure Account.Alike (blur : Timestamp → Timestamp → Prop) (a a' : Account S) : Prop where
  holding : a.holding.Alike blur a'.holding
  heard : List.Forall₂ (Answered.Alike blur) a.heard a'.heard
  results : a.results = a'.results

theorem Account.Alike.refl (reflexive : ∀ t, blur t t) (a : Account S) : a.Alike blur a :=
  ⟨.refl reflexive a.holding, List.forall₂_same.2 fun _ _ => .refl reflexive _, rfl⟩

namespace Series

/-- What the run has come to for a key. -/
def account (s : Series S) (key : Key) : Account S := ⟨s.engine.holding key, s.heard key, s.results key⟩

/-- What the next cycle meets: its own clock, writes that succeed, and the answers of the service. -/
def around (client : Client S) (round : Round) (heard : List (Answered S)) : Surroundings S :=
  .undisturbed (fun past => round.clock past.length) (fun _ => .written)
    fun past c => client.reply round.key (Deed.answered past ++ heard) c

variable [Spec S]

/-- The run with one more cycle. -/
def step (kind : Kind S) (client : Client S) (s : Series S) (round : Round) : Series S :=
  let ended := (around client round (s.heard round.key)).run round.key (reconcile kind) s.engine []
  { engine := ended.engine
    heard := fun key => if key = round.key then Deed.answered ended.past ++ s.heard key else s.heard key
    results := fun key => if key = round.key then ended.result :: s.results key else s.results key }

/-- The run after cycles, one after another. -/
def run (kind : Kind S) (client : Client S) (s : Series S) (rounds : List Round) : Series S :=
  rounds.foldl (step kind client) s

variable {kind : Kind S} {client : Client S} {s s' : Series S} {key : Key}

/-- A cycle of another key changes nothing for a key. -/
theorem step_other (kind : Kind S) (client : Client S) (s : Series S) {round : Round} (apart : round.key ≠ key) :
    (s.step kind client round).account key = s.account key := by
  simp only [account, step, if_neg apart.symm, Surroundings.run_holding_other _ apart.symm]

/-- What a cycle comes to for its key depends on nothing but what the run has come to for this key. -/
theorem step_own (kind : Kind S) (blind : client.Blind blur) {round round' : Round}
    (same : round.Alike blur round')
    (alike : (s.account round.key).Alike blur (s'.account round.key)) :
    ((s.step kind client round).account round.key).Alike blur
      ((s'.step kind client round').account round.key) := by
  obtain ⟨key, clock⟩ := round
  obtain ⟨key', clock'⟩ := round'
  obtain rfl : key = key' := same.key
  have around : (around client ⟨key, clock⟩ (s.heard key)).Alike blur
      (around client ⟨key, clock'⟩ (s'.heard key)) := by
    refine ⟨fun past past' done => ?_, fun past past' c c' done about => ?_⟩
    · simp only [Series.around, Surroundings.undisturbed, done.length]
      exact same.clock _
    · exact blind key _ _ c c' (List.rel_append done.answered alike.heard) about
  obtain ⟨result, kept, done⟩ := Surroundings.run_alike around rfl rfl (reconcile_sameBy kind)
    (Cycle.reconcile_along kind) (Cycle.reconcile_along kind) alike.holding .nil
  simp only [account, step, if_pos]
  exact ⟨kept, List.rel_append done.answered alike.heard, congr_arg₂ List.cons result alike.results⟩

private theorem run_others (kind : Kind S) (client : Client S) (s : Series S) {rounds : List Round}
    (apart : ∀ round ∈ rounds, round.key ≠ key) : (s.run kind client rounds).account key = s.account key := by
  induction rounds generalizing s with
  | nil => rfl
  | cons round rest ih =>
    have first := s.step_other kind client (apart round List.mem_cons_self)
    exact (ih _ fun other member => apart other (List.mem_cons_of_mem round member)).trans first

/-- What a run comes to for a key depends on the cycles of this key and on their order only. -/
theorem run_alike (blind : client.Blind blur) {rounds rounds' : List Round}
    (same : List.Forall₂ (Round.Alike blur) (rounds.filter (·.key = key)) (rounds'.filter (·.key = key)))
    (alike : (s.account key).Alike blur (s'.account key)) :
    ((s.run kind client rounds).account key).Alike blur ((s'.run kind client rounds').account key) := by
  induction rounds generalizing rounds' s s' with
  | nil =>
    have apart : ∀ round ∈ rounds', round.key ≠ key := by
      simpa using List.forall₂_nil_left_iff.1 same
    rw [run_others kind client s' apart]
    exact alike
  | cons round rest ih =>
    by_cases own : round.key = key
    · subst own
      rw [List.filter_cons_of_pos (by simp)] at same
      -- the cycle that corresponds to the first one comes after cycles of other keys
      obtain ⟨round', own', first, others, split⟩ := List.forall₂_cons_left_iff.1 same
      obtain ⟨before, after, rfl, apart, -, rfl⟩ := List.filter_eq_cons_iff.1 split
      have passed : (s'.run kind client before).account round.key = s'.account round.key :=
        run_others kind client s' (by simpa using apart)
      have next := step_own kind blind first (passed.symm ▸ alike)
      simpa [run] using ih others next
    · rw [List.filter_cons_of_neg (by simpa using own)] at same
      have passed := s.step_other kind client own
      exact ih same (passed.symm ▸ alike)

/-- Take any run of cycles over any engine, with writes that succeed and a service whose answers about an object
depend on nothing but this object and the calls about it so far, and put the cycles into another order that keeps
those of each key in theirs, as by letting two of different keys change places. For every key the cycles have the
same results, the same calls are made, and the same object and unrecorded identifier are left, up to times that
the service does not tell apart: it may be blind to all of them, and then the clocks do not matter either. -/
theorem cycles_of_different_objects_commute (kind : Kind S) (client : Client S)
    (blur : Timestamp → Timestamp → Prop) (reflexive : ∀ t, blur t t) (blind : client.Blind blur)
    {rounds rounds' : List Round} (reordered : Round.Reordered blur rounds rounds') (s : Series S) (key : Key) :
    ((s.run kind client rounds).account key).Alike blur ((s.run kind client rounds').account key) := by
  have start : (s.account key).Alike blur (s.account key) := .refl reflexive _
  exact run_alike blind (reordered key) start

section Address

/-- Two addresses, of which the second has a resource. -/
private def web : Declared FloatingIpSpec where
  key := ⟨"floating_ip", "web"⟩
  spec := { projectId := "p", isp := "BGP", bandwidth := 1 }

private def mail : Declared FloatingIpSpec where
  key := ⟨"floating_ip", "mail"⟩
  spec := { projectId := "p", isp := "BGP", bandwidth := 2 }
  recordedId := some "ip-0"

/-- A service that finds nothing, and numbers what it creates by what it has been asked about the object. -/
private def registry : Client FloatingIpSpec where
  reply _ heard c :=
    let id := "ip-" ++ toString heard.length
    (⟨some (.ok .absent), some (.ok id), none, none, some (.ok none)⟩ : Replies).to c

/-- New Year's Day 2026. -/
private def newYear : Timestamp := (Timestamp.ofNanos? 1767225600000000000).getD .epoch

/-- A cycle of the one address and two of the other, and the same with the first two the other way round and
their clocks exchanged. The resource of the other is gone, and is made again. -/
theorem cycles_of_different_objects_commute_address :
    let start : Series FloatingIpSpec :=
      { engine := { store := { objects := .ofList [(web.key, web), (mail.key, mail)] } } }
    let early (o : Declared FloatingIpSpec) : Round := ⟨o.key, fun _ => .epoch⟩
    let late (o : Declared FloatingIpSpec) : Round := ⟨o.key, fun _ => newYear⟩
    let ended := start.run FloatingIp.service.toKind registry [early web, late mail, late mail]
    let ended' := start.run FloatingIp.service.toKind registry [early mail, late web, late mail]
    (∀ key, (ended.account key).Alike (fun _ _ => True) (ended'.account key)) ∧
      ended.results web.key = [.ok .created] ∧ ended.results mail.key = [.ok .created, .ok .recreate] ∧
      (ended.engine.store.get? mail.key).bind Declared.externalId = some "ip-2" := by
  intro start early late ended ended'
  have blind : registry.Blind fun _ _ => True := by
    intro key heard heard' c c' same _
    refine ⟨_, rfl, ?_⟩
    simp only [registry, same.length_eq]
  have alike (o : Declared FloatingIpSpec) (clock clock' : Nat → Timestamp) :
      Round.Alike (fun _ _ => True) ⟨o.key, clock⟩ ⟨o.key, clock'⟩ := ⟨rfl, fun _ => trivial⟩
  have reordered : Round.Reordered (fun _ _ => True) [early web, late mail, late mail]
      [early mail, late web, late mail] := .swap (fun _ => trivial) (by decide) (alike web _ _) (alike mail _ _) _
  have commutes := cycles_of_different_objects_commute FloatingIp.service.toKind registry (fun _ _ => True)
    (fun _ => trivial) blind reordered start
  exact ⟨commutes, by decide +kernel, by decide +kernel, by decide +kernel⟩

end Address

end Series

end CloudKeeper
