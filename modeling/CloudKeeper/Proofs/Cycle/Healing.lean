import CloudKeeper.Kind.Volume
import CloudKeeper.Proofs.Cycle.Wanted
import CloudKeeper.Proofs.SortedMap
import CloudKeeper.Time.Epoch
/-!
One cycle after another brings an object to rest. Failures may have left any identifier behind, recorded or
not, of a resource that is there, has drifted or is gone. As long as the service is honest from now on and
the store writes, the object is available after six cycles at most. A measure tells how many are left, and
each cycle makes it smaller. From then on a cycle looks at the resource and does nothing.

What is assumed, and said as a structure, is that the service shows exactly the resources that there are,
finds none that is not there, and does what it is told. An empty text counts as no identifier here, as it does
in the store, so the service never gives one.
-/
namespace CloudKeeper

variable {S : Type}

/-- A service that behaves honestly, with nothing in the way of a cycle. The resources are those that there
are after some deeds, by identifier. -/
structure Honest (kind : Kind S) (s : Surroundings S)
    (resources : List (Deed S) → String → Option RemoteResource) : Prop where
  running : ∀ past, s.stopped past = false
  written : ∀ past, s.write past = .written
  named : ∀ past id r, resources past id = some r → r.id = id
  ready : ∀ past id r, resources past id = some r → kind.readiness r = .ready
  /-- What is done on this side is nothing to the service. -/
  acted : ∀ past action reply, resources (.acted action reply :: past) = resources past
  observe : ∀ past o id,
    (∃ r, resources past id = some r ∧ s.answer past (.observe o id) = some (.ok (.present r))) ∨
      resources past id = none ∧ (s.answer past (.observe o id) = some (.ok .absent) ∨
        s.answer past (.observe o id) = some (.error .notFound))
  observed : ∀ past o id reply, resources (.called (.observe o id) reply :: past) = resources past
  lookup : ∀ past o, s.answer past (.lookup o) = some (.ok none) ∨
    ∃ id r, id ≠ "" ∧ resources past id = some r ∧ s.answer past (.lookup o) = some (.ok (some id))
  lookedUp : ∀ past o reply, resources (.called (.lookup o) reply :: past) = resources past
  create : ∀ past o, ∃ id r, id ≠ "" ∧ resources past id = none ∧
    s.answer past (.create o) = some (.ok id) ∧ kind.isUpToDate o.spec r = true ∧
    ∀ other, resources (.called (.create o) (some (.ok id)) :: past) other =
      if other = id then some r else resources past other
  update : ∀ past o id r, resources past id = some r →
    s.answer past (.update o r) = some (.ok ()) ∧ ∃ r', kind.isUpToDate o.spec r' = true ∧
    ∀ other, resources (.called (.update o r) (some (.ok ())) :: past) other =
      if other = id then some r' else resources past other

/-- How many cycles it takes at most until an object is available, given the identifiers that are kept for it
and the resources that there are. -/
def cyclesLeft (kind : Kind S) (spec : S) (h : Custody) (resources : String → Option RemoteResource) :
    Nat :=
  match h.recorded with
  | some id =>
    match resources id with
    | some r => if kind.isUpToDate spec r then 1 else 2
    | none => if h.unrecorded = none then 4 else 6
  | none => if h.unrecorded = none then 3 else 5

theorem cyclesLeft_bounds (kind : Kind S) (spec : S) (h : Custody)
    (resources : String → Option RemoteResource) :
    0 < cyclesLeft kind spec h resources ∧ cyclesLeft kind spec h resources ≤ 6 := by
  unfold cyclesLeft
  split
  · split
    · split <;> omega
    · split <;> omega
  · split <;> omega

section Cycles

variable [Spec S] {kind : Kind S} {s : Surroundings S}
  {resources : List (Deed S) → String → Option RemoteResource} {key : Key} {e : Engine S} {spec : S}
  {h : Custody} {past : List (Deed S)} {id : String}

omit [Spec S] in
theorem Honest.replies (honest : Honest kind s resources) (past : List (Deed S)) (c : RemoteCall S) :
    s.reply past c = s.answer past c := by
  simp only [Surroundings.reply, honest.running, Bool.false_eq_true, if_false]

omit [Spec S] in
theorem Honest.shows (honest : Honest kind s resources) (o : Declared S) {r : RemoteResource}
    (stands : resources past id = some r) :
    s.answer past (.observe o id) = some (.ok (.present r)) := by
  rcases honest.observe past o id with ⟨r', there, observes⟩ | ⟨none, -⟩
  · cases stands.symm.trans there
    exact observes
  · cases stands.symm.trans none

omit [Spec S] in
theorem Honest.misses (honest : Honest kind s resources) (o : Declared S)
    (gone : resources past id = none) :
    s.answer past (.observe o id) = some (.ok .absent) ∨
      s.answer past (.observe o id) = some (.error .notFound) := by
  rcases honest.observe past o id with ⟨r, there, -⟩ | ⟨-, misses⟩
  · cases gone.symm.trans there
  · exact misses

/-- A cycle brings its object nearer to being available. -/
def Nears (kind : Kind S) (resources : List (Deed S) → String → Option RemoteResource) (key : Key)
    (spec : S) (left : Nat) (ended : Upshot S CycleResult) : Prop :=
  ∃ h, ended.engine.Wants key spec h ∧ h.unrecorded ≠ some "" ∧
    cyclesLeft kind spec h (resources ended.past) < left

/-- A resource that has drifted is updated. -/
private theorem update_nears (honest : Honest kind s resources) (wants : e.Wants key spec h)
    (given : h.unrecorded ≠ some "") (valid : kind.validate spec = .ok ())
    (recorded : h.recorded = some id) {r : RemoteResource} (stands : resources past id = some r)
    (drifted : kind.isUpToDate spec r = false) :
    Nears kind resources key spec 2 (s.run key (reconcile kind) e past) := by
  obtain ⟨o, found, rfl, wanted, own⟩ := wants.declared
  have seen : resources (.acted .read (some o) :: past) id = some r :=
    (congrFun (honest.acted ..) id).trans stands
  have still : resources (.called (.observe o id) (some (.ok (.present r))) ::
      .acted .read (some o) :: past) id = some r := (congrFun (honest.observed ..) id).trans seen
  have ready := honest.ready past id r stands
  obtain ⟨updates, r', matching, after⟩ := honest.update _ o id r still
  rw [s.run_recorded kind found wanted (own.trans recorded)]
  simp only [Reconcile.observe, Cycle.bind, Surroundings.run, honest.replies, honest.shows o seen,
    Reconcile.found, ready, drifted, Bool.false_eq_true, if_false, Reconcile.validated, valid,
    Reconcile.calling, updates, Cycle.publishing, Reconcile.finish, Reconcile.noted]
  refine ⟨h, wants.publish _ _ _, given, ?_⟩
  simp only [cyclesLeft, recorded, honest.acted, after, if_true, matching]
  omega

/-- The identifier of a resource that is gone is taken back. -/
private theorem recreate_nears (honest : Honest kind s resources)
    (recreates : kind.policy.onAbsent = .recreate) (wants : e.Wants key spec h)
    (given : h.unrecorded ≠ some "") (recorded : h.recorded = some id)
    (gone : resources past id = none) :
    Nears kind resources key spec (if h.unrecorded = none then 4 else 6)
      (s.run key (reconcile kind) e past) := by
  obtain ⟨o, found, -, wanted, own⟩ := wants.declared
  have unseen : resources (.acted .read (some o) :: past) id = none :=
    (congrFun (honest.acted ..) id).trans gone
  rw [s.run_recorded kind found wanted (own.trans recorded)]
  have forgets : ∀ past, Nears kind resources key spec (if h.unrecorded = none then 4 else 6)
      (s.run key ((Reconcile.absent kind id).bind Reconcile.noted) e past) := by
    intro past
    obtain ⟨after, held, published, forgets⟩ := s.run_absent honest.written recreates wants past
    rw [forgets]
    refine ⟨_, held, given, ?_⟩
    simp only [cyclesLeft]
    split <;> omega
  simp only [Reconcile.observe, Cycle.bind, Surroundings.run, honest.replies]
  rcases honest.misses o unseen with misses | misses
  · simp only [misses]
    exact forgets _
  · simp only [misses]
    exact forgets _

private theorem record_nears (honest : Honest kind s resources) (wants : e.Wants key spec h)
    (unrecorded : h.recorded = none) (given : id ≠ "") {left : Nat}
    (fewer : cyclesLeft kind spec ⟨some id, none⟩ (resources past) < left) :
    Nears kind resources key spec left
      (s.run key ((Reconcile.record id (Reconcile.finish .recovered)).bind Reconcile.noted) e past) := by
  obtain ⟨after, held, records⟩ := s.run_record honest.written wants unrecorded given
    (Reconcile.finish .recovered) past
  rw [records]
  refine ⟨_, held, nofun, ?_⟩
  simp only [Reconcile.finish, Cycle.bind, Reconcile.noted, Surroundings.run, honest.acted]
  exact fewer

/-- A remembered identifier is recorded, whether or not there is such a resource. -/
private theorem recover_nears (honest : Honest kind s resources) (wants : e.Wants key spec h)
    (unrecorded : h.recorded = none) (remembered : h.unrecorded = some id) (given : id ≠ "") :
    Nears kind resources key spec 5 (s.run key (reconcile kind) e past) := by
  obtain ⟨o, found, -, wanted, own⟩ := wants.declared
  rw [s.run_unrecorded kind found wanted (own.trans unrecorded)]
  simp only [Reconcile.create, Cycle.bind, Surroundings.run, wants.recall, remembered]
  refine record_nears honest wants unrecorded given ?_
  simp only [cyclesLeft]
  split
  · split <;> omega
  · simp

/-- Where no identifier is left a resource is found or created. -/
private theorem obtain_nears (honest : Honest kind s resources) (wants : e.Wants key spec h)
    (valid : kind.validate spec = .ok ()) (unrecorded : h.recorded = none)
    (forgotten : h.unrecorded = none) :
    Nears kind resources key spec 3 (s.run key (reconcile kind) e past) := by
  obtain ⟨o, found, rfl, wanted, own⟩ := wants.declared
  rcases honest.lookup (.acted .recall none :: .acted .read (some o) :: past) o with
    misses | ⟨id, r, given, there, finds⟩
  · obtain ⟨id, r, given, -, creates, matching, after⟩ := honest.create
      (.called (.lookup o) (some (.ok none)) :: .acted .recall none :: .acted .read (some o) :: past) o
    obtain ⟨recorded, held, _, _, made⟩ := s.run_created honest.written wants unrecorded forgotten valid
      found past ((honest.replies ..).trans misses) ((honest.replies ..).trans creates) given
    rw [made]
    refine ⟨_, held, nofun, ?_⟩
    simp only [cyclesLeft, honest.acted, after, if_true, matching]
    omega
  · rw [s.run_unrecorded kind found wanted (own.trans unrecorded)]
    simp only [Reconcile.create, Cycle.bind, Surroundings.run, wants.recall, forgotten,
      Reconcile.validated, valid, Reconcile.calling, honest.replies, finds]
    refine record_nears honest wants unrecorded given ?_
    have still := (congrFun (honest.lookedUp _ o (some (.ok (some id)))) id).trans there
    simp only [cyclesLeft, still]
    split <;> omega

/-- Until it is available, every cycle brings an object nearer to it. -/
private theorem nears (honest : Honest kind s resources) (recreates : kind.policy.onAbsent = .recreate)
    (wants : e.Wants key spec h) (given : h.unrecorded ≠ some "")
    (valid : kind.validate spec = .ok ()) (more : cyclesLeft kind spec h (resources past) ≠ 1) :
    Nears kind resources key spec (cyclesLeft kind spec h (resources past))
      (s.run key (reconcile kind) e past) := by
  cases recorded : h.recorded with
  | some id =>
    cases stands : resources past id with
    | none =>
      simp only [cyclesLeft, recorded, stands]
      exact recreate_nears honest recreates wants given recorded stands
    | some r =>
      simp only [cyclesLeft, recorded, stands] at more ⊢
      split at more
      case isTrue => exact absurd rfl more
      case isFalse drifted =>
        rw [if_neg drifted]
        exact update_nears honest wants given valid recorded stands (Bool.eq_false_iff.2 drifted)
  | none =>
    cases remembered : h.unrecorded with
    | none =>
      simp only [cyclesLeft, recorded, remembered, if_true]
      exact obtain_nears honest wants valid recorded remembered
    | some id =>
      simp only [cyclesLeft, recorded, remembered, reduceCtorEq, if_false]
      refine recover_nears honest wants recorded remembered ?_
      rintro rfl
      exact given remembered

/-! ## At rest -/

/-- The conditions of an object show that it is available and in sync. -/
def Engine.ShowsAvailable (e : Engine S) (key : Key) : Prop :=
  ∃ o, e.store.get? key = some o ∧ publishChanges .available o.conditions = false ∧
    publishChanges .reconcileSuccess o.conditions = false

/-- Whether a deed is a call that may change the remote side. -/
def Deed.isMutating : Deed S → Bool
  | .acted _ _ => false
  | .called c _ => c.isMutating

/-- A cycle has found its object available, and has changed nothing on the remote side. -/
structure Upshot.Rests (ended : Upshot S CycleResult) (past : List (Deed S)) : Prop where
  available : ended.result = .ok .available
  idle : ∃ own, ended.past = own ++ past ∧ ∀ deed ∈ own, deed.isMutating = false

private theorem get_publish {o : Declared S} (found : e.store.get? key = some o)
    (now : Time.Timestamp) (write : WriteOutcome) (state : ConditionState) :
    (e.perform { now, write } key (.publish state)).1.store.get? key = some (o.withState state now) := by
  simp only [Engine.perform, Engine.onStore, Store.setCondition, found]
  exact (SortedMap.get?_insert ..).trans (if_pos rfl)

/-- To publish what is shown already changes nothing. -/
private theorem publish_shown {o : Declared S} (found : e.store.get? key = some o)
    {state : ConditionState} (shown : publishChanges state o.conditions = false)
    (now : Time.Timestamp) (write : WriteOutcome) :
    (e.perform { now, write } key (.publish state)).1 = e := by
  have same : o.withState state now = o := by
    rw [Declared.withState, publish_of_unchanged shown]
  have objects : e.store.objects.insert key o = e.store.objects := SortedMap.insert_of_get found
  simp only [Engine.perform, Engine.onStore, Store.setCondition, found, same, Store.put, objects]

/-- The engine after an object has been shown to be available shows it, and is as it was if it did so
before. -/
private theorem shows_available (wants : e.Wants key spec h) (now now' : Time.Timestamp)
    (write write' : WriteOutcome) :
    let after := ((e.perform { now, write } key (.publish .available)).1.perform
      { now := now', write := write' } key (.publish .reconcileSuccess)).1
    after.ShowsAvailable key ∧ (e.ShowsAvailable key → after = e) := by
  constructor
  · obtain ⟨o, found, -⟩ := wants.declared
    have apart : ConditionState.reconcileSuccess.type ≠ ConditionState.available.type := nofun
    refine ⟨_, get_publish (get_publish found now write .available) now' write' .reconcileSuccess, ?_, ?_⟩
    · exact (publishChanges_publish apart now' _).trans (publish_settles .available now o.conditions)
    · exact publish_settles .reconcileSuccess now' _
  · rintro ⟨o, found, available, synced⟩
    rw [publish_shown found available, publish_shown found synced]

omit [Spec S] in
theorem cyclesLeft_eq_one {world : String → Option RemoteResource}
    (left : cyclesLeft kind spec h world = 1) : ∃ id r, h.recorded = some id ∧ world id = some r ∧
      kind.isUpToDate spec r = true := by
  cases recorded : h.recorded with
  | none =>
    simp only [cyclesLeft, recorded] at left
    split at left <;> cases left
  | some id =>
    cases stands : world id with
    | none =>
      simp only [cyclesLeft, recorded, stands] at left
      split at left <;> cases left
    | some r =>
      simp only [cyclesLeft, recorded, stands] at left
      split at left
      case isTrue matching => exact ⟨id, r, rfl, stands, matching⟩
      case isFalse => cases left

/-- A cycle finds its object available when there is one left to it. -/
private theorem rests (honest : Honest kind s resources) (wants : e.Wants key spec h)
    (left : cyclesLeft kind spec h (resources past) = 1) :
    let ended := s.run key (reconcile kind) e past
    ended.Rests past ∧ ended.engine.Wants key spec h ∧ resources ended.past = resources past ∧
      ended.engine.ShowsAvailable key ∧ (e.ShowsAvailable key → ended.engine = e) := by
  obtain ⟨id, r, recorded, stands, matching⟩ := cyclesLeft_eq_one left
  obtain ⟨o, found, rfl, wanted, own⟩ := wants.declared
  have seen : resources (.acted .read (some o) :: past) id = some r :=
    (congrFun (honest.acted ..) id).trans stands
  have ready := honest.ready past id r stands
  rw [s.run_recorded kind found wanted (own.trans recorded)]
  simp only [Reconcile.observe, Cycle.bind, Surroundings.run, honest.replies, honest.shows o seen,
    Reconcile.found, ready, matching, if_true, Cycle.publishing, Reconcile.finish, Reconcile.noted,
    honest.acted, honest.observed, true_and]
  refine ⟨⟨rfl, ?_⟩, (wants.publish _ _ _).publish _ _ _, shows_available wants _ _ _ _⟩
  refine ⟨[_, _, _, _], rfl, ?_⟩
  simp [Deed.isMutating, RemoteCall.isMutating, RemoteCall.operation]

/-- The cycle that follows a number of others. -/
def Surroundings.cycleAfter (s : Surroundings S) (kind : Kind S) (key : Key) :
    Nat → Engine S → List (Deed S) → Upshot S CycleResult
  | 0, e, past => s.run key (reconcile kind) e past
  | n + 1, e, past =>
    let first := s.run key (reconcile kind) e past
    s.cycleAfter kind key n first.engine first.past

/-- Once an object has been found available, every further cycle finds it so and changes nothing. -/
private theorem stays_available (honest : Honest kind s resources) (wants : e.Wants key spec h)
    (left : cyclesLeft kind spec h (resources past) = 1) (m : Nat) :
    let ended := s.cycleAfter kind key m e past
    let next := s.cycleAfter kind key (m + 1) e past
    next.Rests ended.past ∧ next.engine = ended.engine := by
  induction m generalizing e past with
  | zero =>
    obtain ⟨-, still, same, shows, -⟩ := rests honest wants left
    rw [← same] at left
    obtain ⟨rests, -, -, -, settled⟩ := rests honest still left
    exact ⟨rests, settled shows⟩
  | succ m ih =>
    obtain ⟨-, still, same, -⟩ := rests honest wants left
    rw [← same] at left
    exact ih still left

/-- An object is available after at most as many cycles as are left to it. -/
private theorem available_within (honest : Honest kind s resources)
    (recreates : kind.policy.onAbsent = .recreate) (valid : kind.validate spec = .ok ()) (left : Nat)
    (wants : e.Wants key spec h) (given : h.unrecorded ≠ some "")
    (within : cyclesLeft kind spec h (resources past) ≤ left) :
    ∃ n < left, (s.cycleAfter kind key n e past).result = .ok .available ∧ ∀ m ≥ n,
      let ended := s.cycleAfter kind key m e past
      let next := s.cycleAfter kind key (m + 1) e past
      next.Rests ended.past ∧ next.engine = ended.engine := by
  induction left generalizing e past h with
  | zero =>
    have some_left := (cyclesLeft_bounds kind spec h (resources past)).1
    omega
  | succ left ih =>
    by_cases last : cyclesLeft kind spec h (resources past) = 1
    · refine ⟨0, Nat.succ_pos left, (rests honest wants last).1.available, fun m _ => ?_⟩
      exact stays_available honest wants last m
    · obtain ⟨h', wants, given, fewer⟩ := nears honest recreates wants given valid last
      obtain ⟨n, before, available, after⟩ := ih wants given (Nat.le_of_lt_succ (Nat.lt_of_lt_of_le fewer within))
      refine ⟨n + 1, Nat.succ_lt_succ before, available, fun m later => ?_⟩
      obtain ⟨m, rfl⟩ : ∃ k, m = k + 1 := ⟨m - 1, by omega⟩
      exact after m (by omega)

end Cycles

/-- A declared object is healed, whatever failures have left behind: any identifier recorded or remembered,
of a resource that is there or not, and any conditions. While the service behaves honestly and the store
writes, one of the first six cycles finds the object available. From then on every cycle does, makes no call
that changes anything, and leaves the store and the remembered identifiers exactly as they are. -/
theorem Surroundings.heals_within_six_cycles [Spec S] {kind : Kind S} {s : Surroundings S}
    {resources : List (Deed S) → String → Option RemoteResource} (honest : Honest kind s resources)
    (recreates : kind.policy.onAbsent = .recreate) (key : Key) (e : Engine S) (o : Declared S)
    (declared : e.store.get? key = some o) (wanted : o.isDeletionRequested = false)
    (valid : kind.validate o.spec = .ok ()) (given : e.unrecorded.get? key ≠ some "") :
    ∃ n < 6, (s.cycleAfter kind key n e []).result = .ok .available ∧ ∀ m ≥ n,
      let ended := s.cycleAfter kind key m e []
      let next := s.cycleAfter kind key (m + 1) e []
      next.Rests ended.past ∧ next.engine = ended.engine :=
  available_within honest recreates valid 6 (Engine.wants_of_get declared wanted) given
    (cyclesLeft_bounds ..).2

/-! ## A rack of volumes

A service as simple as it can be: it makes and updates volumes as it is told, and finds none. -/

namespace Volume.Rack

/-- A volume that matches its parameters. -/
def volume (id : String) (spec : VolumeSpec) : RemoteResource where
  id := id
  state := "available"
  attributes := [("description", .string spec.description), ("name", .string spec.name)]

/-- The volume that a deed makes or updates: its identifier and the parameters that it then matches. -/
def placed? : Deed VolumeSpec → Option (String × VolumeSpec)
  | .called (.create o) (some (.ok id)) => some (id, o.spec)
  | .called (.update o r) (some (.ok ())) => some (r.id, o.spec)
  | _ => none

/-- The volumes that there are after some deeds. -/
def volumes : List (Deed VolumeSpec) → String → Option RemoteResource
  | [], _ => none
  | deed :: past, other =>
    match placed? deed with
    | none => volumes past other
    | some (id, spec) => if other = id then some (volume id spec) else volumes past other

/-- How long the identifiers of volumes are at most. -/
def longest : List (Deed VolumeSpec) → Nat
  | [] => 0
  | deed :: past =>
    match placed? deed with
    | none => longest past
    | some (id, _) => max id.length (longest past)

/-- An identifier that no volume has. -/
def freshId (past : List (Deed VolumeSpec)) : String :=
  String.ofList (List.replicate (longest past + 1) 'v')

def surroundings : Surroundings VolumeSpec :=
  .undisturbed (fun _ => .epoch) (fun _ => .written) fun past => fun
    | .observe _ id => some (.ok ((volumes past id).elim .absent .present))
    | .lookup _ => some (.ok none)
    | .create _ => some (.ok (freshId past))
    | .update .. => some (.ok ())
    | .delete .. => some (.error .notFound)

private theorem volumes_cases {past : List (Deed VolumeSpec)} {id : String} {r : RemoteResource}
    (found : volumes past id = some r) : (∃ spec, r = volume id spec) ∧ id.length ≤ longest past := by
  induction past with
  | nil => cases found
  | cons deed past ih =>
    simp only [volumes] at found
    simp only [longest]
    cases places : placed? deed with
    | none =>
      simp only [places] at found
      exact ih found
    | some place =>
      simp only [places] at found
      split at found
      case isTrue own =>
        cases found
        exact ⟨⟨place.2, own ▸ rfl⟩, own ▸ Nat.le_max_left ..⟩
      case isFalse =>
        obtain ⟨shape, short⟩ := ih found
        exact ⟨shape, Nat.le_trans short (Nat.le_max_right ..)⟩

private theorem fresh (past : List (Deed VolumeSpec)) : volumes past (freshId past) = none := by
  cases found : volumes past (freshId past) with
  | none => rfl
  | some r =>
    have short := (volumes_cases found).2
    simp only [freshId, String.length_ofList, List.length_replicate] at short
    omega

private theorem isUpToDate_volume (id : String) (spec : VolumeSpec) :
    Volume.isUpToDate spec (volume id spec) = true := by
  simp [Volume.isUpToDate, RemoteResource.text, RemoteResource.attribute?, volume,
    Json.Value.member?, Json.Value.string?]

theorem honest (deployment : String) :
    Honest (Volume.service deployment).toKind surroundings volumes where
  running _ := rfl
  written _ := rfl
  named past id r found := by
    obtain ⟨spec, rfl⟩ := (volumes_cases found).1
    rfl
  ready past id r found := by
    obtain ⟨spec, rfl⟩ := (volumes_cases found).1
    rfl
  acted past action reply := rfl
  observe past o id := by
    cases found : volumes past id with
    | some r => exact .inl ⟨r, rfl, by simp [surroundings, Surroundings.undisturbed, found]⟩
    | none => exact .inr ⟨rfl, .inl (by simp [surroundings, Surroundings.undisturbed, found])⟩
  observed past o id reply := rfl
  lookup past o := .inl rfl
  lookedUp past o reply := rfl
  create past o := by
    refine ⟨freshId past, volume (freshId past) o.spec, ?_, fresh past, rfl, isUpToDate_volume _ _, ?_⟩
    · intro empty
      have length := congrArg String.length empty
      simp [freshId] at length
    · intro other
      rfl
  update past o id r found := by
    obtain ⟨spec, rfl⟩ := (volumes_cases found).1
    exact ⟨rfl, volume id o.spec, isUpToDate_volume _ _, fun other => rfl⟩

end Volume.Rack

/-- A volume whose recorded identifier and whose remembered one are both of volumes that are gone. -/
theorem Surroundings.heals_within_six_cycles_volume :
    let key : Key := ⟨"volume", "data"⟩
    let spec : VolumeSpec := { name := "data", projectId := "p", size := 1, volumeType := "ssd" }
    let o : Declared VolumeSpec := { key, spec, recordedId := some "gone" }
    let e : Engine VolumeSpec :=
      { store := { objects := .ofList [(key, o)] }, unrecorded := .ofList [(key, "lost")] }
    let cycleAfter (n : Nat) : Upshot VolumeSpec CycleResult :=
      Volume.Rack.surroundings.cycleAfter (Volume.service "lab").toKind key n e []
    o.isDeletionRequested = false ∧ e.unrecorded.get? key ≠ some "" ∧
      ∃ n < 6, (cycleAfter n).result = .ok .available ∧ ∀ m ≥ n,
        (cycleAfter (m + 1)).Rests (cycleAfter m).past ∧
          (cycleAfter (m + 1)).engine = (cycleAfter m).engine := by
  intro key spec o e cycleAfter
  have given : e.unrecorded.get? key ≠ some "" := by decide
  have found : e.store.get? key = some o := (SortedMap.get?_insert ..).trans (if_pos rfl)
  have valid : (Volume.service "lab").validate spec = .ok () := by cbv
  exact ⟨rfl, given, heals_within_six_cycles (Volume.Rack.honest "lab") rfl key e o found rfl valid given⟩

end CloudKeeper
