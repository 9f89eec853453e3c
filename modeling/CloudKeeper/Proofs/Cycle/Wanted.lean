import CloudKeeper.Proofs.Cycle.Custody
import CloudKeeper.Proofs.Cycle.Solo
/-!
An object that its author wants, while nobody interferes and every write succeeds. Where it stands is told by
the parameters and the identifiers that are kept for it, and each action of a cycle moves it from one such
place to another.
-/
namespace CloudKeeper

variable {S : Type}

/-- Where an object stands whose author wants some parameters: the identifiers that are kept for it. -/
structure Engine.Wants (e : Engine S) (key : Key) (spec : S) (h : Custody) : Prop where
  custody : e.custody key = h
  intent : e.store.objects.intent? key = some (spec, false)

/-- An object whose deletion is not requested is wanted as it is declared. -/
theorem Engine.wants_of_get {e : Engine S} {key : Key} {o : Declared S} (found : e.store.get? key = some o)
    (wanted : o.isDeletionRequested = false) : e.Wants key o.spec (e.custody key) where
  custody := rfl
  intent := by
    rw [SortedMap.intent?, show e.store.objects.get? key = some o from found, Option.map_some,
      Declared.intent, wanted]

namespace Engine.Wants

variable {e : Engine S} {key : Key} {spec : S} {h : Custody}

/-- There is an object. -/
theorem declared (wants : e.Wants key spec h) : ∃ o, e.store.get? key = some o ∧ o.spec = spec ∧
    o.isDeletionRequested = false ∧ o.externalId = h.recorded := by
  obtain ⟨o, found, intent⟩ := Option.map_eq_some_iff.1 wants.intent
  have recorded : (e.store.objects.get? key).bind Declared.externalId = h.recorded :=
    congrArg Custody.recorded wants.custody
  rw [found] at recorded
  exact ⟨o, found, congrArg Prod.fst intent, congrArg Prod.snd intent, recorded⟩

variable [Spec S] {now : Time.Timestamp} {id : String}

theorem publish (wants : e.Wants key spec h) (now : Time.Timestamp) (write : WriteOutcome)
    (state : ConditionState) :
    (e.perform { now, write } key (.publish state)).1.Wants key spec h where
  custody := (e.perform_custody { now, write } key (.publish state) rfl).trans wants.custody
  intent := (e.perform_intent now write key key (.publish state) nofun).trans wants.intent

/-- The identifier that is remembered is told. -/
theorem «recall» (wants : e.Wants key spec h) (c : Circumstances) :
    e.perform c key .recall = (e, h.unrecorded) :=
  congrArg (e, ·) (congrArg Custody.unrecorded wants.custody)

theorem discard (wants : e.Wants key spec h) (now : Time.Timestamp) (write : WriteOutcome) :
    (e.perform { now, write } key .discard).1.Wants key spec ⟨h.recorded, none⟩ where
  custody := wants.custody ▸ e.perform_custody { now, write } key .discard rfl
  intent := (e.perform_intent now write key key .discard nofun).trans wants.intent

/-- An identifier that can be written is taken back. -/
theorem clear (wants : e.Wants key spec h) (now : Time.Timestamp) :
    ∃ after : Engine S, e.perform { now, write := .written } key .clearId = (after, .ok ()) ∧
      after.Wants key spec ⟨none, h.unrecorded⟩ := by
  obtain ⟨o, found, -⟩ := wants.declared
  have verdict : ((StoreCall.clearExternalId key).effect e.store.objects).verdict = .ok () := by
    simp only [StoreCall.effect, show e.store.objects.get? key = some o from found]
    split <;> rfl
  have succeeds := (StoreCall.perform_written (.clearExternalId key) e.store).trans verdict
  refine ⟨_, Prod.ext rfl succeeds, ?_, ?_⟩
  · exact wants.custody ▸ e.perform_custody { now, write := .written } key .clearId rfl
  · exact (e.perform_intent now .written key key .clearId (by simp)).trans wants.intent

/-- An identifier is recorded where there was none. -/
theorem record (wants : e.Wants key spec h) (unrecorded : h.recorded = none) (given : id ≠ "")
    (now : Time.Timestamp) :
    ∃ after : Engine S, e.perform { now, write := .written } key (.recordId id) = (after, .ok ()) ∧
      after.Wants key spec ⟨some id, h.unrecorded⟩ := by
  obtain ⟨o, found, -, -, recorded⟩ := wants.declared
  have verdict : ((StoreCall.setExternalId key id).effect e.store.objects).verdict = .ok () := by
    have nonempty : id.isEmpty = false := by simpa [String.isEmpty_iff] using given
    simp only [StoreCall.effect, nonempty, Bool.false_eq_true, if_false,
      show e.store.objects.get? key = some o from found, recorded.trans unrecorded]
    rfl
  have succeeds := (StoreCall.perform_written (.setExternalId key id) e.store).trans verdict
  have custody := e.perform_custody { now, write := .written } key (.recordId id) rfl
  refine ⟨_, Prod.ext rfl succeeds, ?_, ?_⟩
  · have told : (e.perform { now, write := .written } key (.recordId id)).2 = .ok () := succeeds
    rw [told, wants.custody] at custody
    exact custody
  · exact (e.perform_intent now .written key key (.recordId id) (by simp)).trans wants.intent

end Engine.Wants

namespace Surroundings

variable [Spec S] {kind : Kind S} {key : Key} {e : Engine S} {spec : S} {h : Custody} {id : String}

/-- A resource that has been obtained is recorded. -/
theorem run_record (s : Surroundings S) (written : ∀ past, s.write past = .written)
    (wants : e.Wants key spec h) (unrecorded : h.recorded = none) (given : id ≠ "")
    (next : Cycle S CycleResult) (past : List (Deed S)) :
    ∃ after : Engine S, after.Wants key spec ⟨some id, none⟩ ∧
      s.run key ((Reconcile.record id next).bind Reconcile.noted) e past =
        s.run key (next.bind Reconcile.noted) after
          (.acted .discard () :: .acted (.recordId id) (.ok ()) :: past) := by
  obtain ⟨after, records, wants⟩ := wants.record unrecorded given (s.now past)
  refine ⟨_, wants.discard (s.now (.acted (.recordId id) (.ok ()) :: past)) .written, ?_⟩
  simp only [Reconcile.record, Identity.set, Cycle.bind, Surroundings.run, written, records]

/-- The identifier of a resource that is gone is taken back. -/
theorem run_absent (s : Surroundings S) (written : ∀ past, s.write past = .written)
    (recreates : kind.policy.onAbsent = .recreate) (wants : e.Wants key spec h) (past : List (Deed S)) :
    ∃ after : Engine S, after.Wants key spec ⟨none, h.unrecorded⟩ ∧ ∃ published,
      s.run key ((Reconcile.absent kind id).bind Reconcile.noted) e past =
        ⟨.ok .recreate, after,
          .acted (.publish (ConditionState.unavailable.withMessage (Reconcile.goneText id))) published ::
            .acted .clearId (.ok ()) :: past⟩ := by
  obtain ⟨after, clears, wants⟩ := wants.clear (s.now past)
  simp only [Reconcile.absent, recreates, Identity.clear, Cycle.bind, Surroundings.run, written, clears]
  exact ⟨_, wants.publish _ _ _, _, rfl⟩

/-- A cycle of an object for which no identifier is kept creates a resource, unless one is found. -/
theorem run_created (s : Surroundings S) (written : ∀ past, s.write past = .written)
    (wants : e.Wants key spec h) (unrecorded : h.recorded = none) (forgotten : h.unrecorded = none)
    (valid : kind.validate spec = .ok ()) {o : Declared S} (found : e.store.get? key = some o)
    (past : List (Deed S))
    (misses : s.reply (.acted .recall none :: .acted .read (some o) :: past) (.lookup o) =
      some (.ok none))
    (creates : s.reply (.called (.lookup o) (some (.ok none)) :: .acted .recall none ::
      .acted .read (some o) :: past) (.create o) = some (.ok id)) (given : id ≠ "") :
    ∃ after : Engine S, after.Wants key spec ⟨some id, none⟩ ∧ ∃ creating synced,
      s.run key (reconcile kind) e past =
        ⟨.ok .created, after, .acted (.publish .reconcileSuccess) synced ::
          .acted (.publish .creating) creating :: .acted .discard () ::
          .acted (.recordId id) (.ok ()) :: .called (.create o) (some (.ok id)) ::
          .called (.lookup o) (some (.ok none)) :: .acted .recall none ::
          .acted .read (some o) :: past⟩ := by
  obtain ⟨o', found', rfl, wanted, own⟩ := wants.declared
  cases found.symm.trans found'
  rw [s.run_unrecorded kind found wanted (own.trans unrecorded)]
  obtain ⟨recorded, held, records⟩ := s.run_record written wants unrecorded given
    (.publishing .creating (.publishing .reconcileSuccess (Reconcile.finish .created)))
    (.called (.create o) (some (.ok id)) :: .called (.lookup o) (some (.ok none)) ::
      .acted .recall none :: .acted .read (some o) :: past)
  simp only [Reconcile.create, Cycle.bind, run, wants.recall, forgotten, Reconcile.validated, valid,
    Reconcile.calling, misses, creates]
  rw [records]
  exact ⟨_, (held.publish _ _ _).publish _ _ _, _, _, rfl⟩

end Surroundings

end CloudKeeper
