import CloudKeeper.Kind.Family
import CloudKeeper.Proofs.Cycle.Custody
import CloudKeeper.Proofs.Cycle.Run
import CloudKeeper.Time.Epoch
/-!
No remote resource is lost and none is made twice. From the moment a cycle obtains the identifier of a
resource until the remote side confirms that the resource is gone, the engine keeps that identifier at
the end of every cycle and during every remote call, and while it keeps one nothing is created.
-/
namespace CloudKeeper

variable {S α β : Type}

namespace RemoteCall

/-- A reply tells the identifier of a resource that the engine is to keep from now on: one that has been
created, or one that was found when it was to be created. -/
def Obtains : (call : RemoteCall S) → call.Reply → String → Prop
  | .create _, some (.ok id), x => id = x
  | .lookup o, some (.ok (some id)), x => o.isDeletionRequested = false ∧ id = x
  | _, _, _ => False

/-- A reply confirms that a resource is gone, and the kind lets go of it. -/
def Frees (kind : Kind S) : (call : RemoteCall S) → call.Reply → String → Prop
  | .observe _ id, some (.ok .absent), x => kind.policy.onAbsent = .recreate ∧ id = x
  | .observe _ id, some (.error .notFound), x => kind.policy.onAbsent = .recreate ∧ id = x
  | .delete _ id, some (.ok _), x => id = x
  | .delete _ id, some (.error .notFound), x => id = x
  | _, _, _ => False

/-- Only a call that succeeds tells an identifier. -/
private theorem obtains_nothing (c : RemoteCall S) (x : String) :
    ¬c.Obtains none x ∧ ∀ e, ¬c.Obtains (some (.error e)) x := by
  cases c <;> exact ⟨id, fun _ => id⟩

end RemoteCall

namespace Incident

/-- The engine is to keep an identifier for a key from now on. -/
def Obtains (key : Key) (x : String) : Incident S → Prop
  | .answered own call reply => own = key ∧ call.Obtains reply x
  | .recorded .. => False

/-- The engine may let go of an identifier that it keeps for a key. -/
def Frees (kind : Kind S) (key : Key) (x : String) : Incident S → Prop
  | .answered own call reply => own = key ∧ call.Frees kind reply x
  | .recorded .. => False

end Incident

/-- An identifier has been obtained for a key and not been freed since. -/
def Owed (kind : Kind S) (log : List (Incident S)) (key : Key) (x : String) : Prop :=
  ∃ later incident earlier, log = later ++ incident :: earlier ∧ incident.Obtains key x ∧
    ∀ i ∈ later, ¬i.Frees kind key x

private theorem owed_nil {kind : Kind S} {key : Key} {x : String} : ¬Owed kind [] key x := by
  rintro ⟨later, incident, earlier, split, -⟩
  exact absurd split.symm (by simp)

private theorem owed_cons {kind : Kind S} {log : List (Incident S)} {key : Key} {x : String}
    {incident : Incident S} : Owed kind (incident :: log) key x ↔
      incident.Obtains key x ∨ (Owed kind log key x ∧ ¬incident.Frees kind key x) := by
  constructor
  · rintro ⟨later, last, earlier, split, obtains, kept⟩
    cases later with
    | nil =>
      cases split
      exact .inl obtains
    | cons head later =>
      cases split
      refine .inr ⟨⟨later, last, earlier, rfl, obtains, ?_⟩, kept _ List.mem_cons_self⟩
      exact fun i member => kept i (List.mem_cons_of_mem _ member)
  · rintro (obtains | ⟨⟨later, last, earlier, rfl, obtains, kept⟩, holds⟩)
    · exact ⟨[], incident, log, rfl, obtains, fun i member => absurd member List.not_mem_nil⟩
    · refine ⟨incident :: later, last, earlier, rfl, obtains, fun i member => ?_⟩
      rcases List.mem_cons.1 member with rfl | member
      · exact holds
      · exact kept i member

/-- Every identifier that is owed is kept, and no two places hold one at once. -/
def Custody.Settled (h : Custody) (owed : String → Prop) : Prop :=
  (∀ x, owed x → h.Holds x) ∧ h.Single

namespace Cycle

/-- What is owed after a reply. -/
def owedAfter (kind : Kind S) (c : RemoteCall S) (reply : c.Reply) (owed : String → Prop)
    (x : String) : Prop :=
  c.Obtains reply x ∨ (owed x ∧ ¬c.Frees kind reply x)

/-- However a cycle goes on from here, it keeps what is owed at every call and at its end, creates nothing
while something is owed, and never records an identifier over another one. -/
def Keeps (kind : Kind S) : Cycle S α → Custody → (String → Prop) → Prop
  | .done _, h, owed => h.Settled owed
  | .step action next, h, owed =>
    (∀ id, action = .recordId id → h.recorded = none ∨ h.recorded = some id) ∧
      ∀ reply h', h.After action reply h' → (next reply).Keeps kind h' owed
  | .call c next, h, owed =>
    h.Settled owed ∧ ((∃ o, c = .create o) → ∀ x, ¬owed x) ∧
      ∀ reply, (next reply).Keeps kind h (owedAfter kind c reply owed)

theorem keeps_bind {kind : Kind S} {cycle : Cycle S α} {next : α → Cycle S β} {h : Custody}
    {owed : String → Prop} (keeps : cycle.Keeps kind h owed)
    (goesOn : ∀ a h owed, h.Settled owed → (next a).Keeps kind h owed) :
    (cycle.bind next).Keeps kind h owed := by
  induction cycle generalizing h owed with
  | done a => exact goesOn a h owed keeps
  | step action more ih =>
    exact ⟨keeps.1, fun reply h' after => ih reply (keeps.2 reply h' after)⟩
  | call c more ih =>
    exact ⟨keeps.1, keeps.2.1, fun reply => ih reply (keeps.2.2 reply)⟩

/-- Publishing a state concerns no identifier. -/
theorem keeps_publishing {kind : Kind S} {state : ConditionState} {next : Cycle S α} {h : Custody}
    {owed : String → Prop} (keeps : next.Keeps kind h owed) :
    (Cycle.publishing state next).Keeps kind h owed := by
  refine ⟨nofun, fun reply h' after => ?_⟩
  cases after
  exact keeps

end Cycle

namespace Reconcile

variable {kind : Kind S} {o : Declared S} {h : Custody} {owed : String → Prop}

private theorem fail_keeps {e : ReconcileError} (settled : h.Settled owed) :
    (fail e : Cycle S CycleResult).Keeps kind h owed := settled

private theorem finish_keeps {outcome : Outcome} (settled : h.Settled owed) :
    (finish outcome : Cycle S CycleResult).Keeps kind h owed := settled

/-- An identifier that could not be recorded is kept aside. -/
private theorem remember_keeps {id : String} {e : ReconcileError} (free : h.recorded = none)
    (only : ∀ x, owed x → x = id) :
    (Cycle.step (.remember id) fun _ => fail e : Cycle S CycleResult).Keeps kind h owed := by
  refine ⟨nofun, fun reply h' after => ?_⟩
  cases after
  refine fail_keeps ⟨fun x owes => .inr ?_, .inl free⟩
  rw [only x owes]

/-- Recording the one identifier that can be owed keeps it, whatever the store says. -/
private theorem record_keeps {id : String} {next : Cycle S CycleResult} (free : h.recorded = none)
    (only : ∀ x, owed x → x = id) (goesOn : next.Keeps kind ⟨some id, none⟩ owed) :
    (record id next).Keeps kind h owed := by
  refine ⟨fun other same => .inl free, fun reply h' after => ?_⟩
  cases reply with
  | ok =>
    cases after
    refine ⟨nofun, fun reply h'' after => ?_⟩
    cases after
    exact goesOn
  | error e =>
    cases e with
    | conflict key existing attempted =>
      obtain ⟨-, taken, -⟩ := after
      rw [free] at taken
      cases taken
    | notFound key =>
      cases after
      exact remember_keeps free only
    | persist why =>
      cases after
      exact remember_keeps free only

private theorem owed_recorded {id : String} (settled : h.Settled owed) (recorded : h.recorded = some id) :
    ∀ x, owed x → x = id := by
  intro x owes
  rcases settled.1 x owes with held | held
  · exact Option.some.inj (held.symm.trans recorded)
  · rcases settled.2 with none_ | none_
    · exact absurd (recorded.symm.trans none_) (Option.some_ne_none id)
    · exact absurd (held.symm.trans none_) (Option.some_ne_none x)

private theorem owed_unrecorded {id : String} (settled : h.Settled owed) (free : h.recorded = none)
    (aside : h.unrecorded = some id) : ∀ x, owed x → x = id := by
  intro x owes
  rcases settled.1 x owes with held | held
  · exact absurd (held.symm.trans free) (Option.some_ne_none x)
  · exact Option.some.inj (held.symm.trans aside)

private theorem owed_nothing (settled : h.Settled owed) (free : h.recorded = none)
    (none_ : h.unrecorded = none) : ∀ x, ¬owed x := by
  intro x owes
  rcases settled.1 x owes with held | held
  · exact absurd (held.symm.trans free) (Option.some_ne_none x)
  · exact absurd (held.symm.trans none_) (Option.some_ne_none x)

private theorem settled_recorded {id : String} (only : ∀ x, owed x → x = id) :
    (Custody.mk (some id) none).Settled owed :=
  ⟨fun x owes => .inl (congrArg some (only x owes).symm), .inr rfl⟩

/-- What is owed after a reply that obtains nothing was owed before. -/
private theorem settled_after {c : RemoteCall S} {reply : c.Reply} (settled : h.Settled owed)
    (nothing : ∀ x, ¬c.Obtains reply x) : h.Settled (Cycle.owedAfter kind c reply owed) := by
  refine ⟨fun x owes => ?_, settled.2⟩
  rcases owes with obtains | ⟨owes, -⟩
  · exact absurd obtains (nothing x)
  · exact settled.1 x owes

/-- A call whose error or end ends the cycle. -/
private theorem calling_keeps {c : RemoteCall S} {next : c.Answer → Cycle S CycleResult}
    (settled : h.Settled owed) (creates : (∃ o, c = .create o) → ∀ x, ¬owed x)
    (goesOn : ∀ answer, (next answer).Keeps kind h (Cycle.owedAfter kind c (some (.ok answer)) owed)) :
    (calling c next).Keeps kind h owed := by
  refine ⟨settled, creates, fun reply => ?_⟩
  match reply with
  | none => exact fail_keeps (settled_after settled fun x => (c.obtains_nothing x).1)
  | some (.error e) => exact fail_keeps (settled_after settled fun x => (c.obtains_nothing x).2 e)
  | some (.ok answer) => exact goesOn answer

private theorem validated_keeps {spec : S} {next : Cycle S CycleResult} (settled : h.Settled owed)
    (goesOn : next.Keeps kind h owed) : (validated kind spec next).Keeps kind h owed := by
  unfold validated
  split
  · exact goesOn
  · exact fail_keeps settled

/-- The creating path records what it obtains, and obtains nothing while something is owed. -/
private theorem create_keeps (settled : h.Settled owed) (free : h.recorded = none) :
    (create kind o).Keeps kind h owed := by
  refine ⟨nofun, fun reply h' after => ?_⟩
  obtain ⟨rfl, rfl⟩ := after
  cases aside : h'.unrecorded with
  | some id =>
    have only := owed_unrecorded settled free aside
    exact record_keeps free only (finish_keeps (settled_recorded only))
  | none =>
    have nothing := owed_nothing settled free aside
    refine validated_keeps settled (calling_keeps settled (by rintro ⟨_, ⟨⟩⟩) ?_)
    intro found
    cases found with
    | some id =>
      have only : ∀ x, Cycle.owedAfter kind (.lookup o) (some (.ok (some id))) owed x → x = id := by
        rintro x (⟨-, same⟩ | ⟨owes, -⟩)
        · exact same.symm
        · exact absurd owes (nothing x)
      exact record_keeps free only (finish_keeps (settled_recorded only))
    | none =>
      have still : ∀ x, ¬Cycle.owedAfter kind (.lookup o) (some (.ok none)) owed x := by
        rintro x (obtains | ⟨owes, -⟩)
        · exact obtains
        · exact nothing x owes
      have settled' : h'.Settled (Cycle.owedAfter kind (.lookup o) (some (.ok none)) owed) :=
        ⟨fun x owes => absurd owes (still x), settled.2⟩
      refine calling_keeps settled' (fun _ => still) fun id => ?_
      have only : ∀ x, Cycle.owedAfter kind (.create o) (some (.ok id))
          (Cycle.owedAfter kind (.lookup o) (some (.ok none)) owed) x → x = id := by
        rintro x (same | ⟨owes, -⟩)
        · exact same.symm
        · exact absurd owes (still x)
      exact record_keeps free only (Cycle.keeps_publishing (Cycle.keeps_publishing
        (finish_keeps (settled_recorded only))))

private theorem found_keeps {r : RemoteResource} (settled : h.Settled owed) :
    (found kind o r).Keeps kind h owed := by
  unfold found
  split
  · exact finish_keeps settled
  · exact Cycle.keeps_publishing (Cycle.keeps_publishing (finish_keeps settled))
  · split
    · exact Cycle.keeps_publishing (Cycle.keeps_publishing (finish_keeps settled))
    · refine validated_keeps settled (calling_keeps settled (by rintro ⟨_, ⟨⟩⟩) ?_)
      intro answer
      exact Cycle.keeps_publishing (finish_keeps (settled_after settled nofun))

/-- A resource that is confirmed to be gone is let go of, unless the kind forbids it. -/
private theorem absent_keeps {id : String} (settled : h.Settled owed)
    (freed : kind.policy.onAbsent = .recreate → ∀ x, ¬owed x) :
    (absent kind id).Keeps kind h owed := by
  unfold absent
  split
  case h_1 => exact fail_keeps settled
  case h_2 recreates =>
    refine ⟨nofun, fun reply h' after => ?_⟩
    cases after
    have settled' : (Custody.mk none h.unrecorded).Settled owed :=
      ⟨fun x owes => absurd owes (freed recreates x), .inl rfl⟩
    cases reply with
    | ok => exact Cycle.keeps_publishing (finish_keeps settled')
    | error e => exact fail_keeps settled'

private theorem observe_keeps {id : String} (settled : h.Settled owed)
    (recorded : h.recorded = some id) : (observe kind o id).Keeps kind h owed := by
  have only := owed_recorded settled recorded
  have settled' : ∀ reply : (RemoteCall.observe o id).Reply, h.Settled
      (Cycle.owedAfter kind (.observe o id) reply owed) :=
    fun reply => settled_after settled fun _ obtains => obtains
  refine ⟨settled, (by rintro ⟨_, ⟨⟩⟩), fun reply => ?_⟩
  match reply with
  | none => exact fail_keeps (settled' none)
  | some (.ok (.present r)) => exact found_keeps (settled' _)
  | some (.ok .absent) =>
    refine absent_keeps (settled' _) fun recreates x owes => ?_
    rcases owes with ⟨⟨⟩⟩ | ⟨owes, kept⟩
    exact kept ⟨recreates, (only x owes).symm⟩
  | some (.error .notFound) =>
    refine absent_keeps (settled' _) fun recreates x owes => ?_
    rcases owes with ⟨⟨⟩⟩ | ⟨owes, kept⟩
    exact kept ⟨recreates, (only x owes).symm⟩
  | some (.error (.transport text)) => exact fail_keeps (settled' _)
  | some (.error (.status code body)) => exact fail_keeps (settled' _)
  | some (.error (.decode text)) => exact fail_keeps (settled' _)
  | some (.error (.invalid text)) => exact fail_keeps (settled' _)

/-- An object is dropped, and with it what is kept for it, once nothing is owed. -/
private theorem release_keeps (nothing : ∀ x, ¬owed x) :
    (release : Cycle S CycleResult).Keeps kind h owed := by
  refine ⟨nofun, fun reply h' after => ?_⟩
  cases after
  cases reply with
  | ok =>
    refine ⟨nofun, fun reply h'' after => ?_⟩
    cases after
    exact finish_keeps ⟨fun x owes => absurd owes (nothing x), .inl rfl⟩
  | error e => exact fail_keeps ⟨fun x owes => absurd owes (nothing x), .inl rfl⟩

private theorem delete_keeps {id : String} (settled : h.Settled owed)
    (only : ∀ x, owed x → x = id) : (delete o id).Keeps kind h owed := by
  have settled' : ∀ reply : (RemoteCall.delete o id).Reply, h.Settled
      (Cycle.owedAfter kind (.delete o id) reply owed) :=
    fun reply => settled_after settled fun _ obtains => obtains
  refine Cycle.keeps_publishing ⟨settled, (by rintro ⟨_, ⟨⟩⟩), fun reply => ?_⟩
  match reply with
  | none => exact fail_keeps (settled' none)
  | some (.ok ()) =>
    refine release_keeps fun x owes => ?_
    rcases owes with ⟨⟨⟩⟩ | ⟨owes, kept⟩
    exact kept (only x owes).symm
  | some (.error .notFound) =>
    refine release_keeps fun x owes => ?_
    rcases owes with ⟨⟨⟩⟩ | ⟨owes, kept⟩
    exact kept (only x owes).symm
  | some (.error (.transport text)) => exact fail_keeps (settled' _)
  | some (.error (.status code body)) => exact fail_keeps (settled' _)
  | some (.error (.decode text)) => exact fail_keeps (settled' _)
  | some (.error (.invalid text)) => exact fail_keeps (settled' _)

/-- The deleting path frees what is owed, or else keeps it. -/
private theorem finalize_keeps (settled : h.Settled owed) (recorded : h.recorded = o.externalId)
    (requested : o.isDeletionRequested = true) : (finalize kind o).Keeps kind h owed := by
  unfold finalize
  cases known : o.externalId with
  | some id =>
    rw [known] at recorded
    exact delete_keeps settled (owed_recorded settled recorded)
  | none =>
    rw [known] at recorded
    refine ⟨nofun, fun reply h' after => ?_⟩
    obtain ⟨rfl, rfl⟩ := after
    cases aside : h'.unrecorded with
    | some id => exact delete_keeps settled (owed_unrecorded settled recorded aside)
    | none =>
      have nothing := owed_nothing settled recorded aside
      refine calling_keeps settled (by rintro ⟨_, ⟨⟩⟩) fun found => ?_
      have still : ∀ x, ¬Cycle.owedAfter kind (.lookup o) (some (.ok found)) owed x := by
        rintro x (obtains | ⟨owes, -⟩)
        · cases found with
          | none => exact obtains
          | some id =>
            have unrequested := obtains.1
            rw [requested] at unrequested
            cases unrequested
        · exact nothing x owes
      have settled' : h'.Settled (Cycle.owedAfter kind (.lookup o) (some (.ok found)) owed) :=
        ⟨fun x owes => absurd owes (still x), settled.2⟩
      cases found with
      | some id => exact delete_keeps settled' fun x owes => absurd owes (still x)
      | none =>
        change (releaseUnknown kind).Keeps kind h' _
        unfold releaseUnknown
        split
        · exact fail_keeps settled'
        · exact release_keeps still

/-- A whole cycle keeps what is owed. -/
theorem reconcile_keeps (settled : h.Settled owed) : (reconcile kind).Keeps kind h owed := by
  refine Cycle.keeps_bind ⟨nofun, fun o h' after => ?_⟩ fun result h owed settled => ?_
  · obtain ⟨rfl, recorded⟩ := after
    cases o with
    | none => exact finish_keeps settled
    | some o =>
      change h'.recorded = o.externalId at recorded
      dsimp only
      split
      case isTrue requested => exact finalize_keeps settled recorded requested
      case isFalse =>
        cases known : o.externalId with
        | some id =>
          rw [known] at recorded
          exact observe_keeps settled recorded
        | none =>
          rw [known] at recorded
          exact create_keeps settled recorded
  · unfold noted
    split
    · exact settled
    · exact settled
    · exact settled
    · exact Cycle.keeps_publishing settled

end Reconcile

namespace Works

variable {kind : Kind S}

/-- The cycle of a key, if there is one, keeps what is owed however it goes on; if there is none, what is
owed is kept now. -/
def Guards (kind : Kind S) (cycle : Option (Cycle S CycleResult)) (h : Custody)
    (owed : String → Prop) : Prop :=
  match cycle with
  | none => h.Settled owed
  | some cycle => cycle.Keeps kind h owed

/-- Nothing in a log speaks against the engine: no identifier was refused because of another one, and
whenever a resource was created nothing was owed. -/
structure Clean (kind : Kind S) (log : List (Incident S)) : Prop where
  unrefused : ∀ key id named existing attempted,
    Incident.recorded key id (.error (.conflict named existing attempted)) ∉ log
  unowed : ∀ later earlier key o id, log = later ++ .answered key (.create o) (some (.ok id)) :: earlier →
    ∀ x, ¬Owed kind earlier key x

private theorem clean_cons {log : List (Incident S)} {incident : Incident S} (clean : Clean kind log)
    (unrefused : ∀ key id named existing attempted,
      incident ≠ .recorded key id (.error (.conflict named existing attempted)))
    (unowed : ∀ key o id, incident = .answered key (.create o) (some (.ok id)) →
      ∀ x, ¬Owed kind log key x) : Clean kind (incident :: log) where
  unrefused := by
    intro key id named existing attempted member
    rcases List.mem_cons.1 member with same | member
    · exact unrefused key id named existing attempted same.symm
    · exact clean.unrefused key id named existing attempted member
  unowed := by
    intro later earlier key o id split
    cases later with
    | nil =>
      cases split
      exact unowed key o id rfl
    | cons head later =>
      cases split
      exact clean.unowed later earlier key o id rfl

/-- What recording an identifier adds to the log changes nothing about what is owed. -/
private theorem owed_ofAction {log : List (Incident S)} {key : Key} {action : Action S}
    {reply : action.Reply} (other : Key) :
    Owed kind (Incident.ofAction key action reply ++ log) other = Owed kind log other := by
  cases action with
  | recordId id =>
    funext x
    refine propext (owed_cons.trans ⟨?_, fun owes => .inr ⟨owes, fun frees => frees⟩⟩)
    rintro (⟨⟨⟩⟩ | ⟨owes, -⟩)
    exact owes
  | _ => rfl

private theorem owed_answered {log : List (Incident S)} {key : Key} {c : RemoteCall S}
    {reply : c.Reply} :
    Owed kind (.answered key c reply :: log) key =
      Cycle.owedAfter kind c reply (Owed kind log key) := by
  funext x
  refine propext (owed_cons.trans ?_)
  simp only [Incident.Obtains, Incident.Frees, true_and, Cycle.owedAfter]

private theorem owed_answered_other {log : List (Incident S)} {key other : Key} {c : RemoteCall S}
    {reply : c.Reply} (apart : other ≠ key) :
    Owed kind (.answered key c reply :: log) other = Owed kind log other := by
  funext x
  refine propext (owed_cons.trans ⟨?_, fun owes => .inr ⟨owes, fun frees => apart frees.1.symm⟩⟩)
  rintro (⟨same, -⟩ | ⟨owes, -⟩)
  · exact absurd same.symm apart
  · exact owes

/-- Every key is guarded, and the log is clean. -/
structure Sound (kind : Kind S) (w : Works S) : Prop where
  guarded : ∀ key, Guards kind (w.running key) (w.engine.custody key) (Owed kind w.log key)
  clean : Clean kind w.log

/-- Replacing the cycle of one key leaves the others guarded. -/
private theorem sound_put {w : Works S} {key : Key} {cycle : Option (Cycle S CycleResult)}
    (clean : Clean kind w.log)
    (own : Guards kind cycle (w.engine.custody key) (Owed kind w.log key))
    (others : ∀ other, other ≠ key →
      Guards kind (w.running other) (w.engine.custody other) (Owed kind w.log other)) :
    (w.put key cycle).Sound kind where
  guarded other := by
    change Guards kind (if other = key then cycle else w.running other) _ _
    by_cases same : other = key
    · subst same
      rw [if_pos rfl]
      exact own
    · rw [if_neg same]
      exact others other same
  clean := clean

variable [Spec S]

private theorem sound_author {w : Works S} (sound : w.Sound kind) {c : StoreCall S}
    (spares : c.SparesIds) (write : WriteOutcome) : (w.author fun s => c.perform s write).Sound kind where
  guarded key := by
    have kept := StoreCall.perform_spares spares w.engine.store write key
    have same : (w.author fun s => c.perform s write).engine.custody key = w.engine.custody key :=
      congrArg (Custody.mk · _) kept
    rw [same]
    exact sound.guarded key
  clean := sound.clean

private theorem sound_act {w : Works S} (sound : w.Sound kind) {key : Key} {action : Action S}
    {next : action.Reply → Cycle S CycleResult} (runs : w.running key = some (.step action next))
    (c : Circumstances) (acts : c.refusal = none) :
    (put { w with
      engine := (w.engine.perform c key action).1
      log := Incident.ofAction key action (w.engine.perform c key action).2 ++ w.log } key
        (some (next (w.engine.perform c key action).2))).Sound kind := by
  have own := sound.guarded key
  rw [runs] at own
  obtain ⟨records, goesOn⟩ := own
  have after := w.engine.perform_custody c key action acts
  refine sound_put ?_ ?_ fun other apart => ?_
  · cases action with
    | recordId id =>
      refine clean_cons sound.clean ?_ fun _ _ _ answered => by cases answered
      intro key' id' named existing attempted same
      obtain ⟨-, -, refused⟩ := Incident.recorded.inj same
      rw [refused] at after
      obtain ⟨-, taken, other⟩ := after
      rcases records id rfl with free | own
      · exact absurd (taken.symm.trans free) (Option.some_ne_none existing)
      · exact other (Option.some.inj (taken.symm.trans own))
    | _ => exact sound.clean
  · rw [owed_ofAction]
    exact goesOn _ _ after
  · rw [owed_ofAction]
    change Guards kind _ ((w.engine.perform c key action).1.custody other) _
    rw [w.engine.perform_custody_other c apart]
    exact sound.guarded other

omit [Spec S] in
private theorem sound_answer {w : Works S} (sound : w.Sound kind) {key : Key} {c : RemoteCall S}
    {next : c.Reply → Cycle S CycleResult} (runs : w.running key = some (.call c next))
    (reply : c.Reply) :
    (put { w with log := .answered key c reply :: w.log } key (some (next reply))).Sound kind := by
  have own := sound.guarded key
  rw [runs] at own
  obtain ⟨-, creates, goesOn⟩ := own
  refine sound_put ?_ ?_ fun other apart => ?_
  · refine clean_cons sound.clean (fun _ _ _ _ _ recorded => by cases recorded) ?_
    intro key' o id same
    cases same
    exact creates ⟨o, rfl⟩
  · rw [owed_answered]
    exact goesOn reply
  · rw [owed_answered_other apart]
    exact sound.guarded other

/-- Every move keeps what is owed. -/
private theorem sound_step {w : Works S} (sound : w.Sound kind) (move : Move S) :
    (w.step kind move).Sound kind := by
  cases move with
  | apply key spec write => exact sound_author sound (c := .apply key spec) trivial write
  | requestDeletion key now write =>
    exact sound_author sound (c := .requestDeletion key now) trivial write
  | begin key =>
    have own := sound.guarded key
    simp only [step]
    split
    next none_ =>
      rw [none_] at own
      exact sound_put sound.clean (Reconcile.reconcile_keeps own) fun other _ => sound.guarded other
    next => exact sound
  | act key now write =>
    simp only [step]
    split
    next action next runs => exact sound_act sound runs { now, write } rfl
    next => exact sound
  | answer key reply =>
    simp only [step]
    split
    next c next runs => exact sound_answer sound runs (reply c)
    next => exact sound
  | finish key =>
    have own := sound.guarded key
    simp only [step]
    split
    next result done =>
      rw [done] at own
      exact sound_put sound.clean own fun other _ => sound.guarded other
    next => exact sound

private theorem sound_run {w : Works S} (sound : w.Sound kind) (moves : List (Move S)) :
    (w.run kind moves).Sound kind := by
  induction moves generalizing w with
  | nil => exact sound
  | cons move rest ih => exact ih (sound_step sound move)

omit [Spec S] in
/-- Before anything has happened nothing is owed, whatever objects have been loaded. -/
private theorem sound_start (store : Store S) : ({ engine := { store } } : Works S).Sound kind where
  guarded _ := ⟨fun _ owes => absurd owes owed_nil, .inr rfl⟩
  clean := ⟨fun _ _ _ _ _ => List.not_mem_nil, fun later _ _ _ _ split => by simp at split⟩

/-- While no cycle of a key is under way, no identifier is kept in both places at once. -/
theorem single_of_rest (kind : Kind S) (store : Store S) (moves : List (Move S)) {key : Key}
    (rests : (run kind { engine := { store } } moves).AtRest key) :
    ((run kind { engine := { store } } moves).engine.custody key).Single := by
  have sound : (run kind { engine := { store } } moves).Sound kind := sound_run (sound_start store) moves
  have own := sound.guarded key
  cases runs : (run kind { engine := { store } } moves).running key with
  | none =>
    rw [runs] at own
    exact own.2
  | some cycle =>
    obtain ⟨result, rfl⟩ := rests cycle runs
    rw [runs] at own
    exact own.2

/-- Over any run from any store, no remote resource is lost and none is made twice. An identifier that a
cycle has obtained, by creating a resource or by finding one that it was about to create, is kept for its
key at the end of every cycle, and during every call, until a reply confirms that the resource is gone;
the object and the table of unrecorded identifiers never both hold one at those times; the store never
refuses an identifier because of another; and between two resources that were created for one key the
first was confirmed to be gone. -/
theorem no_resource_lost_or_duplicated (kind : Kind S) (store : Store S) (moves : List (Move S))
    (key : Key) :
    let w := run kind { engine := { store } } moves
    (w.AtRest key ∨ w.InCall key → (∀ x, Owed kind w.log key x → (w.engine.custody key).Holds x) ∧
      (w.engine.custody key).Single) ∧
    (∀ id named existing attempted,
      Incident.recorded key id (.error (.conflict named existing attempted)) ∉ w.log) ∧
    ∀ later between earlier first second x y,
      w.log = later ++ .answered key (.create second) (some (.ok y)) :: between
        ++ .answered key (.create first) (some (.ok x)) :: earlier →
      ∃ incident ∈ between, incident.Frees kind key x := by
  intro w
  have sound : w.Sound kind := sound_run (sound_start store) moves
  refine ⟨fun stays => ?_, sound.clean.unrefused key, ?_⟩
  · have own := sound.guarded key
    rcases stays with rest | ⟨call, next, calls⟩
    · cases runs : w.running key with
      | none =>
        rw [runs] at own
        exact own
      | some cycle =>
        obtain ⟨result, rfl⟩ := rest cycle runs
        rw [runs] at own
        exact own
    · rw [calls] at own
      exact own.1
  · intro later between earlier first second x y split
    rw [List.append_assoc] at split
    have nothing := sound.clean.unowed later _ key second y split x
    refine Classical.byContradiction fun kept => nothing ?_
    refine ⟨between, _, earlier, rfl, ⟨rfl, rfl⟩, fun incident member frees => ?_⟩
    exact kept ⟨incident, member, frees⟩

-- An address is created while its identifier cannot be written: the identifier is kept aside.
example :
    let key : Key := ⟨"floating_ip", "web"⟩
    let store : Store FloatingIpSpec := { snapshot := some { path := "state.json" } }
    let replies : (c : RemoteCall FloatingIpSpec) → c.Reply
      | .lookup _ => some (.ok none)
      | .create _ => some (.ok "ip-1")
      | .observe .. | .update .. | .delete .. => none
    let w := run FloatingIp.service.toKind { engine := { store } }
      [.apply key { projectId := "p", isp := "BGP", bandwidth := 1 } .written, .begin key,
        .act key .epoch .written, .act key .epoch .written, .answer key replies, .answer key replies,
        .act key .epoch (.temporaryFailed "full"), .act key .epoch .written, .act key .epoch .written,
        .finish key]
    (w.running key).isNone ∧ w.engine.custody key = ⟨none, some "ip-1"⟩ := by
  decide

end Works

end CloudKeeper
