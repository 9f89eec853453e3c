import CloudKeeper.Proofs.Cycle.Knowledge
import CloudKeeper.Proofs.Cycle.Ownership
import CloudKeeper.Proofs.Cycle.Paths
import CloudKeeper.Proofs.Cycle.Redeclaration
import CloudKeeper.Proofs.Cycle.Wanted
import CloudKeeper.Time.Epoch
/-!
The identifier of a resource that has been deleted. The cycle that deleted it removes the object and then
forgets the identifier that was remembered for it, but not if the removal fails, and a removal can fail after
it has taken effect. A remembered identifier that is left behind in this way is recorded on the object that
is declared next under the same key, of which it names no resource.
-/
namespace CloudKeeper

variable {S : Type}

/-! ## What the deleting cycle leaves -/

/-- The identifier of a resource that a deed has deleted or found to be gone already. -/
def Deed.deleted? : Deed S → Option String
  | .called (.delete _ id) (some (.ok ())) => some id
  | .called (.delete _ id) (some (.error .notFound)) => some id
  | _ => none

/-- The identifiers of the resources that deeds have deleted. -/
def Deed.deleted (past : List (Deed S)) : List String := past.filterMap Deed.deleted?

theorem Deed.called_of_deleted {past : List (Deed S)} {id : String} (deleted : id ∈ Deed.deleted past) :
    ∃ o reply, .called (.delete o id) reply ∈ past := by
  obtain ⟨deed, member, deletes⟩ := List.mem_filterMap.1 deleted
  cases deed with
  | acted => cases deletes
  | called c reply =>
    cases c with
    | delete o own =>
      rcases reply with _ | e | _
      · cases deletes
      · cases e <;> cases deletes
        exact ⟨o, _, member⟩
      · cases deletes
        exact ⟨o, _, member⟩
    | _ => cases deletes

/-- A cycle that began with some identifiers kept and has deleted a resource leaves others: none is recorded,
and what was remembered is forgotten if the object is reported deleted. -/
structure Custody.Buried (before : Custody) (id : String) (after : Custody) (result : CycleResult) :
    Prop where
  /-- The resource was the one recorded, else the one remembered, else one that was found. -/
  source : before.recorded = some id ∨ before.unrecorded = some id ∨ before.unrecorded = none
  unrecorded : after.recorded = none
  remembered : after.unrecorded = if result = .ok .deleted then none else before.unrecorded

/-- What is said of a cycle that has read no object but one whose deletion is requested: if it has deleted a
resource it has tried to remove the object, and buries the resource. -/
def CycleResult.Buries (before after : Custody) (own : List (Deed S)) (result : CycleResult) : Prop :=
  (∀ o, .acted .read (some o) ∈ own → o.isDeletionRequested = true) → ∀ id ∈ Deed.deleted own,
    (∃ removed, .acted .remove removed ∈ own) ∧ before.Buried id after result

namespace Reconcile

variable {kind : Kind S} {o : Declared S} {before h : Custody} {own : List (Deed S)} {id : String}

/-- A cycle that has deleted nothing has buried nothing. -/
private theorem buries_nothing {after : Custody} {result : CycleResult}
    (spared : Deed.deleted own = []) : CycleResult.Buries before after own result := by
  intro _ id deleted
  rw [spared] at deleted
  cases deleted

private theorem release_buries (deleted : Deed.deleted own = [id])
    (source : before.recorded = some id ∨ before.unrecorded = some id ∨ before.unrecorded = none) :
    (release : Cycle S CycleResult).Leads (CycleResult.Buries before) before own := by
  rintro removed h' after
  cases after
  cases removed with
  | error e =>
    intro _ id' member
    cases List.mem_singleton.1 (deleted ▸ member : id' ∈ [id])
    exact ⟨⟨_, List.mem_cons_self⟩, source, rfl, rfl⟩
  | ok =>
    rintro _ h' after
    cases after
    intro _ id' member
    cases List.mem_singleton.1 (deleted ▸ member : id' ∈ [id])
    exact ⟨⟨_, List.mem_cons_of_mem _ List.mem_cons_self⟩, source, rfl, rfl⟩

private theorem release_spares (spared : Deed.deleted own = []) :
    (release : Cycle S CycleResult).Leads (CycleResult.Buries before) h own := by
  rintro (_ | _) h' after
  · exact buries_nothing spared
  · exact fun _ _ _ => buries_nothing spared

private theorem delete_buries (spared : Deed.deleted own = [])
    (source : before.recorded = some id ∨ before.unrecorded = some id ∨ before.unrecorded = none) :
    (delete o id).Leads (CycleResult.Buries before) before own := by
  rintro published h' after
  cases after
  have one : ∀ deed : Deed S, deed.deleted? = some id →
      Deed.deleted (deed :: .acted (.publish .deleting) published :: own) = [id] := by
    intro deed deletes
    simp only [Deed.deleted, List.filterMap_cons, deletes] at spared ⊢
    rw [spared]
    rfl
  rintro (_ | e | _)
  · exact buries_nothing spared
  · cases e with
    | notFound => exact release_buries (one _ rfl) source
    | _ => exact buries_nothing spared
  · exact release_buries (one _ rfl) source

private theorem finalize_buries (recorded : before.recorded = o.externalId)
    (spared : Deed.deleted own = []) :
    (finalize kind o).Leads (CycleResult.Buries before) before own := by
  unfold finalize
  cases known : o.externalId with
  | some id => exact delete_buries spared (.inl (recorded.trans known))
  | none =>
    rintro remembered h' ⟨rfl, rfl⟩
    cases aside : h'.unrecorded with
    | some id => exact delete_buries spared (.inr (.inl aside))
    | none =>
      rintro (_ | _ | _ | id)
      · exact buries_nothing spared
      · exact buries_nothing spared
      · change (releaseUnknown kind).Leads _ _ _
        unfold releaseUnknown
        split
        · exact buries_nothing spared
        · exact release_spares spared
      · exact delete_buries spared (.inr (.inr aside))

/-- A whole cycle buries what it deletes. -/
private theorem reconcile_buries (kind : Kind S) (before : Custody) :
    (reconcile kind).Leads (CycleResult.Buries before) before [] := by
  refine .bind (?_ : Cycle.Leads (CycleResult.Buries before) _ _ _) fun h own result buries => ?_
  · rintro declared h' ⟨rfl, recorded⟩
    cases declared with
    | none => exact buries_nothing rfl
    | some o =>
      dsimp only
      split
      case isTrue => exact finalize_buries recorded rfl
      case isFalse wanted =>
        exact Cycle.Leads.of_mem List.mem_cons_self
          fun h own result reads only => absurd (only o reads) wanted
  · unfold noted
    split
    · exact buries
    · exact buries
    · exact buries
    · intro published h' after
      cases after
      intro only id deleted
      obtain ⟨⟨removed, removes⟩, buried⟩ := buries
        (fun o reads => only o (List.mem_cons_of_mem _ reads)) id deleted
      exact ⟨⟨removed, List.mem_cons_of_mem _ removes⟩, buried⟩

end Reconcile

namespace Course

variable {kind : Kind S} {past : List (Deed S)} {id : String}

/-- A cycle reads its object first, and not again. -/
theorem read_first {o : Option (Declared S)} (course : Course kind past)
    (reads : .acted .read o ∈ past) : past.getLast? = some (.acted .read o) := by
  induction past with
  | nil => cases reads
  | cons deed past ih =>
    rcases List.mem_cons.1 reads with rfl | earlier
    · obtain ⟨due, -⟩ := course
      cases due
      rfl
    · rw [List.getLast?_cons, ih course.2 earlier, Option.getD_some]

/-- A resource is deleted when the deletion of the object that was read is requested. -/
theorem requested (course : Course kind past) (deleted : id ∈ Deed.deleted past) (o : Declared S)
    (reads : .acted .read (some o) ∈ past) : o.isDeletionRequested = true := by
  obtain ⟨own, reply, member⟩ := Deed.called_of_deleted deleted
  obtain ⟨later, earlier, rfl⟩ := List.append_of_mem member
  have warranted : (RemoteCall.delete own id).Warranted kind earlier := course.lawful
  have about := course.read_first
    (List.mem_append_right later (List.mem_cons_of_mem _ warranted.about_read))
  cases Option.some.inj (about.symm.trans (course.read_first reads))
  cases warranted <;> assumption

end Course

/-! ## An identifier that is not kept -/

/-- The service tells an identifier: that of a resource it has created or found. -/
def RemoteCall.Tells (x : String) : (c : RemoteCall S) → c.Reply → Prop
  | .create _, some (.ok id) => id = x
  | .lookup _, some (.ok (some id)) => id = x
  | _, _ => False

namespace Deed

/-- In a deed an identifier is told, recalled, recorded or remembered. -/
def Mentions (x : String) : Deed S → Prop
  | .called c reply => c.Tells x reply
  | .acted .recall (some id) => id = x
  | .acted (.recordId id) _ => id = x
  | .acted (.remember id) _ => id = x
  | .acted _ _ => False

end Deed

section Spurned

variable {kind : Kind S} {past : List (Deed S)} {x : String}

/-- A cycle does not come upon an identifier that is not kept and that it has not been told. -/
private theorem Course.unmentioned {h h' : Custody} {action : Action S} {reply : action.Reply}
    (course : Course kind (.acted action reply :: past)) (free : ¬h.Holds x)
    (after : h.After action reply h') (unheard : ∀ deed ∈ past, ¬deed.Mentions x) :
    ¬(Deed.acted action reply).Mentions x := by
  obtain ⟨due, -⟩ := course
  cases action with
  | «recall» =>
    cases reply with
    | none => exact id
    | some id =>
      rintro rfl
      exact free (.inr after.2.symm)
  | recordId id =>
    rintro rfl
    -- it has been recalled or told just before
    cases due <;> exact unheard _ List.mem_cons_self rfl
  | remember id =>
    rintro rfl
    cases due
    exact unheard _ List.mem_cons_self rfl
  | _ => exact id

/-- An identifier is kept only after it has been recorded or remembered. -/
theorem Custody.free_after {h h' : Custody} {action : Action S} {reply : action.Reply}
    (free : ¬h.Holds x) (after : h.After action reply h')
    (unmentioned : ¬(Deed.acted action reply).Mentions x) : ¬h'.Holds x := by
  obtain ⟨unrecorded, unremembered⟩ := not_or.1 free
  cases action with
  | recordId id =>
    obtain (e | _) := reply
    · cases e with
      | conflict => exact after.1 ▸ free
      | _ => exact after ▸ free
    · cases after
      exact not_or.2 ⟨fun same => unmentioned (Option.some.inj same), unremembered⟩
  | remember id =>
    cases after
    exact not_or.2 ⟨unrecorded, fun same => unmentioned (Option.some.inj same)⟩
  | read => exact after.1 ▸ free
  | «recall» => exact after.1 ▸ free
  | publish => exact after ▸ free
  | discard =>
    cases after
    exact not_or.2 ⟨unrecorded, nofun⟩
  | clearId | remove =>
    cases after
    exact not_or.2 ⟨nofun, unremembered⟩

end Spurned

namespace Works

variable [Spec S] {kind : Kind S} {w : Works S} {key : Key} {move : Move S} {past : List (Deed S)}
  {x : String}

/-- An identifier is not kept for a key, and the cycle of the key, if there is one, has not come upon it. -/
structure Spurns (kind : Kind S) (w : Works S) (key : Key) (x : String) (past : List (Deed S)) : Prop where
  underway : w.Underway kind key past
  free : ¬(w.engine.custody key).Holds x
  unheard : ∀ deed ∈ past, ¬deed.Mentions x

theorem Spurns.step (spurns : w.Spurns kind key x past)
    (silent : ∀ c reply, w.deed? key move = some (.called c reply) → ¬c.Tells x reply) :
    ∃ past', (w.step kind move).Spurns kind key x past' := by
  obtain ⟨underway, free, unheard⟩ := spurns
  obtain ⟨past', underway', ⟨seen, does⟩ | ⟨-, same, rfl⟩⟩ := underway.step move
  · generalize w.deed? key move = deed at seen does silent
    subst does
    have course := underway'.course
    cases seen with
    | @acted action next now write does runs engine goesOn =>
      have after := w.engine.perform_custody { now, write } key action rfl
      have unmentioned := Course.unmentioned course free after unheard
      refine ⟨_, underway', ?_, List.forall_mem_cons.2 ⟨unmentioned, unheard⟩⟩
      rw [engine]
      exact Custody.free_after free after unmentioned
    | answered does calls engine goesOn =>
      refine ⟨_, underway', ?_, List.forall_mem_cons.2 ⟨silent _ _ rfl, unheard⟩⟩
      rw [engine]
      exact free
    | authored _ _ _ spares engine =>
      refine ⟨_, underway', ?_, unheard⟩
      rw [custody_authored spares engine]
      exact free
    | nothing _ custody =>
      refine ⟨_, underway', ?_, unheard⟩
      rw [custody]
      exact free
  · refine ⟨[], underway', ?_, List.forall_mem_nil _⟩
    rw [same]
    exact free

/-- An identifier that is not kept is not kept later either, unless the service tells it. -/
theorem Spurns.run (spurns : w.Spurns kind key x past) {moves : List (Move S)}
    (silent : ∀ c reply, .called c reply ∈ w.deeds kind key moves → ¬c.Tells x reply) :
    ¬((w.run kind moves).engine.custody key).Holds x := by
  induction moves generalizing w past with
  | nil => exact spurns.free
  | cons move rest ih =>
    have first : ∀ c reply, w.deed? key move = some (.called c reply) → ¬c.Tells x reply := by
      intro c reply does
      exact silent c reply (List.mem_append_right _ (does ▸ List.mem_singleton_self _))
    obtain ⟨past', spurns⟩ := spurns.step first
    exact ih spurns fun c reply member => silent c reply (List.mem_append_left _ member)

/-! ## An identifier that is left behind -/

/-- An identifier that is remembered is recorded on an object that is wanted, without any call. -/
theorem records_remembered {spec : S} (kind : Kind S) (idle : w.running key = none)
    (wants : w.engine.Wants key spec ⟨none, some x⟩) (given : x ≠ "") :
    ∃ moves, (∀ c reply, .called c reply ∉ w.deeds kind key moves) ∧
      (w.run kind moves).engine.store.objects.recordedId? key = some x := by
  obtain ⟨o, found, -, wanted, own⟩ := wants.declared
  let s : Surroundings S := .undisturbed (fun _ => .epoch) (fun _ => .written) fun _ _ => none
  have begins : w.step kind (.begin key) = w.put key (some (reconcile kind)) := by
    simp only [step, idle]
  obtain ⟨moves, -, engine, deeds⟩ := s.run_deeds kind (w := w.put key (some (reconcile kind)))
    (reconcile kind) (if_pos rfl) []
  obtain ⟨after, held, records⟩ := s.run_record (fun _ => rfl) wants rfl given
    (Reconcile.finish .recovered) [.acted .recall (some x), .acted .read (some o)]
  have ends : s.run key (reconcile kind) w.engine [] = ⟨.ok .recovered, after,
      [.acted .discard (), .acted (.recordId x) (.ok ()), .acted .recall (some x),
        .acted .read (some o)]⟩ := by
    rw [s.run_unrecorded kind found wanted own]
    simp only [Reconcile.create, Cycle.bind, Surroundings.run, wants.recall]
    rw [records]
    rfl
  change _ = (s.run key (reconcile kind) w.engine []).engine at engine
  change _ = (s.run key (reconcile kind) w.engine []).past at deeds
  rw [ends] at engine deeds
  refine ⟨.begin key :: moves, fun c reply calls => ?_, ?_⟩
  · rw [Works.deeds, begins] at calls
    rw [List.append_nil] at deeds
    rw [deeds] at calls
    simp [deed?] at calls
  · change ((w.step kind (.begin key)).run kind moves).engine.store.objects.recordedId? key = some x
    rw [begins, engine]
    exact congrArg Custody.recorded held.custody

/-- An object that is declared again while an identifier is remembered for its key is given it. -/
private theorem resurrects (kind : Kind S) (idle : w.running key = none)
    (left : w.engine.custody key = ⟨none, some x⟩) (given : x ≠ "") (spec : S) :
    ∃ later, (∀ c reply, .called c reply ∉ w.deeds kind key later) ∧
      (w.run kind later).engine.store.objects.recordedId? key = some x := by
  obtain ⟨-, declared, -, wished⟩ := StoreCall.apply_wish w.engine.store key spec
  let again := w.step kind (.apply key spec .written)
  have same : again.engine.custody key = w.engine.custody key :=
    custody_authored (show StoreCall.SparesIds (.apply key spec) from trivial) rfl
  obtain ⟨moves, silent, records⟩ := records_remembered (w := again) kind idle
    ⟨same.trans left, wished⟩ given
  refine ⟨.apply key spec .written :: moves, fun c reply calls => ?_, records⟩
  rcases List.mem_append.1 calls with calls | none
  · exact silent c reply calls
  · cases none

/-- A cycle has deleted a resource, or found it gone when it was to delete it, and has come to its end. It has
then tried to remove the object, which takes the object away even if that cannot be written. Whatever cycles
and authors do from then on, the identifier of the resource is never recorded again for the key unless the
service tells it again, if and only if it was not the one that was remembered when the cycle began, or the
cycle has reported the object deleted. (An empty text is never recorded.) -/
theorem deleted_identifier_unrecorded_iff (kind : Kind S) (store : Store S) (before during : List (Move S))
    (key : Key) (x : String) (result : CycleResult) :
    let w := run kind { engine := { store } } before
    let deeds := w.deeds kind key (.begin key :: during)
    let reported := w.run kind (.begin key :: during)
    let ended := reported.step kind (.finish key)
    w.running key = none → .finish key ∉ during → x ∈ Deed.deleted deeds → reported.Reports key result →
    (∃ removed, .acted .remove removed ∈ deeds) ∧
    ((∀ later, (∀ c reply, .called c reply ∈ ended.deeds kind key later → ¬c.Tells x reply) →
        (ended.run kind later).engine.store.objects.recordedId? key ≠ some x) ↔
      w.engine.unrecorded.get? key ≠ some x ∨ result = .ok .deleted ∨ x = "") := by
  intro w deeds reported ended idle one deleted ends
  have course : Course kind deeds := (follows_cycle kind idle one).course
  have buries := reports_led (Reconcile.reconcile_buries kind (w.engine.custody key)) idle one ends
  obtain ⟨removes, buried⟩ := buries (course.requested deleted) x deleted
  have puts : ended = reported.put key none := by
    simp only [ended, step, show reported.running key = _ from ends]
  have engine : ended.engine = reported.engine := by
    rw [puts]
    rfl
  have rests : ended.running key = none := puts ▸ if_pos rfl
  refine ⟨removes, ?_, ?_⟩
  · intro dead
    by_cases same : w.engine.unrecorded.get? key = some x
    · refine .inr (Classical.or_iff_not_imp_left.2 fun fails => Classical.byContradiction fun given => ?_)
      have left : ended.engine.custody key = ⟨none, some x⟩ := by
        rw [engine]
        have remembered := (buried.remembered.trans (if_neg fails)).trans same
        exact (congrArg (Custody.mk · _) buried.unrecorded).trans (congrArg (Custody.mk none) remembered)
      obtain ⟨o, -, -⟩ := Deed.called_of_deleted deleted
      obtain ⟨later, silent, records⟩ := resurrects kind rests left given o.spec
      exact dead later (fun c reply calls => absurd calls (silent c reply)) records
    · exact .inl same
  · intro safe later silent records
    have given : x ≠ "" := by
      rintro rfl
      exact SortedMap.recordedId_ne_empty _ _ records
    have free : ¬(ended.engine.custody key).Holds x := by
      rw [engine]
      rintro (recorded | remembered)
      · cases buried.unrecorded.symm.trans recorded
      · have kept := buried.remembered.symm.trans remembered
        split at kept
        case isTrue => cases kept
        case isFalse fails => exact (safe.resolve_right (not_or.2 ⟨fails, given⟩)) kept
    have spurns : ended.Spurns kind key x [] := ⟨.inl ⟨rests, rfl⟩, free, List.forall_mem_nil _⟩
    exact spurns.run silent (.inl records)

/-- An address whose recorded resource is deleted, with a snapshot that can be written. -/
theorem deleted_identifier_unrecorded_iff_address :
    let key : Key := ⟨"floating_ip", "web"⟩
    let o : Declared FloatingIpSpec :=
      { key, spec := { projectId := "p", isp := "BGP", bandwidth := 1 }, recordedId := some "ip-1"
        deletionRequested := some .epoch }
    let kind := FloatingIp.service.toKind
    let store : Store FloatingIpSpec :=
      { objects := .ofList [(key, o)], snapshot := some { path := "state.json" } }
    let replies : (c : RemoteCall FloatingIpSpec) → c.Reply
      | .delete .. => some (.ok ())
      | .observe .. | .lookup _ | .create _ | .update .. => none
    let act : Move FloatingIpSpec := .act key .epoch .written
    let during := [act, act, .answer key replies, act, act]
    let result : CycleResult := .ok .deleted
    let w : Works FloatingIpSpec := { engine := { store } }
    let deeds := w.deeds kind key (.begin key :: during)
    let reported := w.run kind (.begin key :: during)
    let ended := reported.step kind (.finish key)
    (w.running key = none ∧ .finish key ∉ during ∧ "ip-1" ∈ Deed.deleted deeds ∧
      reported.Reports key result) ∧
    (∃ removed, .acted .remove removed ∈ deeds) ∧
    ((∀ later, (∀ c reply, .called c reply ∈ ended.deeds kind key later → ¬c.Tells "ip-1" reply) →
        (ended.run kind later).engine.store.objects.recordedId? key ≠ some "ip-1") ↔
      w.engine.unrecorded.get? key ≠ some "ip-1" ∨ result = .ok .deleted ∨ "ip-1" = "") := by
  intro key o kind store replies act during result w deeds reported ended
  have one : .finish key ∉ during := by simp [during, act]
  have deleted : "ip-1" ∈ Deed.deleted deeds := by decide
  have ends : reported.Reports key result := by decide
  exact ⟨⟨rfl, one, deleted, ends⟩,
    deleted_identifier_unrecorded_iff kind store [] during key "ip-1" _ rfl one deleted ends⟩

/-- The identifier of an address cannot be recorded, and the removal of the address cannot be written when its
resource has been deleted. The address that is declared next is given the identifier of the deleted resource,
without a call. -/
theorem deleted_identifier_is_recorded :
    let key : Key := ⟨"floating_ip", "web"⟩
    let spec : FloatingIpSpec := { projectId := "p", isp := "BGP", bandwidth := 1 }
    let kind := FloatingIp.service.toKind
    let store : Store FloatingIpSpec := { snapshot := some { path := "state.json" } }
    let replies : (c : RemoteCall FloatingIpSpec) → c.Reply
      | .lookup _ => some (.ok none)
      | .create _ => some (.ok "ip-1")
      | .delete .. => some (.ok ())
      | .observe .. | .update .. => none
    let act : Move FloatingIpSpec := .act key .epoch .written
    let actUnwritten : Move FloatingIpSpec := .act key .epoch (.temporaryFailed "full")
    let answer : Move FloatingIpSpec := .answer key replies
    let w := run kind { engine := { store } }
      [.apply key spec .written, .begin key, act, act, answer, answer, actUnwritten, act, act, .finish key,
        .requestDeletion key .epoch .written]
    let during := [act, act, act, answer, actUnwritten, act]
    let deeds := w.deeds kind key (.begin key :: during)
    let reported := w.run kind (.begin key :: during)
    let ended := reported.step kind (.finish key)
    let later := [.apply key spec .written, .begin key, act, act, act]
    w.engine.custody key = ⟨none, some "ip-1"⟩ ∧ Deed.deleted deeds = ["ip-1"] ∧
      (ended.engine.store.get? key).isNone ∧ Deed.operations (ended.deeds kind key later) = [] ∧
      (ended.run kind later).engine.store.objects.recordedId? key = some "ip-1" := by
  decide

end Works

end CloudKeeper
