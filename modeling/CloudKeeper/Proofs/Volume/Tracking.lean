import CloudKeeper.Proofs.Volume.Plant
/-!
What can happen to a provider and its file while it looks after a volume, told once for all that is proved of it.
At all times its cycle is on its course, waits for a reply if a request is out, and knows its object in its project.
Apart from a request that is sent, a restart and what others do, a step is a move of the cycle, which changes the
identifiers that are kept only as its action does.
-/
namespace CloudKeeper

/-- What a step without the service is for the identifiers that are kept and for what the cycle has heard, before
and after. -/
inductive Trail {S : Type} (kind : Kind S) (h : Custody) (heard : List (Deed S)) (h' : Custody) :
    List (Deed S) → Prop
  | quiet (same : h' = h) : Trail kind h heard h' heard
  | acted {action : Action S} {reply : action.Reply} (course : Course kind (.acted action reply :: heard))
    (after : h.After action reply h') : Trail kind h heard h' (.acted action reply :: heard)
  /-- The cycle does not wait for the reply. -/
  | unanswered {c : RemoteCall S} {earlier : List (Deed S)} (same : h' = h)
    (calls : heard = earlier ∨ ∃ reply, heard = .called c reply :: earlier) :
    Trail kind h heard h' (.called c none :: earlier)
  /-- A cycle begins, or is put away. -/
  | renewed (same : h' = h) : Trail kind h heard h' []

namespace Trail

variable {S : Type} {kind : Kind S} {h h' : Custody} {heard heard' : List (Deed S)}

theorem traces {confined : Option String → Prop} (trail : Trail kind h heard h' heard')
    (traces : h.Traces confined heard) : h'.Traces confined heard' := by
  cases trail with
  | quiet same => exact same ▸ traces
  | acted course after => exact traces.acted course after
  | @unanswered c earlier same calls =>
    refine ⟨same ▸ traces.held, fun found tells => ?_⟩
    cases c <;> cases tells
  | renewed same => exact ⟨same ▸ traces.held, nofun⟩

theorem agrees (trail : Trail kind h heard h' heard') (agrees : h.Agrees heard) : h'.Agrees heard' := by
  cases trail with
  | quiet same => exact same ▸ agrees
  | acted course after => exact agrees.acted after
  | unanswered same calls =>
    rw [same]
    rcases calls with rfl | ⟨reply, rfl⟩
    · exact agrees
    · exact agrees
  | renewed same => trivial

/-- What the cycle has heard last of a lookup that succeeded it has heard before. -/
theorem looked {o : Declared S} {found : Option String} {earlier : List (Deed S)}
    (trail : Trail kind h heard h' heard')
    (looks : heard' = .called (.lookup o) (some (.ok found)) :: earlier) : heard = heard' := by
  cases trail with
  | quiet same => rfl
  | acted => cases looks
  | unanswered => cases looks
  | renewed => cases looks

end Trail

namespace Volume

open Http (Exchange)
open StoreCall (Backed)

namespace Plant

/-- No write fails. -/
abbrev Reliable (writes : WriteOutcome → Prop) : Prop := ∀ write, writes write → write = .written

/-- The store and its file both have the object in its project and, if no write fails, agree. -/
structure Kept (s : Setting) (writes : WriteOutcome → Prop) (store : Store VolumeSpec)
    (file : SortedMap Key (Declared VolumeSpec)) : Prop where
  backed : Backed store file
  stored : ∀ o, store.objects.get? s.key = some o → o.spec.projectId = s.projectId
  filed : ∀ o, file.get? s.key = some o → o.spec.projectId = s.projectId
  agree : Reliable writes → ∀ key, file.standing? key = store.objects.standing? key

/-- What the cycle of the object has done, with the reply that is under way to it. -/
def heard (s : Setting) (plant : Plant) (past : List (Deed VolumeSpec)) : List (Deed VolumeSpec) :=
  match plant.sent, plant.works.running s.key with
  | some exchange, some (.call c _) => .called c (some (s.outcome c exchange)) :: past
  | _, _ => past

/-- What is true at all times of a plant, of the objects in its file, and of what the cycle of the object
has done, whatever volumes there are. -/
structure Tracked (s : Setting) (writes : WriteOutcome → Prop) (plant : Plant)
    (file : SortedMap Key (Declared VolumeSpec)) (past : List (Deed VolumeSpec)) : Prop where
  kept : Kept s writes plant.works.engine.store file
  underway : plant.works.Underway s.kind s.key past
  waiting : plant.sent.isSome = true → plant.works.InCall s.key
  read : ∀ o, .acted .read (some o) ∈ past → s.Concerns o

/-- What a step is for a plant, the objects in its file and what the cycle has heard. -/
inductive Turn (s : Setting) (plant : Plant) (file : SortedMap Key (Declared VolumeSpec))
    (past : List (Deed VolumeSpec)) (after : Plant) (file' : SortedMap Key (Declared VolumeSpec)) :
    List (Deed VolumeSpec) → Prop
  | aside {past' : List (Deed VolumeSpec)} (site : after.site = plant.site)
    (trail : Trail s.kind (plant.works.engine.custody s.key) (plant.heard s past)
      (after.works.engine.custody s.key) (after.heard s past'))
    (source : file' = file ∨ file' = after.works.engine.store.objects) : Turn s plant file past after file' past'
  /-- The request of a call is sent, and what the cycle will hear of it is settled. -/
  | sent {c : RemoteCall VolumeSpec} {arrived : Option String} {exchange : Exchange}
    (warranted : c.Warranted s.kind past) (about : s.Concerns c.object) (unheard : plant.heard s past = past)
    (answers : plant.site.Answers s.deployment arrived c exchange)
    (site : after.site = plant.site.received s.deployment c arrived) (works : after.works = plant.works)
    (same : file' = file) (heard : after.heard s past = .called c (some (s.outcome c exchange)) :: past) :
    Turn s plant file past after file' past
  | restarted (site : after.site = plant.site)
    (custody : after.works.engine.custody s.key = ⟨file.recordedId? s.key, none⟩) (same : file' = file)
    (unheard : after.heard s [] = []) : Turn s plant file past after file' []
  | elsewhere (fewer : (after.site.tagged s.tag).Sublist (plant.site.tagged s.tag))
    (works : after.works = plant.works) (sent : after.sent = plant.sent) (same : file' = file) :
    Turn s plant file past after file' past

variable {s : Setting} {writes : WriteOutcome → Prop} {plant : Plant} {store : Store VolumeSpec}
  {file : SortedMap Key (Declared VolumeSpec)} {past : List (Deed VolumeSpec)}

theorem Kept.perform (kept : Kept s writes store file) (call : StoreCall VolumeSpec)
    {write : WriteOutcome} (outcome : writes write)
    (project : ∀ spec, call = .apply s.key spec → spec.projectId = s.projectId) :
    Kept s writes (call.perform store write).1 (call.filed write store.objects file) where
  backed := StoreCall.backed_perform kept.backed call write
  stored := StoreCall.perform_leaves (StoreCall.effect_specs call kept.stored project) write
  filed := StoreCall.filed_specs call write kept.filed kept.stored project
  agree reliable := by
    cases reliable write outcome
    exact StoreCall.filed_standing (kept.agree reliable) call

/-- If no write fails, the file has the identifier that memory has. -/
theorem Kept.recorded (kept : Kept s writes store file) (reliable : Reliable writes) :
    file.recordedId? s.key = store.objects.recordedId? s.key := by
  have standing := congrArg (Option.bind · fun o => o.2.1) (kept.agree reliable s.key)
  simp only [SortedMap.standing?, Option.bind_map] at standing
  exact standing

theorem heard_unsent (unsent : plant.sent = none) : plant.heard s past = past := by
  simp only [Plant.heard, unsent]

namespace Tracked

variable (tracked : Tracked s writes plant file past)
include tracked

theorem unsent (free : ¬plant.works.InCall s.key) : plant.sent = none :=
  Option.not_isSome_iff_eq_none.1 fun waits => free (tracked.waiting waits)

/-- What neither the cycle nor its identifiers notice changes nothing. -/
private theorem quiet {works : Works VolumeSpec} {file' : SortedMap Key (Declared VolumeSpec)}
    (kept : Kept s writes works.engine.store file') (underway : works.Underway s.kind s.key past)
    (running : works.running s.key = plant.works.running s.key)
    (custody : works.engine.custody s.key = plant.works.engine.custody s.key)
    (source : file' = file ∨ file' = works.engine.store.objects) :
    Tracked s writes { plant with works } file' past ∧
      Turn s plant file past { plant with works } file' past := by
  have heard : Plant.heard s { plant with works } past = plant.heard s past := by
    simp only [Plant.heard, running]
  constructor
  · refine ⟨kept, underway, fun waits => ?_, tracked.read⟩
    obtain ⟨c, next, calls⟩ := tracked.waiting waits
    exact ⟨c, next, running.trans calls⟩
  · refine .aside rfl ?_ source
    rw [heard]
    exact .quiet custody

private theorem acted {works : Works VolumeSpec} {file' : SortedMap Key (Declared VolumeSpec)}
    {action : Action VolumeSpec} {next : action.Reply → Cycle VolumeSpec CycleResult}
    {now : Time.Timestamp} {write : WriteOutcome}
    (runs : plant.works.running s.key = some (.step action next))
    (source : file' = file ∨ file' = works.engine.store.objects) :
    let outcome := plant.works.engine.perform { now, write } s.key action
    works.engine = outcome.1 → Kept s writes works.engine.store file' →
      works.Underway s.kind s.key (.acted action outcome.2 :: past) →
        Tracked s writes { plant with works } file' (.acted action outcome.2 :: past) ∧
          Turn s plant file past { plant with works } file' (.acted action outcome.2 :: past) := by
  intro outcome engine kept underway
  have unsent : plant.sent = none := tracked.unsent fun ⟨c, next, calls⟩ => by cases runs.symm.trans calls
  have after := plant.works.engine.perform_custody { now, write } s.key action rfl
  change (plant.works.engine.custody s.key).After action outcome.2 (outcome.1.custody s.key) at after
  rw [← engine] at after
  constructor
  · refine ⟨kept, underway, fun waits => ?_, fun o member => ?_⟩
    · rw [unsent] at waits
      cases waits
    · rcases List.mem_cons.1 member with same | member
      · cases action with
        | read =>
          have found : plant.works.engine.store.objects.get? s.key = some o :=
            (eq_of_heq (Deed.acted.inj same).2).symm
          exact ⟨tracked.kept.backed.1 s.key o found, tracked.kept.stored o found⟩
        | _ => cases same
      · exact tracked.read o member
  · have heard : Plant.heard s { plant with works } (.acted action outcome.2 :: past) =
        .acted action outcome.2 :: past := heard_unsent unsent
    refine .aside rfl ?_ source
    rw [heard, heard_unsent unsent]
    exact .acted underway.course after

/-- A move is aside, except that a reply could tell the cycle anything. -/
private theorem move {move : Move VolumeSpec} (admits : s.Admits writes move) :
    let after := { plant with works := plant.works.step s.kind move }
    ∃ file' past', Tracked s writes after file' past' ∧ Turn s plant file past after file' past' := by
  intro after
  obtain ⟨file', kept, source⟩ : ∃ file', Kept s writes (plant.works.step s.kind move).engine.store file' ∧
      (file' = file ∨ file' = (plant.works.step s.kind move).engine.store.objects) := by
    rw [Works.step_store]
    split
    next call write makes =>
      obtain ⟨own, outcome, declares⟩ := Works.storeCall_move makes
      refine ⟨_, tracked.kept.perform call (admits.outcome write outcome) ?_, StoreCall.filed_cases ..⟩
      rintro spec rfl
      have applies := declares spec rfl
      rw [← own] at applies
      exact admits.project spec write applies
    next => exact ⟨file, tracked.kept, .inl rfl⟩
  obtain ⟨past', underway, ⟨seen, rfl⟩ | ⟨free, engine, rfl⟩⟩ := tracked.underway.step move
  · refine ⟨file', (plant.works.deed? s.key move).toList ++ past, ?_⟩
    generalize plant.works.deed? s.key move = deed at seen underway ⊢
    cases seen with
    | acted does runs engine goesOn => exact tracked.acted runs source engine kept underway
    | answered does => exact absurd does (admits.unanswered _)
    | authored own byAuthor about spares engine stays =>
      refine tracked.quiet kept underway stays ?_ source
      rw [engine]
      exact congrArg (Custody.mk · _) (StoreCall.perform_spares spares _ _ s.key)
    | nothing objects custody stays => exact tracked.quiet kept underway stays custody source
  · have unsent : after.sent = none := tracked.unsent free
    refine ⟨file', [], ⟨kept, underway, fun waits => ?_, fun _ => nofun⟩, .aside rfl ?_ source⟩
    · rw [unsent] at waits
      cases waits
    · rw [heard_unsent unsent]
      exact .renewed (congrArg (Engine.custody · s.key) engine)

/-- A reply tells the cycle what has become of its request, or nothing. -/
private theorem replied {c : RemoteCall VolumeSpec} {next : c.Reply → Cycle VolumeSpec CycleResult}
    (calls : plant.works.running s.key = some (.call c next))
    (replies : (call : RemoteCall VolumeSpec) → call.Reply)
    (told : .called c (replies c) :: past = plant.heard s past ∨ replies c = none) :
    let after := { plant with works := plant.works.step s.kind (.answer s.key replies), sent := none }
    Tracked s writes after file (.called c (replies c) :: past) ∧
      Turn s plant file past after file (.called c (replies c) :: past) := by
  intro after
  obtain ⟨engine, underway⟩ := tracked.underway.answer calls replies
  refine ⟨⟨engine ▸ tracked.kept, underway, nofun, fun o member => ?_⟩, .aside rfl ?_ (.inl rfl)⟩
  · exact tracked.read o ((List.mem_cons.1 member).resolve_left nofun)
  · have custody := congrArg (Engine.custody · s.key) engine
    have unsent : after.sent = none := rfl
    rw [heard_unsent unsent]
    rcases told with same | given
    · rw [same]
      exact .quiet custody
    · rw [given]
      refine .unanswered custody ?_
      simp only [Plant.heard, calls]
      cases plant.sent with
      | none => exact .inl rfl
      | some exchange => exact .inr ⟨_, rfl⟩

/-- Wherever the process has stopped, it has the identifier of its file when it is started again. -/
private theorem crash {stopped reopened : Store VolumeSpec} {snapshot : Snapshot}
    (stops : StoreCall.Stops plant.works.engine.store stopped)
    (has : stopped.snapshot = some snapshot) (opens : Store.ofSnapshot? snapshot = .ok reopened) :
    let after := { works := { engine := { store := reopened } }, site := plant.site }
    Tracked s writes after file [] ∧ Turn s plant file past after file [] := by
  have same := (tracked.kept.backed.stopped stops).reopened has opens
  have backed := StoreCall.opened_backed opens
  rw [same] at backed
  refine ⟨⟨⟨backed, ?_, tracked.kept.filed, fun _ key => ?_⟩, .inl ⟨rfl, rfl⟩, nofun, fun _ => nofun⟩,
    .restarted rfl ?_ rfl rfl⟩
  · rw [same]
    exact tracked.kept.filed
  · rw [same]
  · rw [← same]
    rfl

/-- Whatever happens next, the plant stays tracked. -/
theorem step {after : Plant} (step : Step s writes plant after) :
    ∃ file' past', Tracked s writes after file' past' ∧ Turn s plant file past after file' past' := by
  cases step with
  | move admits => exact tracked.move admits
  | @send c next calls unsent arrived exchange answers =>
    have warranted := tracked.underway.warranted calls
    refine ⟨file, past, ⟨tracked.kept, tracked.underway, fun _ => ⟨c, next, calls⟩, tracked.read⟩, ?_⟩
    refine .sent warranted (tracked.read _ warranted.about_read) (heard_unsent unsent) answers rfl rfl rfl ?_
    simp only [Plant.heard, calls]
  | @answer exchange sent =>
    obtain ⟨c, next, calls⟩ := tracked.waiting (Option.isSome_iff_exists.2 ⟨exchange, sent⟩)
    refine ⟨file, _, tracked.replied calls (fun c => some (s.outcome c exchange)) (.inl ?_)⟩
    simp only [Plant.heard, sent, calls]
  | abandon calls =>
    obtain ⟨c, next, calls⟩ := calls
    exact ⟨file, _, tracked.replied calls (fun _ => none) (.inr rfl)⟩
  | crash stops has opens => exact ⟨file, [], tracked.crash stops has opens⟩
  | elsewhere site fewer =>
    exact ⟨file, past, ⟨tracked.kept, tracked.underway, tracked.waiting, tracked.read⟩,
      .elsewhere fewer rfl rfl rfl⟩

end Tracked

/-- A provider that has just been started on a file is tracked. -/
theorem tracked_opened {snapshot : Snapshot} {opened : Store VolumeSpec} {site : Site}
    (opens : Store.ofSnapshot? snapshot = .ok opened)
    (project : ∀ o, opened.get? s.key = some o → o.spec.projectId = s.projectId) :
    Tracked s writes { works := { engine := { store := opened } }, site } opened.objects [] where
  kept := ⟨StoreCall.opened_backed opens, project, project, fun _ _ => rfl⟩
  underway := .inl ⟨rfl, rfl⟩
  waiting := nofun
  read _ := nofun

end Plant

end Volume

end CloudKeeper
