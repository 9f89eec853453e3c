import CloudKeeper.Proofs.Cycle.Discipline
import CloudKeeper.Proofs.Cycle.Knowledge
import CloudKeeper.Proofs.Kind.Format
import CloudKeeper.Proofs.Store.Durability
import CloudKeeper.Proofs.Volume.Site
/-!
One declared volume, the provider that looks after it and the service that holds it. The provider can stop
at any time and is started again from its file. A request has its effect when it arrives, and its response
may never reach the cycle that asked; what other clients do to volumes is up to them, as long as they do
not use the ownership tag.
-/
namespace CloudKeeper.Volume

open Http (Exchange)

/-- What is fixed while providers come and go: the deployment, the address of the service, and an object
with its project. -/
structure Setting where
  deployment : String
  base : String
  key : Key
  projectId : String

namespace Setting

/-- The kind that cycles are run for. -/
def kind (s : Setting) : Kind VolumeSpec := (service s.deployment).toKind

/-- The ownership tag of the object's volume. -/
def tag (s : Setting) : String := Volume.tag s.deployment s.key

/-- The outcome of a call, given what becomes of its request. -/
def outcome (s : Setting) (c : RemoteCall VolumeSpec) (exchange : Exchange) :
    Except ClientError c.Answer :=
  (service s.deployment).outcome s.base c fun _ => exchange

/-- What authors and cycles may do without the service: authors leave the object in its project, and writes
turn out in one of the ways given. A reply to the cycle of the object is not theirs to give. -/
structure Admits (s : Setting) (writes : WriteOutcome → Prop) (move : Move VolumeSpec) : Prop where
  unanswered : ∀ replies, move ≠ .answer s.key replies
  project : ∀ spec write, move = .apply s.key spec write → spec.projectId = s.projectId
  outcome : ∀ write, move.write? = some write → writes write

/-- An object is the one of the setting, in its project. -/
def Concerns (s : Setting) (o : Declared VolumeSpec) : Prop :=
  o.key = s.key ∧ o.spec.projectId = s.projectId

end Setting

/-- A provider and the volumes at the service. -/
structure Plant where
  works : Works VolumeSpec
  site : Site
  /-- What becomes of the request of the object's cycle, once it has been sent. -/
  sent : Option Exchange := none

/-- What can happen next, where the outcomes of writes are among those given. -/
inductive Plant.Step (s : Setting) (writes : WriteOutcome → Prop) : Plant → Plant → Prop
  /-- An author acts, or a cycle of this object or of another goes on without the service. -/
  | move {plant : Plant} {move : Move VolumeSpec} (admits : s.Admits writes move) :
    Step s writes plant { plant with works := plant.works.step s.kind move }
  /-- The request of the object's cycle is sent. It arrives and has its effect, or gets lost, and the response
  that the cycle will get is settled, if it will get one. -/
  | send {plant : Plant} {c : RemoteCall VolumeSpec} {next : c.Reply → Cycle VolumeSpec CycleResult}
    (calls : plant.works.running s.key = some (.call c next)) (unsent : plant.sent = none)
    (arrived : Option String) (exchange : Exchange)
    (answers : plant.site.Answers s.deployment arrived c exchange) :
    Step s writes plant
      { plant with site := plant.site.received s.deployment c arrived, sent := some exchange }
  /-- The cycle learns what has become of its request. -/
  | answer {plant : Plant} {exchange : Exchange} (sent : plant.sent = some exchange) :
    Step s writes plant
      { plant with
        works := plant.works.step s.kind (.answer s.key fun c => some (s.outcome c exchange))
        sent := none }
  /-- The process is shutting down and does not wait for the reply. -/
  | abandon {plant : Plant} (calls : plant.works.InCall s.key) :
    Step s writes plant
      { plant with works := plant.works.step s.kind (.answer s.key fun _ => none), sent := none }
  /-- The process stops, between two steps or before a write is done, and is started again. -/
  | crash {plant : Plant} {stopped reopened : Store VolumeSpec} {snapshot : Snapshot}
    (stops : StoreCall.Stops plant.works.engine.store stopped)
    (has : stopped.snapshot = some snapshot) (opens : Store.ofSnapshot? snapshot = .ok reopened) :
    Step s writes plant { works := { engine := { store := reopened } }, site := plant.site }
  /-- Volumes change otherwise. One can be deleted or lose the tag, but none gets the tag. -/
  | elsewhere {plant : Plant} (site : Site)
    (fewer : (site.tagged s.tag).Sublist (plant.site.tagged s.tag)) :
    Step s writes plant { plant with site }

namespace Site

variable {s : Setting} {site : Site} {o : Declared VolumeSpec} {arrived : Option String}
  {exchange : Exchange} {id : String}

theorem Confined.fewer {tag : String} {found : Option String} {fewer : Site}
    (confined : site.Confined tag found) (sub : (fewer.tagged tag).Sublist (site.tagged tag)) :
    fewer.Confined tag found :=
  fun v member => confined v (sub.subset member)

theorem Confined.empty {tag : String} (confined : site.Confined tag none) : site.tagged tag = [] :=
  List.eq_nil_iff_forall_not_mem.2 fun v member => nomatch confined v member

/-- At most one volume carries the tag, and it is in the collection of the object's project. -/
structure Sole (s : Setting) (site : Site) : Prop where
  one : (site.tagged s.tag).length ≤ 1
  home : ∀ v ∈ site.tagged s.tag, v.home = collection s.projectId

theorem Sole.fewer {fewer : Site} (sole : site.Sole s)
    (sub : (fewer.tagged s.tag).Sublist (site.tagged s.tag)) : fewer.Sole s where
  one := Nat.le_trans sub.length_le sole.one
  home v member := sole.home v (sub.subset member)

theorem lookup_confined {found : Option String} (sole : site.Sole s) (about : s.Concerns o)
    (answers : site.Answers s.deployment arrived (.lookup o) exchange)
    (tells : s.outcome (.lookup o) exchange = .ok found) : site.Confined s.tag found := by
  intro v member
  obtain ⟨present, tagged⟩ := List.mem_filter.1 member
  obtain ⟨own, project⟩ := about
  refine lookup_tells answers tells present ?_ ?_
  · rw [own]
    exact tagged
  · rw [project]
    exact sole.home v member

/-- A volume that is created is the only one with the tag, if there was none. -/
theorem tagged_create (about : s.Concerns o) (untagged : site.tagged s.tag = []) (fresh : String) :
    (site.received s.deployment (.create o) (some fresh)).tagged s.tag =
      [⟨collection s.projectId, fresh, .ofList [(tagKey, s.tag)]⟩] := by
  obtain ⟨own, project⟩ := about
  have carries : Resident.isTagged
      ⟨collection s.projectId, fresh, .ofList [(tagKey, Volume.tag s.deployment s.key)]⟩ s.tag = true :=
    Resident.isTagged_iff.2 rfl
  rw [received_create, tagged, own, project, List.filter_cons, if_pos carries]
  exact congrArg _ untagged

/-- Whatever call is received, no second volume gets the tag, as long as one is created only where there is
none. -/
theorem Sole.received {c : RemoteCall VolumeSpec} (sole : site.Sole s) (about : s.Concerns c.object)
    (alone : ∀ o, c = .create o → site.tagged s.tag = []) :
    (site.received s.deployment c arrived).Sole s := by
  by_cases creates : c.operation = .create
  · cases c with
    | create o =>
      cases arrived with
      | none => exact sole
      | some fresh =>
        change s.Concerns o at about
        have only := tagged_create about (alone o rfl) fresh
        refine ⟨Nat.le_of_eq (congrArg List.length only), fun v member => ?_⟩
        rw [only] at member
        rw [List.mem_singleton.1 member]
    | _ => cases creates
  · exact sole.fewer ((received_other creates).filter _)

theorem create_confined (about : s.Concerns o) (untagged : site.tagged s.tag = [])
    (answers : site.Answers s.deployment arrived (.create o) exchange)
    (tells : s.outcome (.create o) exchange = .ok id) :
    (site.received s.deployment (.create o) arrived).Confined s.tag (some id) := by
  rw [create_tells answers tells]
  intro v member
  rw [tagged_create about untagged] at member
  rw [List.mem_singleton.1 member]

theorem delete_confined {result : Except ClientError Unit} (sole : site.Sole s) (about : s.Concerns o)
    (confined : site.Confined s.tag (some id))
    (answers : site.Answers s.deployment arrived (.delete o id) exchange)
    (tells : s.outcome (.delete o id) exchange = result)
    (deleted : result = .ok () ∨ result = .error .notFound) :
    (site.received s.deployment (.delete o id) arrived).Confined s.tag none := by
  intro v member
  obtain ⟨present, tagged⟩ := List.mem_filter.1 member
  have other : (RemoteCall.delete o id).operation ≠ .create := nofun
  have before : v ∈ site.tagged s.tag :=
    List.mem_filter.2 ⟨(received_other other).subset present, tagged⟩
  refine absurd ?_ (delete_tells answers tells deleted present)
  cases confined v before
  rw [Resident.path, sole.home v before, item, about.2]

/-- What the reply to a call tells of the volume is true, if a volume is created where there is none and
deleted under its own identifier. -/
theorem known_confined {c : RemoteCall VolumeSpec} {past : List (Deed VolumeSpec)} {found : Option String}
    (sole : site.Sole s) (about : s.Concerns c.object)
    (alone : ∀ o, c = .create o → site.tagged s.tag = [])
    (aim : ∀ o id, c = .delete o id → site.Confined s.tag (some id))
    (answers : site.Answers s.deployment arrived c exchange)
    (tells : Deed.known (.called c (some (s.outcome c exchange)) :: past) = some found) :
    (site.received s.deployment c arrived).Confined s.tag found := by
  cases c with
  | lookup o =>
    generalize told : s.outcome (.lookup o) exchange = result at tells
    cases result with
    | error e => cases tells
    | ok seen =>
      cases tells
      have other : (RemoteCall.lookup o).operation ≠ .create := nofun
      exact (lookup_confined sole about answers told).fewer ((received_other other).filter _)
  | create o =>
    generalize told : s.outcome (.create o) exchange = result at tells
    cases result with
    | error e => cases tells
    | ok id =>
      cases tells
      exact create_confined about (alone o rfl) answers told
  | delete o id =>
    generalize told : s.outcome (.delete o id) exchange = result at tells
    have gone := delete_confined sole about (aim o id rfl) answers told
    cases result with
    | ok =>
      cases tells
      exact gone (.inl rfl)
    | error e =>
      cases e with
      | notFound =>
        cases tells
        exact gone (.inr rfl)
      | _ => cases tells
  | observe => cases tells
  | update => cases tells

end Site

namespace Plant

/-- A provider has just been started on a file. Its object, if there is one, is in its project, and so is
the volume that carries the tag, if there is one. -/
structure Starts (s : Setting) (plant : Plant) : Prop where
  opened : ∃ snapshot store, Store.ofSnapshot? snapshot = .ok store ∧
    plant.works = { engine := { store } }
  project : ∀ o, plant.works.engine.store.get? s.key = some o → o.spec.projectId = s.projectId
  unsent : plant.sent = none
  sole : plant.site.Sole s

/-- An identifier that is kept for the object is the one of its volume, if it has a volume. -/
def Truthful (s : Setting) (plant : Plant) : Prop :=
  ∀ id, (plant.works.engine.custody s.key).Holds id → plant.site.Confined s.tag (some id)

/-- What the cycles of other volumes ask for is among the things that can happen. -/
theorem Step.other (s : Setting) (writes : WriteOutcome → Prop) (plant : Plant) {c : RemoteCall VolumeSpec}
    (kind : c.object.key.kind = s.key.kind) (apart : c.object.key ≠ s.key) (arrived : Option String) :
    Step s writes plant { plant with site := plant.site.received s.deployment c arrived } :=
  .elsewhere _ (Site.received_aside plant.site s.deployment arrived kind apart)

end Plant

end CloudKeeper.Volume
