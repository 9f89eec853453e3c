import CloudKeeper.Proofs.Volume.Tag
import CloudKeeper.Proofs.Volume.Uniqueness
/-!
Volumes of other deployments. A provider learns identifiers from the service only, by a lookup, which shows what
carries the tag, and by creating a volume. So it never comes to know the identifier of a volume with another tag,
and neither records nor deletes it. Tags differ unless the names of the deployments and of the objects are
shifted against each other.
-/
namespace CloudKeeper.Volume

open Http (Exchange)
open Relation (ReflTransGen)

/-- A volume is in the project of an object and does not have its tag. -/
structure Foreign (s : Setting) (v : Resident) : Prop where
  home : v.home = collection s.projectId
  untagged : v.isTagged s.tag = false

/-- No other volume has the identifier of one. -/
def Resident.Alone (v : Resident) (site : Site) : Prop := ∀ w ∈ site, w.id = v.id → w = v

/-- What the service tells of is tagged: a volume that a lookup finds, and one that is created. -/
private theorem Foreign.untold {s : Setting} {v : Resident} {site : Site} {c : RemoteCall VolumeSpec}
    {past : List (Deed VolumeSpec)} {arrived : Option String} {exchange : Exchange} {found : Option String}
    (foreign : Foreign s v) (about : s.Concerns c.object) (alone : v.Alone site)
    (alone' : v.Alone (site.received s.deployment c arrived)) (answers : site.Answers s.deployment arrived c exchange)
    (tells : Deed.known (.called c (some (s.outcome c exchange)) :: past) = some found) : found ≠ some v.id := by
  have other : v.isTagged (tag s.deployment c.object.key) ≠ true := by
    rw [about.1, ← Setting.tag, foreign.untagged]
    exact Bool.false_ne_true
  cases c with
  | lookup o =>
    generalize told : s.outcome (.lookup o) exchange = result at tells
    cases result with
    | error e => cases tells
    | ok seen =>
      cases tells
      rintro rfl
      obtain ⟨w, present, named, tagged, -⟩ := Site.lookup_finds answers told
      rw [alone w present named] at tagged
      exact other tagged
  | create o =>
    generalize told : s.outcome (.create o) exchange = result at tells
    cases result with
    | error e => cases tells
    | ok id =>
      cases tells
      rintro same
      rw [Site.create_tells answers told, Site.received_create] at alone'
      have created := alone' _ List.mem_cons_self (Option.some_inj.1 same)
      rw [← created] at other
      exact other (Resident.isTagged_iff.2 rfl)
  | delete o id =>
    generalize s.outcome (.delete o id) exchange = result at tells
    rcases result with (_ | _) | _ <;> cases tells <;> exact nofun
  | observe => cases tells
  | update => cases tells

namespace Plant

/-- What can happen next, given that the service gives no other volume the identifier of one. -/
def StepBeside (s : Setting) (writes : WriteOutcome → Prop) (v : Resident) (plant after : Plant) : Prop :=
  Step s writes plant after ∧ v.Alone after.site

/-- A provider has just been started on a file that does not name a volume as the one of its object. -/
structure Unaware (s : Setting) (v : Resident) (plant : Plant) : Prop where
  opened : ∃ snapshot store, Store.ofSnapshot? snapshot = .ok store ∧ plant.works = { engine := { store } }
  project : ∀ o, plant.works.engine.store.get? s.key = some o → o.spec.projectId = s.projectId
  unsent : plant.sent = none
  unrecorded : plant.works.engine.store.objects.recordedId? s.key ≠ some v.id
  alone : v.Alone plant.site

/-- What is true at all times of a plant, of the objects in its file and of what the cycle of the object has
done: nothing of it names the volume. -/
structure Spares (s : Setting) (writes : WriteOutcome → Prop) (v : Resident) (plant : Plant)
    (file : SortedMap Key (Declared VolumeSpec)) (past : List (Deed VolumeSpec)) : Prop where
  tracked : Tracked s writes plant file past
  alone : v.Alone plant.site
  filed : file.recordedId? s.key ≠ some v.id
  traces : (plant.works.engine.custody s.key).Traces (· ≠ some v.id) (plant.heard s past)

variable {s : Setting} {writes : WriteOutcome → Prop} {v : Resident} {plant after : Plant}
  {file file' : SortedMap Key (Declared VolumeSpec)} {past past' : List (Deed VolumeSpec)}

/-- Whatever happens next, nothing names the volume. -/
private theorem Spares.turn (spares : Spares s writes v plant file past) (foreign : Foreign s v)
    (alone : v.Alone after.site) (tracked : Tracked s writes after file' past')
    (turn : Turn s plant file past after file' past') : Spares s writes v after file' past' := by
  cases turn with
  | aside site trail source =>
    have traces := trail.traces spares.traces
    refine ⟨tracked, alone, ?_, traces⟩
    -- the file names the volume no more than memory does
    rcases source with rfl | rfl
    · exact spares.filed
    · exact fun recorded => traces.held v.id (.inl recorded) rfl
  | sent warranted about unheard answers site works same heard =>
    cases same
    refine ⟨tracked, alone, spares.filed, ?_⟩
    rw [works, heard]
    rw [site] at alone
    exact ⟨spares.traces.held, fun found tells => foreign.untold about spares.alone alone answers tells⟩
  | restarted site custody same unheard =>
    cases same
    refine ⟨tracked, alone, spares.filed, ?_⟩
    rw [custody, unheard]
    refine ⟨fun id holds => ?_, nofun⟩
    rcases holds with recorded | unrecorded
    · exact recorded ▸ spares.filed
    · cases unrecorded
  | elsewhere fewer works sent same =>
    cases same
    have heard : after.heard s past = plant.heard s past := by simp only [Plant.heard, works, sent]
    refine ⟨tracked, alone, spares.filed, ?_⟩
    rw [works, heard]
    exact spares.traces

/-- At all times nothing names the volume. -/
private theorem Unaware.reaches {start : Plant} (unaware : Unaware s v start) (foreign : Foreign s v)
    (reaches : ReflTransGen (StepBeside s writes v) start plant) :
    ∃ file past, Spares s writes v plant file past := by
  induction reaches with
  | refl =>
    obtain ⟨⟨snapshot, store, opens, same⟩, project, unsent, unrecorded, alone⟩ := unaware
    obtain ⟨works, site, sent⟩ := start
    cases unsent
    cases same
    refine ⟨_, [], tracked_opened opens project, alone, unrecorded, fun id holds => ?_, nofun⟩
    rcases holds with recorded | remembered
    · exact recorded ▸ unrecorded
    · cases remembered
  | tail _ step ih =>
    obtain ⟨file, past, spares⟩ := ih
    obtain ⟨file', past', tracked, turn⟩ := spares.tracked.step step.1
    exact ⟨file', past', spares.turn foreign step.2 tracked turn⟩

/-- A provider neither records nor remembers the identifier of a volume with another tag, and no request that it sends
takes the volume away. -/
theorem Unaware.leaves {start : Plant} (unaware : Unaware s v start) (foreign : Foreign s v)
    (reaches : ReflTransGen (StepBeside s writes v) start plant) :
    (∀ id, (plant.works.engine.custody s.key).Holds id → id ≠ v.id) ∧
      ∀ c next arrived, plant.works.running s.key = some (.call c next) → plant.sent = none → v ∈ plant.site →
        v ∈ plant.site.received s.deployment c arrived := by
  obtain ⟨file, past, spares⟩ := unaware.reaches foreign reaches
  refine ⟨fun id holds same => spares.traces.held id holds (congrArg some same), ?_⟩
  intro c next arrived calls unsent present
  have warranted := spares.tracked.underway.warranted calls
  have about : s.Concerns c.object := spares.tracked.read _ warranted.about_read
  have known := spares.traces.known
  rw [heard_unsent unsent] at known
  cases arrived with
  | none => exact present
  | some fresh =>
    cases c with
    | create o =>
      rw [Site.received_create]
      exact List.mem_cons_of_mem _ present
    | delete o id =>
      have other : id ≠ v.id := fun same => known _ warranted.known_delete (congrArg some same)
      refine List.mem_filter.2 ⟨present, bne_iff_ne.2 fun path => other ?_⟩
      have home : o.spec.projectId = s.projectId := about.2
      change v.home ++ "/" ++ v.id = collection o.spec.projectId ++ "/" ++ id at path
      rw [foreign.home, home] at path
      exact ((String.append_right_inj _).1 path).symm
    | observe | update | lookup => exact present

end Plant

/-- The service can answer a lookup with a volume that is tagged for its object. -/
private theorem lookup_adopts {deployment base : String} {own : Declared VolumeSpec} {v : Resident}
    (sendable : ∀ request, ask deployment (.lookup own) = .send request → (request.url? base).isSome = true)
    (home : v.home = collection own.spec.projectId) (tagged : v.isTagged (tag deployment own.key) = true) :
    ∃ exchange, Site.Answers [v] deployment none (.lookup own) exchange ∧
      (service deployment).outcome base (.lookup own) (fun _ => exchange) = .ok (some v.id) := by
  obtain ⟨answers, outcome⟩ := Site.lookup_answered [v] none own sendable
  have listed : Site.listed [v] (collection own.spec.projectId ++ "/detail")
      (.ofList [(tagKey, tag deployment own.key)]) = [v] := by
    refine List.filter_cons_of_pos ?_
    rw [home, beq_self_eq_true, Bool.true_and]
    exact (Bool.and_true _).trans tagged
  rw [listed] at answers outcome
  exact ⟨_, answers, outcome⟩

/-- A volume that a deployment creates for an object. -/
def Resident.MadeFor (v : Resident) (deployment : String) (o : Declared VolumeSpec) : Prop :=
  ∃ site fresh, Site.received site deployment (.create o) (some fresh) = v :: site

/-- Names of which the ones are shifted against the others. -/
def Confused (deployment name deployment' name' : String) : Prop :=
  Shifted deployment name deployment' name' ∨ Shifted deployment' name' deployment name

/-- The volumes of two objects in one project have the same ownership tag exactly if the objects are the same of the
same deployment, or their names and those of the deployments are shifted against each other. If the tags differ, a
provider neither records the volume of the other deployment nor deletes it; if the names are shifted, its lookup finds
it. -/
theorem tags_tell_apart_unless_confused {s : Setting} {d : String} {o : Declared VolumeSpec} {v : Resident}
    (ofKind : s.key.kind = kindName) (alike : o.key.kind = kindName) (project : o.spec.projectId = s.projectId)
    (made : v.MadeFor d o) :
    let own := d = s.deployment ∧ o.key.name = s.key.name
    let confused := Confused d o.key.name s.deployment s.key.name
    (tag d o.key = s.tag ↔ own ∨ confused) ∧
      (¬own → ¬confused → ∀ writes start plant, Plant.Unaware s v start →
        ReflTransGen (Plant.StepBeside s writes v) start plant →
          (∀ id, (plant.works.engine.custody s.key).Holds id → id ≠ v.id) ∧
            ∀ c next arrived, plant.works.running s.key = some (.call c next) → plant.sent = none →
              v ∈ plant.site → v ∈ plant.site.received s.deployment c arrived) ∧
      (confused → ∀ declared, s.Concerns declared →
        (∀ request, ask s.deployment (.lookup declared) = .send request → (request.url? s.base).isSome = true) →
          ∃ exchange, Site.Answers [v] s.deployment none (.lookup declared) exchange ∧
            s.outcome (.lookup declared) exchange = .ok (some v.id)) := by
  intro own confused
  obtain ⟨site, fresh, made⟩ := made
  rw [Site.received_create] at made
  obtain ⟨rfl, -⟩ := List.cons.inj made
  have same : tag d o.key = s.tag ↔ own ∨ confused := by
    have named {key : Key} (ofKind : key.kind = kindName) : key = ⟨kindName, key.name⟩ := by rw [← ofKind]
    rw [Setting.tag, named alike, named ofKind]
    exact tag_eq_iff
  refine ⟨same, ?_, ?_⟩
  · intro apart unconfused writes start plant unaware reaches
    refine unaware.leaves ⟨congrArg collection project, Bool.eq_false_iff.2 fun tagged => ?_⟩ reaches
    exact (same.1 (Resident.isTagged_iff.1 tagged)).elim apart unconfused
  · rintro shifted declared ⟨key, home⟩ sendable
    refine lookup_adopts sendable (congrArg collection (project.trans home.symm)) (Resident.isTagged_iff.2 ?_)
    rw [key]
    exact same.2 (.inr shifted)

section Neighbours

open Plant Plant.Lab

/-- A deployment that shares the project of another. -/
private def neighbour : Setting := { setting with deployment := "eu" }

/-- An object of the neighbour, whose volume is to be deleted. -/
private def departing : Declared VolumeSpec := { unwanted with recordedId := some "v-2" }

/-- A deployment whose name goes on with what the name of an object of the neighbour begins with. -/
private def confused : Setting := { setting with deployment := "eu/volume/x" }

/-- The object of the neighbour. -/
private def tempting : Declared VolumeSpec := { wanted with key := ⟨"volume", "x/volume/data"⟩ }

/-- The volume of the neighbour's object. -/
private def theirs : Resident := ⟨collection "p", "v-1", .ofList [(tagKey, tag "eu" tempting.key)]⟩

private theorem neighbour_unaware : Unaware neighbour volume (started departing [volume]) where
  opened := started_opened ..
  project o stands := by
    have own : (started departing [volume]).works.engine.store.get? neighbour.key = some departing := rfl
    cases own.symm.trans stands
    rfl
  unsent := rfl
  unrecorded := by decide
  alone w member _ := List.mem_singleton.1 member

/-- The cycle of the neighbour's object, up to the request. -/
private def departure : List (Move VolumeSpec) := [.begin setting.key, act, act]

private theorem departs : ReflTransGen (StepBeside neighbour (fun _ => True) volume) (started departing [volume])
    { started departing [volume] with
      works := (started departing [volume]).works.run neighbour.kind departure } := by
  have one (plant : Plant) (move : Move VolumeSpec) (admits : neighbour.Admits (fun _ => True) move)
      (site : plant.site = [volume]) : StepBeside neighbour (fun _ => True) volume plant
        { plant with works := plant.works.step neighbour.kind move } := by
    refine ⟨.move admits, fun w member _ => ?_⟩
    rw [site] at member
    exact List.mem_singleton.1 member
  have acts : neighbour.Admits (fun _ => True) act := ⟨fun _ => nofun, fun _ _ => nofun, fun _ _ => trivial⟩
  have begins : neighbour.Admits (fun _ => True) (.begin setting.key) :=
    ⟨fun _ => nofun, fun _ _ => nofun, fun _ _ => trivial⟩
  exact ((ReflTransGen.single (one _ _ begins rfl)).tail (one _ _ acts rfl)).tail (one _ _ acts rfl)

/-- A neighbour with an object of the same name deletes its own volume and leaves the other one. A deployment with
a confused name finds the volume of the neighbour. -/
theorem tags_tell_apart_unless_confused_lab :
    (∃ plant next, ReflTransGen (StepBeside neighbour (fun _ => True) volume) (started departing [volume]) plant ∧
      plant.works.running setting.key = some (.call (.delete departing "v-2") next) ∧
      volume ∈ plant.site.received "eu" (.delete departing "v-2") (some "")) ∧
    ∃ exchange, Site.Answers [theirs] "eu/volume/x" none (.lookup unwanted) exchange ∧
      confused.outcome (.lookup unwanted) exchange = .ok (some "v-1") := by
  constructor
  · have unconfused : ¬Confused "lab" wanted.key.name neighbour.deployment neighbour.key.name := by
      rintro (shifted | shifted)
      · exact absurd shifted.slash.1 (by decide)
      · exact absurd shifted.slash.1 (by decide)
    have made : volume.MadeFor "lab" wanted := ⟨[], "v-1", Site.received_create ..⟩
    have apart := tags_tell_apart_unless_confused (s := neighbour) rfl rfl rfl made
    have leaves := apart.2.1 (by decide) unconfused _ _ _ neighbour_unaware departs
    exact ⟨_, _, departs, rfl, leaves.2 _ _ _ rfl rfl List.mem_cons_self⟩
  · have made : theirs.MadeFor "eu" tempting := ⟨[], "v-1", Site.received_create ..⟩
    have shifted := tags_tell_apart_unless_confused (s := confused) rfl rfl rfl made
    refine shifted.2.2 (.inl (.apart "x" rfl rfl)) unwanted ⟨rfl, rfl⟩ ?_
    rintro request ⟨⟩
    decide

/-- Both names of deployments and both names of objects are accepted, and the tags are equal. The lookup of the one
deployment finds the volume of the other, and the deletion of its own object takes the volume away. -/
theorem volume_of_other_deployment_is_deleted :
    (∃ args a, CommandLine.parse args [] = .ok a ∧ a.config.deployment = "eu") ∧
      (∃ args a, CommandLine.parse args [] = .ok a ∧ a.config.deployment = "eu/volume/x") ∧
      (∃ data m, Manifest.parse data = .ok m ∧ "x/volume/data" ∈ m.volumes.map (·.name)) ∧
      (∃ data m, Manifest.parse data = .ok m ∧ "data" ∈ m.volumes.map (·.name)) ∧
      tag "eu" ⟨kindName, "x/volume/data"⟩ = tag "eu/volume/x" ⟨kindName, "data"⟩ ∧
      (∃ exchange, Site.Answers [theirs] "eu/volume/x" none (.lookup unwanted) exchange ∧
        confused.outcome (.lookup unwanted) exchange = .ok (some "v-1")) ∧
      (∃ next, ((started unwanted [theirs]).works.run confused.kind
          [.begin setting.key, act, act, .answer setting.key (replies (some "v-1")), act]).running setting.key =
        some (.call (.delete unwanted "v-1") next)) ∧
      Site.received [theirs] "eu/volume/x" (.delete unwanted "v-1") (some "") = [] := by
  have same : tag "eu" ⟨kindName, "x/volume/data"⟩ = tag "eu/volume/x" ⟨kindName, "data"⟩ :=
    tag_eq_iff.2 (.inr (.inl (.apart "x" rfl rfl)))
  refine ⟨CommandLine.takes_every_deployment _, CommandLine.takes_every_deployment _,
    Manifest.takes_every_name (by decide), Manifest.takes_every_name (by decide), same, ?_, ⟨_, rfl⟩, by decide⟩
  refine lookup_adopts ?_ rfl (Resident.isTagged_iff.2 same)
  rintro request ⟨⟩
  decide

end Neighbours

end CloudKeeper.Volume
