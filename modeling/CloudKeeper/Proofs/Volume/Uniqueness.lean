import CloudKeeper.Proofs.Volume.Tracking
import CloudKeeper.Time.Epoch
import Mathlib.Logic.Relation
/-!
A declared volume exists at most once. Its identifier is kept in memory, in the file and in the table of
unrecorded ones, and a crash or a write that fails can make the three disagree. What cannot go wrong is the
tag: a volume is created only after a lookup found none. While writes succeed, none of the three names a
volume other than the one that carries the tag, and so nothing is left of it when the object is deleted.
-/
namespace CloudKeeper.Volume

open Http (Exchange)
open Relation (ReflTransGen)

namespace Plant

/-- What is true at all times of a plant, of the objects in its file, and of what the cycle of the object
has done. -/
structure Sound (s : Setting) (writes : WriteOutcome → Prop) (plant : Plant)
    (file : SortedMap Key (Declared VolumeSpec)) (past : List (Deed VolumeSpec)) : Prop where
  tracked : Tracked s writes plant file past
  sole : plant.site.Sole s
  agrees : (plant.works.engine.custody s.key).Agrees (plant.heard s past)
  /-- A volume is created after a lookup found none, and then there is none. -/
  unfound : ∀ o earlier, plant.heard s past = .called (.lookup o) (some (.ok none)) :: earlier →
    plant.site.Confined s.tag none
  traces : Reliable writes →
    (plant.works.engine.custody s.key).Traces (plant.site.Confined s.tag) (plant.heard s past)

variable {s : Setting} {writes : WriteOutcome → Prop} {plant after : Plant}
  {file file' : SortedMap Key (Declared VolumeSpec)} {past past' : List (Deed VolumeSpec)}

namespace Sound

variable (sound : Sound s writes plant file past)
include sound

/-- What becomes of a request is sound: a volume is created where there is none, and what the response says
of the volume is true. -/
private theorem sent {c : RemoteCall VolumeSpec} {arrived : Option String} {exchange : Exchange}
    (tracked : Tracked s writes after file past) (warranted : c.Warranted s.kind past)
    (about : s.Concerns c.object) (unheard : plant.heard s past = past)
    (answers : plant.site.Answers s.deployment arrived c exchange)
    (site : after.site = plant.site.received s.deployment c arrived) (works : after.works = plant.works)
    (heard : after.heard s past = .called c (some (s.outcome c exchange)) :: past) :
    Sound s writes after file past := by
  obtain ⟨-, sole, agrees, unfound, traces⟩ := sound
  rw [unheard] at agrees unfound traces
  have alone : ∀ o, c = .create o → plant.site.tagged s.tag = [] := by
    rintro o rfl
    cases warranted with
    | create wanted unrecorded valid => exact (unfound o _ rfl).empty
  refine ⟨tracked, ?_, ?_, fun o earlier found => ?_, fun reliable => ⟨fun id holds => ?_, fun found tells => ?_⟩⟩
  · exact site ▸ sole.received about alone
  · rw [works, heard]
    exact agrees
  · rw [heard] at found
    obtain ⟨told, rfl⟩ := List.cons.inj found
    cases (Deed.called.inj told).1
    have tells : Deed.known (.called (.lookup o) (some (s.outcome (.lookup o) exchange)) :: past) =
        some none := by
      rw [told]
      rfl
    exact site ▸ Site.known_confined sole about alone (fun _ _ => nofun) answers tells
  · rw [site]
    rw [works] at holds
    by_cases creates : c.operation = .create
    · cases c with
      | create o =>
        -- a volume is created only when no identifier is kept that it could belie
        rw [agrees.nothing warranted] at holds
        rcases holds with kept | kept <;> cases kept
      | _ => cases creates
    · exact ((traces reliable).held id holds).fewer ((Site.received_other creates).filter _)
  · rw [site]
    rw [heard] at tells
    refine Site.known_confined sole about alone ?_ answers tells
    rintro o id rfl
    exact (traces reliable).known _ warranted.known_delete

/-- Whatever happens next, the plant stays sound. -/
private theorem turn (tracked : Tracked s writes after file' past')
    (turn : Turn s plant file past after file' past') : Sound s writes after file' past' := by
  cases turn with
  | aside site trail source =>
    refine ⟨tracked, site ▸ sound.sole, trail.agrees sound.agrees, fun o earlier looks => ?_, fun reliable => ?_⟩
    · exact site ▸ sound.unfound o earlier ((trail.looked looks).trans looks)
    · exact site ▸ trail.traces (sound.traces reliable)
  | sent warranted about unheard answers site works same heard =>
    cases same
    exact sound.sent tracked warranted about unheard answers site works heard
  | restarted site custody same unheard =>
    cases same
    refine ⟨tracked, site ▸ sound.sole, ?_, fun o earlier looks => ?_, fun reliable => ?_⟩
    · rw [unheard]
      trivial
    · cases unheard.symm.trans looks
    · rw [site, custody, unheard]
      refine ⟨fun id holds => (sound.traces reliable).held id (.inl ?_), nofun⟩
      -- the file has the identifier that memory had
      exact (sound.tracked.kept.recorded reliable).symm.trans (holds.resolve_right nofun)
  | elsewhere fewer works sent same =>
    have heard : after.heard s past = plant.heard s past := by simp only [Plant.heard, works, sent]
    refine ⟨tracked, sound.sole.fewer fewer, ?_, fun o earlier found => ?_, fun reliable => ?_⟩
    · rw [works, heard]
      exact sound.agrees
    · exact (sound.unfound o earlier (heard.symm.trans found)).fewer fewer
    · rw [works, heard]
      exact
        { held := fun id holds => ((sound.traces reliable).held id holds).fewer fewer
          known := fun found tells => ((sound.traces reliable).known found tells).fewer fewer }

end Sound

/-- At all times the plant is sound. -/
private theorem Starts.reaches {start : Plant} (starts : Starts s start)
    (truthful : Reliable writes → start.Truthful s) (reaches : ReflTransGen (Step s writes) start plant) :
    ∃ file past, Sound s writes plant file past := by
  induction reaches with
  | refl =>
    obtain ⟨⟨snapshot, store, opens, same⟩, project, unsent, sole⟩ := starts
    obtain ⟨works, site, sent⟩ := start
    cases unsent
    cases same
    exact ⟨_, [], tracked_opened opens project, sole, trivial, fun _ _ => nofun,
      fun reliable => ⟨truthful reliable, nofun⟩⟩
  | tail _ step ih =>
    obtain ⟨file, past, sound⟩ := ih
    obtain ⟨file', past', tracked, turn⟩ := sound.tracked.step step
    exact ⟨file', past', sound.turn tracked turn⟩

/-- A call whose request is sent and answered. -/
private theorem exchanged {c : RemoteCall VolumeSpec} {next : c.Reply → Cycle VolumeSpec CycleResult}
    (calls : plant.works.running s.key = some (.call c next)) (unsent : plant.sent = none)
    {arrived : Option String} {exchange : Exchange}
    (answers : plant.site.Answers s.deployment arrived c exchange)
    (replies : (call : RemoteCall VolumeSpec) → call.Reply)
    (told : some (s.outcome c exchange) = replies c) :
    ReflTransGen (Step s writes) plant
      { works := plant.works.step s.kind (.answer s.key replies)
        site := plant.site.received s.deployment c arrived } := by
  have same : plant.works.step s.kind (.answer s.key replies) =
      plant.works.step s.kind (.answer s.key fun c => some (s.outcome c exchange)) := by
    simp only [Works.step, calls, told]
  rw [same]
  exact (ReflTransGen.single (.send calls unsent arrived exchange answers)).tail (.answer rfl)

namespace Lab

/-- A deployment with one volume. -/
def setting : Setting := ⟨"lab", "http://cloud", ⟨"volume", "data"⟩, "p"⟩

def wanted : Declared VolumeSpec where
  key := setting.key
  spec := { name := "data", projectId := "p", size := 1, volumeType := "ssd" }

def unwanted : Declared VolumeSpec := { wanted with deletionRequested := some .epoch }

def volume : Resident := ⟨collection "p", "v-1", .ofList [(tagKey, setting.tag)]⟩

/-- A provider that is started on a file with one object. -/
def started (o : Declared VolumeSpec) (site : Site) : Plant where
  works.engine.store.objects := .ofList [(o.key, o)]
  works.engine.store.snapshot := some
    { path := "state.json", target := .octets (Text.Utf8.ofString (Snapshot.text [o])) }
  site := site

theorem started_opened (o : Declared VolumeSpec) (site : Site) : ∃ snapshot store,
    Store.ofSnapshot? snapshot = .ok store ∧ (started o site).works = { engine := { store } } := by
  refine ⟨⟨"state.json", .octets (Text.Utf8.ofString (Snapshot.text [o])), .missing⟩, _, ?_, rfl⟩
  rw [Snapshot.ofSnapshot?_eq, Snapshot.load?, Snapshot.objects?_of_text _ [o] rfl]
  rfl

private theorem starts {o : Declared VolumeSpec} {site : Site} (about : setting.Concerns o)
    (sole : site.Sole setting) : Starts setting (started o site) where
  opened := started_opened o site
  project found stands := by
    have own : SortedMap.get? (.ofList [(o.key, o)]) setting.key = some o := by
      rw [← about.1]
      exact (SortedMap.get?_insert ..).trans (if_pos rfl)
    cases own.symm.trans stands
    exact about.2
  unsent := rfl
  sole := sole

/-- The cycle of the object acts, with a write that succeeds. -/
def act : Move VolumeSpec := .act setting.key .epoch .written

/-- The replies to the cycle, of which a lookup tells what it found. -/
def replies (found : Option String) : (c : RemoteCall VolumeSpec) → c.Reply
  | .lookup _ => some (.ok found)
  | .delete .. => some (.ok ())
  | .observe .. | .create _ | .update .. => none

private theorem acts (allowed : writes .written) :
    Step setting writes plant { plant with works := plant.works.step setting.kind act } := by
  refine .move ⟨fun _ => nofun, fun _ _ => nofun, fun _ same => ?_⟩
  cases same
  exact allowed

/-- The cycle of an object with no identifier looks for its volume and learns of those that there are. -/
private theorem looks (allowed : writes .written) (o : Declared VolumeSpec) (site : Site)
    (about : setting.Concerns o) {next : (RemoteCall.lookup o).Reply → Cycle VolumeSpec CycleResult}
    (calls : ((started o site).works.run setting.kind [.begin setting.key, act, act]).running
      setting.key = some (.call (.lookup o) next)) {found : Option String}
    (tells : Volume.found setting.deployment o.key
      (((site.listed (collection o.spec.projectId ++ "/detail")
        (.ofList [(tagKey, Volume.tag setting.deployment o.key)])).map Resident.id).map Shown.bare) =
          .ok found) :
    ReflTransGen (Step setting writes) (started o site)
      { works := (started o site).works.run setting.kind
          [.begin setting.key, act, act, .answer setting.key (replies found)]
        site := site.received setting.deployment (.lookup o) (some "") } := by
  have sendable : ∀ request, ask setting.deployment (.lookup o) = .send request →
      (request.url? setting.base).isSome = true := by
    obtain ⟨own, project⟩ := about
    rintro request ⟨⟩
    rw [own, project]
    decide
  obtain ⟨answers, outcome⟩ := Site.lookup_answered site (some "") o sendable
  have begun : Step setting writes (started o site)
      { started o site with
        works := (started o site).works.step setting.kind (.begin setting.key) } :=
    .move ⟨fun _ => nofun, fun _ _ => nofun, fun _ => nofun⟩
  have asks := ((ReflTransGen.single begun).tail (acts allowed)).tail (acts allowed)
  exact asks.trans (exchanged calls rfl answers (replies found) (congrArg some (outcome.trans tells)))

end Lab

/-- Over any number of cycles and restarts, whatever becomes of requests and responses and however writes
turn out, there is never a second volume with the tag of the object. If no write fails, though processes
may stop before one is done, there is none when a cycle reports the object deleted. -/
theorem one_volume_per_object (s : Setting) (start plant : Plant) (starts : Starts s start) :
    (ReflTransGen (Step s fun _ => True) start plant → (plant.site.tagged s.tag).length ≤ 1) ∧
      (start.Truthful s → ReflTransGen (Step s (· = .written)) start plant →
        plant.works.Reports s.key (.ok .deleted) → plant.site.tagged s.tag = []) := by
  constructor
  · intro reaches
    have unreliable : ¬Reliable fun _ => True := fun reliable => by
      cases reliable (.temporaryFailed "") trivial
    obtain ⟨file, past, sound⟩ := starts.reaches (fun reliable => absurd reliable unreliable) reaches
    exact sound.sole.one
  · intro truthful reaches reports
    obtain ⟨file, past, sound⟩ := starts.reaches (fun _ => truthful) reaches
    rcases sound.tracked.underway with ⟨idle, -⟩ | ⟨course, cycle, runs, along⟩
    · cases idle.symm.trans reports
    · cases runs.symm.trans reports
      have traces := sound.traces fun write written => written
      have free : ¬plant.works.InCall s.key := fun ⟨c, next, calls⟩ => by cases runs.symm.trans calls
      rw [heard_unsent (sound.tracked.unsent free)] at traces
      exact (traces.known _ (course.known_deleted along)).empty

open Lab in
/-- The response to a create request is lost, and the volume is the only one. A volume that was left over
in this way is found when its object is to be deleted, and nothing of it remains. -/
theorem one_volume_per_object_lab :
    (∃ created, Starts setting (started wanted []) ∧
      ReflTransGen (Step setting fun _ => True) (started wanted []) created ∧
      created.site = [volume] ∧ (created.site.tagged setting.tag).length ≤ 1) ∧
    ∃ deleted, Starts setting (started unwanted [volume]) ∧
      (started unwanted [volume]).Truthful setting ∧
      ReflTransGen (Step setting (· = .written)) (started unwanted [volume]) deleted ∧
      deleted.works.Reports setting.key (.ok .deleted) ∧ deleted.site.tagged setting.tag = [] := by
  constructor
  · have start : Starts setting (started wanted []) :=
      starts ⟨rfl, rfl⟩ ⟨Nat.zero_le 1, fun _ => nofun⟩
    have asked : ReflTransGen (Step setting fun _ => True) (started wanted []) _ :=
      looks trivial wanted [] ⟨rfl, rfl⟩ rfl rfl
    have creates := asked.tail (.send rfl rfl (some "v-1") .timedOut fun _ _ _ => nofun)
    exact ⟨_, start, creates, Site.received_create ..,
      (one_volume_per_object setting _ _ start).1 creates⟩
  · have start : Starts setting (started unwanted [volume]) :=
      starts ⟨rfl, rfl⟩ ⟨by decide, by decide⟩
    have truthful : (started unwanted [volume]).Truthful setting := by
      rintro id (kept | kept) <;> cases kept
    have found : ReflTransGen (Step setting (· = .written)) (started unwanted [volume]) _ :=
      looks (by rfl) unwanted [volume] ⟨rfl, rfl⟩ rfl rfl
    have answers : Site.Answers [volume] setting.deployment (some "") (.delete unwanted "v-1")
        (.answered { status := 204, body := [] }) := by
      rintro request response ⟨⟩ ⟨⟩
      exact ⟨fun _ => rfl, nofun⟩
    have deletes := (found.tail (acts rfl)).trans (exchanged rfl rfl answers (replies none) rfl)
    have ended := (deletes.tail (acts rfl)).tail (acts rfl)
    exact ⟨_, start, truthful, ended, rfl,
      (one_volume_per_object setting _ _ start).2 truthful ended rfl⟩

end Plant

end CloudKeeper.Volume
