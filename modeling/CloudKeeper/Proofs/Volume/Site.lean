import CloudKeeper.Kind.Volume
import CloudKeeper.Proofs.Json.Decoding
import CloudKeeper.Proofs.Json.Reading
/-!
The volume service as far as a client can rely on it. It holds volumes, each in the collection of a
project and with metadata; a create request adds one, a delete request takes one away, and a list request
shows those of a collection that carry the metadata asked for. Responses can fail, get lost or be garbled,
but one that a client can make sense of is true.
-/
namespace CloudKeeper.Volume

open Json (Decoder Value)
open Http (Exchange Request Response)

/-- A volume at the service. -/
structure Resident where
  /-- The path of the collection that it was created in. -/
  home : String
  id : String
  metadata : SortedMap String String

/-- The volumes at the service. -/
abbrev Site := List Resident

namespace Resident

/-- The path of the volume. -/
def path (v : Resident) : String := v.home ++ "/" ++ v.id

/-- Whether the volume carries all of the metadata that is asked for. -/
def carries (v : Resident) (asked : SortedMap String String) : Bool :=
  asked.entries.all fun e => v.metadata.get? e.1 == some e.2

/-- Whether the volume carries an ownership tag. -/
def isTagged (v : Resident) (tag : String) : Bool := v.metadata.get? tagKey == some tag

theorem isTagged_iff {home id own tag : String} :
    Resident.isTagged ⟨home, id, .ofList [(tagKey, own)]⟩ tag = true ↔ own = tag := by
  have carried : SortedMap.get? (.ofList [(tagKey, own)]) tagKey = some own :=
    (SortedMap.get?_insert ..).trans (if_pos rfl)
  rw [isTagged, carried, beq_iff_eq, Option.some_inj]

end Resident

/-- The metadata that the body of a create request asks for. -/
def sentMetadata (body : Value) : SortedMap String String :=
  match ((body.get? "volume").bind (·.get? "metadata")).map
      (Json.decodeValue (Decoder.map Decoder.string)) with
  | some (.ok metadata) => metadata
  | _ => .empty

/-- The body of a create request asks for the ownership tag and no other metadata. -/
theorem createBody_metadata (deployment : String) (key : Key) (s : VolumeSpec) :
    ((createBody deployment key s).get? "volume").bind (·.get? "metadata") =
      some (.object [(tagKey, .string (tag deployment key))]) := by
  unfold createBody
  cases s.availabilityZone <;> simp [Value.get?, Value.member?]

/-- What a response shows, if its status and its body let a client make sense of it. -/
def shows {α : Type} (decoder : Decoder α) (response : Response) : Except ClientError α := do
  (← response.check).decode decoder

/-- A volume of which nothing is shown but the identifier. -/
def Shown.bare (id : String) : Shown := ⟨id, none, none, none, none, none, none⟩

/-- A response that lists volumes and shows nothing but their identifiers. -/
def listResponse (ids : List String) : Response where
  status := 200
  body := Text.Utf8.ofString (Value.toPrettyText
    (.object [("volumes", .array (ids.map fun id => .object [("id", .string id)]))]))

private theorem shows_listResponse (ids : List String) :
    shows listing (listResponse ids) = .ok (ids.map Shown.bare) := by
  let item (id : String) : Value := .object [("id", .string id)]
  let body : Value := .object [("volumes", .array (ids.map item))]
  have exact_ : body.Exact := by
    refine ⟨Value.itemsExact_iff.2 fun v member => ?_, trivial⟩
    obtain ⟨id, -, rfl⟩ := List.mem_map.1 member
    exact ⟨trivial, trivial⟩
  have enters : (Json.Source.text 126).enter = .ok (.text 125) := rfl
  have reads : ∀ id, Shown.decoder (.text 125) (.ofValue (item id)) = .ok (.bare id) := fun _ => rfl
  have volumes := Decoder.list_reads enters reads ids
  have decoded : listing (.text Json.depthLimit) (.ofValue body) = .ok (ids.map Shown.bare) :=
    (Json.Record.make_reads id |>.present rfl volumes).decoded rfl (by simp)
  have checked : (listResponse ids).check = .ok (listResponse ids) := rfl
  rw [shows, checked]
  change (listResponse ids).decode listing = _
  rw [Response.decode, Json.decodeOctets, listResponse, Json.Text.ofOctets_toPrettyText body exact_,
    Json.decodeText, decoded]
  rfl

namespace Site

/-- The volumes after a request has arrived. A volume that is created gets the identifier given. -/
def after (site : Site) (fresh : String) (request : Request) : Site :=
  match request.method with
  | .post => ⟨request.path, fresh, (request.body.map sentMetadata).getD .empty⟩ :: site
  | .delete => site.filter fun v => v.path != request.path
  | .get | .put => site

/-- The volumes that carry an ownership tag. -/
def tagged (site : Site) (tag : String) : Site := site.filter (·.isTagged tag)

/-- No volume carries the tag but one with the identifier given. -/
def Confined (site : Site) (tag : String) (found : Option String) : Prop :=
  ∀ v ∈ site.tagged tag, found = some v.id

/-- What a list request shows. -/
def listed (site : Site) (path : String) (asked : SortedMap String String) : Site :=
  site.filter fun v => v.home ++ "/detail" == path && v.carries asked

/-- A response is true as far as a client can make sense of it, given the identifier of a new volume if the
request has arrived. -/
def Tells (site : Site) (arrived : Option String) (request : Request) (response : Response) : Prop :=
  match request.method, request.query with
  | .get, some (_, filter) => ∀ asked shown,
    Json.decodeOctets (Decoder.map Decoder.string) (Text.Utf8.ofString filter) = .ok asked →
      shows listing response = .ok shown →
        (shown.map Shown.id).Perm ((site.listed request.path asked).map Resident.id)
  | .get, none =>
    (response.isNotFound = true → ∀ v ∈ site, v.path ≠ request.path) ∧
      ∀ shown, shows envelope response = .ok shown → ∃ v ∈ site, v.path = request.path
  | .post, _ => ∀ shown, shows envelope response = .ok shown → arrived = some shown.id
  | .delete, _ =>
    ((∃ ok, response.check = .ok ok) → arrived.isSome = true) ∧
      (response.isNotFound = true → ∀ v ∈ site, v.path ≠ request.path)
  | .put, _ => True

variable {site : Site} {deployment base tag_ : String} {arrived : Option String}
  {c : RemoteCall VolumeSpec} {o : Declared VolumeSpec}

/-- The volumes after the request of a call, which may not have arrived. -/
def received (site : Site) (deployment : String) (c : RemoteCall VolumeSpec) (arrived : Option String) :
    Site :=
  match arrived, ask deployment c with
  | some fresh, .send request => site.after fresh request
  | _, _ => site

/-- What becomes of the request of a call is in accord with the volumes. -/
def Answers (site : Site) (deployment : String) (arrived : Option String) (c : RemoteCall VolumeSpec)
    (exchange : Exchange) : Prop :=
  ∀ request response, ask deployment c = .send request → exchange = .answered response →
    site.Tells arrived request response

private theorem sentMetadata_createBody (o : Declared VolumeSpec) :
    sentMetadata (createBody deployment o.key o.spec) = .ofList [(tagKey, tag deployment o.key)] := by
  have reads : Json.decodeValue (Decoder.map Decoder.string)
      (.object [(tagKey, .string (tag deployment o.key))]) = .ok (.ofList [(tagKey, tag deployment o.key)]) :=
    Decoder.map_inverts .value (.ofList [(tagKey, tag deployment o.key)]) trivial
  rw [sentMetadata, createBody_metadata, Option.map_some, reads]

/-- A volume that a call creates is tagged for its object, in the collection of its project. -/
theorem received_create (site : Site) (deployment fresh : String) (o : Declared VolumeSpec) :
    site.received deployment (.create o) (some fresh) =
      ⟨collection o.spec.projectId, fresh, .ofList [(tagKey, tag deployment o.key)]⟩ :: site := by
  change Resident.mk _ fresh (sentMetadata (createBody deployment o.key o.spec)) :: site = _
  rw [sentMetadata_createBody]

/-- Every other call leaves at most the volumes that there are. -/
theorem received_other (other : c.operation ≠ .create) :
    (site.received deployment c arrived).Sublist site := by
  cases arrived with
  | none => exact List.Sublist.refl site
  | some fresh =>
    cases c with
    | create => exact absurd rfl other
    | delete => exact List.filter_sublist
    | _ => exact List.Sublist.refl site

/-- The tag tells the objects of one kind apart. -/
theorem tag_injective {a b : Key} (kind : a.kind = b.kind) (same : tag deployment a = tag deployment b) :
    a = b := by
  obtain ⟨ofKind, name⟩ := a
  cases kind
  exact congrArg _ ((String.append_right_inj _).1 same)

/-- A call for another object of the kind gives no volume the tag of this one. -/
theorem received_aside (site : Site) (deployment : String) (arrived : Option String) {key : Key}
    (kind : c.object.key.kind = key.kind) (apart : c.object.key ≠ key) :
    ((site.received deployment c arrived).tagged (tag deployment key)).Sublist
      (site.tagged (tag deployment key)) := by
  by_cases creates : c.operation = .create
  · cases c with
    | create o =>
      cases arrived with
      | none => exact List.Sublist.refl _
      | some fresh =>
        have untagged : ¬Resident.isTagged
            ⟨collection o.spec.projectId, fresh, .ofList [(tagKey, tag deployment o.key)]⟩
            (tag deployment key) = true :=
          fun carries => apart (tag_injective kind (Resident.isTagged_iff.1 carries))
        rw [received_create, tagged, List.filter_cons, if_neg untagged]
        exact List.Sublist.refl _
    | _ => cases creates
  · exact (received_other creates).filter _

/-- The answer of a call that did not fail for want of a response is read from one. -/
private theorem response_of_outcome {exchange : Exchange} {result : Except ClientError c.Answer}
    (outcome : (service deployment).outcome base c (fun _ => exchange) = result)
    (spoken : ∀ text, result ≠ .error (.transport text)) :
    ∃ request response, ask deployment c = .send request ∧ exchange = .answered response ∧
      read deployment c response = result := by
  have asks : ∃ request, ask deployment c = .send request := by cases c <;> exact ⟨_, rfl⟩
  obtain ⟨request, asks⟩ := asks
  have asks' : (service deployment).ask c = .send request := asks
  rw [Service.outcome, asks'] at outcome
  dsimp only at outcome
  split at outcome
  · exact absurd outcome.symm (spoken _)
  · cases exchange with
    | answered response => exact ⟨request, response, asks, rfl, outcome⟩
    | _ => exact absurd outcome.symm (spoken _)

private theorem decode_tagFilter (deployment : String) (key : Key) :
    Json.decodeOctets (Decoder.map Decoder.string) (Text.Utf8.ofString (tagFilter deployment key)) =
      .ok (.ofList [(tagKey, tag deployment key)]) := by
  have reads : Decoder.map Decoder.string (.text Json.depthLimit)
      (.ofValue (.object [(tagKey, .string (tag deployment key))])) =
        .ok (.ofList [(tagKey, tag deployment key)]) :=
    Decoder.map_inverts (.text Json.depthLimit) (.ofList [(tagKey, tag deployment key)])
      (show 1 ≤ 127 by decide)
  rw [tagFilter, Json.decodeOctets, Json.Text.ofOctets_member, Json.decodeText]
  simp only [reads, bind, Except.bind, ↓reduceIte]
  rfl

private theorem shows_bind {α β : Type} {decoder : Decoder α} {response : Response}
    {next : α → Except ClientError β} {b : β}
    (reads : (do next (← (← response.check).decode decoder)) = .ok b) :
    ∃ a, shows decoder response = .ok a ∧ next a = .ok b := by
  unfold shows
  cases checked : response.check with
  | error e =>
    rw [checked] at reads
    cases reads
  | ok passed =>
    rw [checked] at reads
    change (passed.decode decoder >>= next) = .ok b at reads
    cases decoded : passed.decode decoder with
    | error e =>
      rw [decoded] at reads
      cases reads
    | ok a =>
      rw [decoded] at reads
      exact ⟨a, decoded, reads⟩

/-- A lookup tells of every volume in the collection that is tagged for its object, which can only be one. -/
theorem lookup_tells {exchange : Exchange} {found : Option String}
    (answers : site.Answers deployment arrived (.lookup o) exchange)
    (outcome : (service deployment).outcome base (.lookup o) (fun _ => exchange) = .ok found)
    {v : Resident} (present : v ∈ site) (tagged : v.isTagged (tag deployment o.key) = true)
    (home : v.home = collection o.spec.projectId) : found = some v.id := by
  obtain ⟨request, response, asks, rfl, reads⟩ := response_of_outcome outcome nofun
  cases asks
  obtain ⟨shown, isShown, tells⟩ := shows_bind reads
  have listed : v ∈ site.listed (collection o.spec.projectId ++ "/detail")
      (.ofList [(tagKey, tag deployment o.key)]) := by
    refine List.mem_filter.2 ⟨present, ?_⟩
    rw [home, beq_self_eq_true, Bool.true_and]
    exact (Bool.and_true _).trans tagged
  have same := answers _ response rfl rfl _ shown (decode_tagFilter deployment o.key) isShown
  have told : v.id ∈ shown.map Shown.id := same.mem_iff.2 (List.mem_map_of_mem listed)
  match shown, tells, told with
  | [only], rfl, told => rw [List.mem_singleton.1 told]

/-- A volume that a lookup finds is in the collection and tagged for its object. -/
theorem lookup_finds {exchange : Exchange} {id : String}
    (answers : site.Answers deployment arrived (.lookup o) exchange)
    (outcome : (service deployment).outcome base (.lookup o) (fun _ => exchange) = .ok (some id)) :
    ∃ v ∈ site, v.id = id ∧ v.isTagged (tag deployment o.key) = true ∧ v.home = collection o.spec.projectId := by
  obtain ⟨request, response, asks, rfl, reads⟩ := response_of_outcome outcome nofun
  cases asks
  obtain ⟨shown, isShown, tells⟩ := shows_bind reads
  have same := answers _ response rfl rfl _ shown (decode_tagFilter deployment o.key) isShown
  have told : id ∈ shown.map Shown.id := by
    match shown, tells with
    | [only], rfl => exact List.mem_singleton_self _
  obtain ⟨v, listed, rfl⟩ := List.mem_map.1 (same.mem_iff.1 told)
  obtain ⟨present, fits⟩ := List.mem_filter.1 listed
  obtain ⟨path, carries⟩ := Bool.and_eq_true_iff.1 fits
  exact ⟨v, present, rfl, (Bool.and_true _).symm.trans carries, (String.append_left_inj _).1 (beq_iff_eq.1 path)⟩

/-- Whatever volumes there are, the service can answer a lookup, and the cycle then learns of those that are
tagged for its object. -/
theorem lookup_answered (site : Site) (arrived : Option String) (o : Declared VolumeSpec)
    (sendable : ∀ request, ask deployment (.lookup o) = .send request →
      (request.url? base).isSome = true) :
    let ids := (site.listed (collection o.spec.projectId ++ "/detail")
      (.ofList [(tagKey, tag deployment o.key)])).map Resident.id
    let exchange : Exchange := .answered (listResponse ids)
    site.Answers deployment arrived (.lookup o) exchange ∧
      (service deployment).outcome base (.lookup o) (fun _ => exchange) =
        found deployment o.key (ids.map Shown.bare) := by
  intro ids exchange
  constructor
  · intro request response asks same
    cases asks
    cases Exchange.answered.inj same
    intro asked shown reads isShown
    cases (decode_tagFilter deployment o.key).symm.trans reads
    cases (shows_listResponse ids).symm.trans isShown
    have same : Shown.id ∘ Shown.bare = id := rfl
    rw [List.map_map, same, List.map_id]
  · obtain ⟨url, builds⟩ := Option.isSome_iff_exists.1 (sendable _ rfl)
    have unfolds : (service deployment).outcome base (.lookup o) (fun _ => exchange) =
        (shows listing (listResponse ids)).bind (found deployment o.key) := by
      simp only [Service.outcome, service, ask, builds, shows, exchange]
      rfl
    rw [unfolds, shows_listResponse]
    rfl

/-- The identifier that a create call answers is that of the volume that it created. -/
theorem create_tells {exchange : Exchange} {id : String}
    (answers : site.Answers deployment arrived (.create o) exchange)
    (outcome : (service deployment).outcome base (.create o) (fun _ => exchange) = .ok id) :
    arrived = some id := by
  obtain ⟨request, response, asks, rfl, reads⟩ := response_of_outcome outcome nofun
  cases asks
  obtain ⟨shown, isShown, tells⟩ := shows_bind reads
  have same : shown.id = id := by
    rw [createdId] at tells
    split at tells
    · cases tells
    · exact Except.ok.inj tells
  rw [← same]
  exact answers _ response rfl rfl shown isShown

/-- After a delete call that succeeded, or found nothing to delete, no volume has the path. -/
theorem delete_tells {exchange : Exchange} {id : String} {result : Except ClientError Unit}
    (answers : site.Answers deployment arrived (.delete o id) exchange)
    (outcome : (service deployment).outcome base (.delete o id) (fun _ => exchange) = result)
    (deleted : result = .ok () ∨ result = .error .notFound) {v : Resident}
    (present : v ∈ site.received deployment (.delete o id) arrived) :
    v.path ≠ item o.spec.projectId id := by
  have spoken : ∀ text, result ≠ .error (.transport text) := by
    rintro text rfl
    rcases deleted with same | same <;> cases same
  obtain ⟨request, response, asks, rfl, reads⟩ := response_of_outcome outcome spoken
  cases asks
  obtain ⟨arrives, absent⟩ := answers _ response rfl rfl
  cases arrived with
  | some fresh => exact bne_iff_ne.1 (List.mem_filter.1 present).2
  | none =>
    -- a request that has not arrived has no success to report
    have failed : ∀ ok, response.check ≠ .ok ok := fun ok checked => by cases arrives ⟨ok, checked⟩
    change (do let _ ← response.check) = result at reads
    unfold Http.Response.check at reads failed
    split at reads
    case isTrue missing => exact absent (beq_iff_eq.2 missing) v present
    case isFalse other =>
      split at reads
      · subst reads
        rcases deleted with same | same <;> cases same
      case isFalse fine =>
        rw [if_neg other, if_neg fine] at failed
        exact absurd rfl (failed response)

end Site

end CloudKeeper.Volume
