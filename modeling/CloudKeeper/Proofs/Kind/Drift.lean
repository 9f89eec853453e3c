import CloudKeeper.Kind.Family
import CloudKeeper.Proofs.Json.Decoding
import CloudKeeper.Proofs.Json.Reading
/-!
No update for ever. What a kind compares between an object and its resource is what it sends to create and to
update the resource, under the same names, and it does send both requests unless it can build none. A service that
shows it back makes the comparison succeed: whatever else the response says, in whatever order, and also where it
leaves out what is empty. A response that shows anything else makes the comparison fail, so a drift is never missed
either.
-/
namespace CloudKeeper

open Json (Decoder Document Orderly Record Source Value)

variable {S α β : Type}

/-! ## What is sent -/

/-- A request has an object at a place of its body, and the values are members of it. -/
def Http.Request.Carries (request : Http.Request) (place : List String) (values : List (String × Value)) : Prop :=
  ∃ body object, request.body = some body ∧ place.foldlM Value.get? body = some object ∧
    ∀ e ∈ values, object.get? e.1 = some e.2

/-! ## What is shown -/

/-- What the value of a member of a response must be, unless it is null. -/
inductive Shape
  | text
  | truth
  | count
  /-- An object whose members are texts. -/
  | texts
  /-- An object that may have an identifier. -/
  | reference
  deriving DecidableEq, Repr

/-- The tree of a value is of a shape. -/
inductive Shape.Fits : (shape : Shape) → Document → Prop
  | text (s : String) : Fits .text (.string (some s))
  | truth (b : Bool) : Fits .truth (.bool b)
  | count (n : UInt64) : Fits .count (.number (some (.int n.toNat)))
  | texts (given : List (String × String)) : Fits .texts (.texts given)
  | reference {members : List (Option String × Document)} (orderly : Orderly ["id"] members)
    (typed : ∀ d, members.lookup (some "id") = some d → d = .null ∨ ∃ s, d = .string (some s)) :
    Fits .reference (.object members .closed)

/-- The members of a resource in a response are well typed: it has an identifier, and what else is known of it is
of its shape, null or absent. What is not known can be anything. -/
structure WellTyped (shapes : List (String × Shape)) (members : List (Option String × Document)) : Prop where
  orderly : Orderly ("id" :: shapes.map Prod.fst) members
  identified : ∃ id, members.lookup (some "id") = some (.string (some id))
  typed : ∀ name shape, (name, shape) ∈ shapes → ∀ d, members.lookup (some name) = some d →
    d = .null ∨ shape.Fits d

/-- A body is an object that has, under one name, a resource with some members. -/
def Envelops (envelope : String) (members : List (Option String × Document)) (body : List UInt8) : Prop :=
  ∃ outer, Json.Text.ofOctets body = ⟨.object outer .closed, true⟩ ∧ Orderly [envelope] outer ∧
    outer.lookup (some envelope) = some (.object members .closed)

/-- What is empty, and need not be shown. -/
inductive Json.Value.Blank : Value → Prop
  | text : Blank (.string "")
  | count : Blank (.nat 0)
  | texts : Blank (.object [])

/-- What a response has in a place is a value that was sent. Where that is empty it may be null or absent, and
texts may come with further ones; of texts with one name the last counts. -/
inductive Conveys : Option Document → Value → Prop
  | text (s : String) : Conveys (some (.string (some s))) (.string s)
  | count (n : Nat) : Conveys (some (.number (some (.int n)))) (.nat n)
  | texts {given : List (String × String)} {sent : List (String × Value)}
    (holds : ∀ e ∈ sent, (given.reverse.lookup e.1).map Value.string = some e.2) :
    Conveys (some (.texts given)) (.object sent)
  | null {v : Value} (blank : v.Blank) : Conveys (some .null) v
  | absent {v : Value} (blank : v.Blank) : Conveys none v

/-- A kind compares what it sends: an object that it admits has a request to create its resource and, for whatever
resource is found, one to update it. The values that the object asks for stand at one place of the one and at another
of the other, and are those that its service must show. No other object has such a request. -/
structure Service.ComparesSent (service : Service S) (admits : S → Prop) (asked : S → List (String × Value))
    (created updated : List String) (envelope : String) (shapes : List (String × Shape)) : Prop where
  creates : ∀ o, admits o.spec → ∃ request : Http.Request,
    service.ask (.create o) = .send request ∧ request.Carries created (asked o.spec)
  updates : ∀ o r, admits o.spec → ∃ request : Http.Request,
    service.ask (.update o r) = .send request ∧ request.Carries updated (asked o.spec)
  refuses : ∀ o r, ¬admits o.spec →
    service.ask (.create o) = .refused Http.unbuildable ∧ service.ask (.update o r) = .refused Http.unbuildable
  judges : ∀ o id (status : Nat) body members, status < 400 → Envelops envelope members body →
    WellTyped shapes members → ∃ r, service.read (.observe o id) ⟨status, body⟩ = .ok (.present r) ∧
      (service.isUpToDate o.spec r = true ↔ ∀ e ∈ asked o.spec, Conveys (members.lookup (some e.1)) e.2)

/-! ## Members that may be missing -/

/-- What an optional member of a record is read as. -/
inductive Taken (shape : Shape) (value : Decoder α) (source : Source) : Option Document → Option α → Prop
  | absent : Taken shape value source none none
  | null : Taken shape value source (some .null) none
  | given {d : Document} {a : α} (fits : shape.Fits d) (decodes : value source d = .ok a) :
    Taken shape value source (some d) (some a)

/-- Every tree of a shape is read by a decoder. -/
def Shape.ReadBy (shape : Shape) (value : Decoder α) (source : Source) : Prop :=
  ∀ d, shape.Fits d → ∃ a, value source d = .ok a

namespace Shape

variable {source inner : Source}

theorem text_read (source : Source) : Shape.text.ReadBy Decoder.string source := by
  intro d fits
  cases fits with
  | text s => exact ⟨s, rfl⟩

theorem truth_read (source : Source) : Shape.truth.ReadBy Decoder.bool source := by
  intro d fits
  cases fits with
  | truth b => exact ⟨b, rfl⟩

theorem count_read (source : Source) : Shape.count.ReadBy Decoder.uint64 source := by
  intro d fits
  cases fits with
  | count n => exact ⟨n, Decoder.uint64_inverts source n source.allows_zero⟩

theorem texts_read (enters : source.enter = .ok inner) : Shape.texts.ReadBy (Decoder.map Decoder.string) source := by
  intro d fits
  cases fits with
  | texts given => exact ⟨.ofList given, Decoder.map_reads enters given⟩

end Shape

/-- A field that may be missing is read, whichever of its forms it has. -/
theorem Json.Record.Takes.maybe {r : Record (Option α → β)} {f : Option α → β} {source : Source}
    {members : List (Option String × Document)} (takes : r.Takes source members f) {name : String}
    {value : Decoder α} {shape : Shape} (read : shape.ReadBy value source)
    (typed : ∀ d, members.lookup (some name) = some d → d = .null ∨ shape.Fits d) :
    ∃ a, (r.field name (Decoder.optional value) (some none)).Takes source members (f a) ∧
      Taken shape value source (members.lookup (some name)) a := by
  cases found : members.lookup (some name) with
  | none => exact ⟨none, takes.absent found, .absent⟩
  | some d =>
    rcases typed d found with rfl | fits
    · exact ⟨none, takes.present found rfl, .null⟩
    · obtain ⟨a, decodes⟩ := read d fits
      have given : d ≠ .null := by
        rintro rfl
        cases fits
      exact ⟨some a, takes.present found (Decoder.optional_reads decodes given), .given fits decodes⟩

/-- A reference is read. -/
theorem Shape.reference_read {source inner : Source} (enters : source.enter = .ok inner) :
    Shape.reference.ReadBy VirtualMachine.reference source := by
  intro d fits
  cases fits with
  | @reference members orderly typed =>
    have made : (Record.make (id : Option String → Option String)).Takes inner members id := Record.make_takes id
    have shaped : ∀ d, members.lookup (some "id") = some d → d = .null ∨ Shape.text.Fits d := by
      intro d found
      exact (typed d found).imp_right fun ⟨s, same⟩ => same ▸ .text s
    obtain ⟨id?, takes, -⟩ := made.maybe (Shape.text_read inner) shaped
    exact ⟨id?, takes.decoded enters orderly⟩

namespace Conveys

variable {v : Value}

theorem none_iff : Conveys none v ↔ v.Blank := by
  refine ⟨fun conveys => ?_, .absent⟩
  cases conveys with
  | absent blank => exact blank

theorem null_iff : Conveys (some .null) v ↔ v.Blank := by
  refine ⟨fun conveys => ?_, .null⟩
  cases conveys with
  | null blank => exact blank

theorem blank_text_iff {s : String} : (Value.string s).Blank ↔ "" = s := by
  constructor
  · rintro ⟨⟩
    rfl
  · rintro rfl
    exact .text

theorem blank_count_iff {n : Nat} : (Value.nat n).Blank ↔ 0 = n := by
  constructor
  · intro blank
    generalize same : Value.nat n = v at blank
    cases blank with
    | count => exact (Int.ofNat.inj (Json.Number.int.inj (Value.number.inj same))).symm
    | text => cases same
    | texts => cases same
  · rintro rfl
    exact .count

theorem blank_texts_iff {members : List (String × Value)} : (Value.object members).Blank ↔ [] = members := by
  constructor
  · rintro ⟨⟩
    rfl
  · rintro rfl
    exact .texts

theorem text_iff {shown s : String} : Conveys (some (.string (some shown))) (.string s) ↔ shown = s := by
  constructor
  · rintro ⟨⟩
    rfl
  · rintro rfl
    exact .text _

theorem count_iff {shown n : Nat} : Conveys (some (.number (some (.int shown)))) (.nat n) ↔ shown = n := by
  constructor
  · intro conveys
    generalize same : Value.nat n = v at conveys
    generalize also : (shown : Int) = i at conveys
    cases conveys with
    | count m =>
      have own := Int.ofNat.inj also
      have its := Int.ofNat.inj (Json.Number.int.inj (Value.number.inj same))
      exact own.trans its.symm
  · rintro rfl
    exact .count _

theorem texts_iff {given : List (String × String)} {sent : List (String × Value)} :
    Conveys (some (.texts given)) (.object sent) ↔
      ∀ e ∈ sent, (given.reverse.lookup e.1).map Value.string = some e.2 := by
  refine ⟨fun conveys => ?_, .texts⟩
  generalize same : Document.texts given = d at conveys
  cases conveys with
  | @texts given' _ holds =>
    have trees := (Document.object.inj same).1
    obtain rfl : given = given' := by
      refine (List.map_inj_right fun e e' alike => ?_).1 trees
      simp only [Prod.mk.injEq, Option.some.injEq, Document.string.injEq] at alike
      exact Prod.ext alike.1 alike.2
    exact holds
  | null => cases same

end Conveys

namespace Taken

variable {source : Source} {d : Option Document}

/-- A text that is read as wanted is shown as wanted. -/
theorem text_iff {read : Option String} (taken : Taken .text Decoder.string source d read) (s : String) :
    read.getD "" = s ↔ Conveys d (.string s) := by
  cases taken with
  | absent => exact (Conveys.none_iff.trans Conveys.blank_text_iff).symm
  | null => exact (Conveys.null_iff.trans Conveys.blank_text_iff).symm
  | given fits decodes =>
    cases fits with
    | text shown =>
      cases decodes
      exact Conveys.text_iff.symm

/-- A count that is read as wanted is shown as wanted. -/
theorem count_iff {read : Option UInt64} (taken : Taken .count Decoder.uint64 source d read) (n : UInt64) :
    read.getD 0 = n ↔ Conveys d (.nat n.toNat) := by
  have zero : (0 : UInt64) = n ↔ 0 = n.toNat := UInt64.toNat_inj.symm
  cases taken with
  | absent => exact zero.trans (Conveys.none_iff.trans Conveys.blank_count_iff).symm
  | null => exact zero.trans (Conveys.null_iff.trans Conveys.blank_count_iff).symm
  | given fits decodes =>
    cases fits with
    | count shown =>
      cases (Decoder.uint64_inverts source shown source.allows_zero).symm.trans decodes
      exact UInt64.toNat_inj.symm.trans Conveys.count_iff.symm

/-- Texts that are read with all that are wanted are shown with all of them. -/
theorem texts_iff {inner : Source} (enters : source.enter = .ok inner) {read : Option (SortedMap String String)}
    (taken : Taken .texts (Decoder.map Decoder.string) source d read) (wanted : SortedMap String String) :
    (∀ e ∈ wanted.entries, (read.getD .empty).get? e.1 = some e.2) ↔ Conveys d (textMap wanted) := by
  have nothing : (∀ e ∈ wanted.entries, (none : Option String) = some e.2) ↔
      [] = wanted.entries.map fun e => (e.1, Value.string e.2) := by
    cases wanted.entries with
    | nil => simp
    | cons e rest => exact ⟨fun all => (nomatch all e List.mem_cons_self), nofun⟩
  cases taken with
  | absent => exact nothing.trans (Conveys.none_iff.trans Conveys.blank_texts_iff).symm
  | null => exact nothing.trans (Conveys.null_iff.trans Conveys.blank_texts_iff).symm
  | given fits decodes =>
    cases fits with
    | texts given =>
      cases (Decoder.map_reads enters given).symm.trans decodes
      have told (e : String × String) : given.reverse.lookup e.1 = some e.2 ↔
          (given.reverse.lookup e.1).map Value.string = some (.string e.2) := by
        cases given.reverse.lookup e.1 <;> simp
      rw [textMap, Conveys.texts_iff, List.forall_mem_map]
      refine forall₂_congr fun e _ => ?_
      rw [Option.getD_some, SortedMap.get?_ofList]
      exact told e

end Taken

/-! ## The kinds -/

variable {members : List (Option String × Document)}

/-- The identifier of a well typed resource is read. -/
private theorem WellTyped.takes_identifier {shapes : List (String × Shape)} (typed : WellTyped shapes members)
    (make : String → α) :
    ∃ own, ((Record.make make).field "id" Decoder.string).Takes (.text 125) members (make own) :=
  typed.identified.imp fun _ found => (Record.make_takes make).present found rfl

/-- What is known of a well typed resource is read. -/
private theorem WellTyped.takes_known {shapes : List (String × Shape)} (typed : WellTyped shapes members)
    {r : Record (Option α → β)} {f : Option α → β} {source : Source} (takes : r.Takes source members f)
    (name : String) {value : Decoder α} {shape : Shape} (read : shape.ReadBy value source)
    (listed : (name, shape) ∈ shapes) :
    ∃ a, (r.field name (Decoder.optional value) (some none)).Takes source members (f a) ∧
      Taken shape value source (members.lookup (some name)) a :=
  takes.maybe read (typed.typed name shape listed)

/-- A body in which a resource can be read is decoded as the resource. -/
private theorem decodes_envelope {envelope : String} {shown : Decoder α} {body : List UInt8} {a : α}
    (envelops : Envelops envelope members body) (decodes : shown (.text 126) (.object members .closed) = .ok a) :
    Json.decodeOctets ((Record.make id).field envelope shown).decoder body = .ok a := by
  obtain ⟨outer, reads, orderly, found⟩ := envelops
  have takes : ((Record.make id).field envelope shown).Takes (.text 126) outer a :=
    (Record.make_takes id).present found decodes
  have root : ((Record.make id).field envelope shown).decoder (.text 127) (.object outer .closed) = .ok a :=
    takes.decoded rfl orderly
  simp only [Json.decodeOctets, Json.decodeText, reads, Json.depthLimit, root]
  rfl

/-- A resource that is decoded is observed. -/
private theorem observes {decoder : Decoder α} {resource : α → RemoteResource} {status : Nat} {body : List UInt8}
    {a : α} (succeeds : status < 400) (decoded : Json.decodeOctets decoder body = .ok a) :
    let response : Http.Response := ⟨status, body⟩
    (if response.isNotFound then .ok .absent
      else do return .present (resource (← (← response.check).decode decoder)) : Except ClientError Observation) =
        .ok (.present (resource a)) := by
  have there : status ≠ 404 := by omega
  have fails : ¬400 ≤ status := by omega
  simp only [Http.Response.isNotFound, Http.Response.check, beq_iff_eq, there, fails, if_false, bind, Except.bind,
    Http.Response.decode, decoded, pure, Except.pure]

namespace Volume

/-- What an object asks of its volume that can be changed. -/
def asked (s : VolumeSpec) : List (String × Value) :=
  [("name", .string s.name), ("description", .string s.description)]

/-- What is known of a volume in a response beside its identifier. -/
def shapes : List (String × Shape) :=
  [("status", .text), ("name", .text), ("description", .text), ("size", .count), ("volume_type", .text),
    ("multiattach", .truth)]

theorem isUpToDate_shown (s : VolumeSpec) (v : Shown) : isUpToDate s v.toResource = true ↔
    v.name.getD "" = s.name ∧ v.description.getD "" = s.description := by
  simp [isUpToDate, Shown.toResource, RemoteResource.text, RemoteResource.attribute?, Value.member?, Value.string?]

theorem service_comparesSent (deployment : String) :
    (service deployment).ComparesSent (fun _ => True) asked ["volume"] ["volume"] "volume" shapes where
  creates := by
    intro o _
    refine ⟨_, rfl, _, _, rfl, rfl, ?_⟩
    simp [asked, Value.get?, Value.member?]
  updates := by
    intro o r _
    refine ⟨_, rfl, _, _, rfl, rfl, ?_⟩
    simp [asked, Value.get?, Value.member?]
  refuses o r no := absurd trivial no
  judges := by
    intro o id status body members succeeds envelops typed
    obtain ⟨own, takes⟩ := typed.takes_identifier Shown.mk
    obtain ⟨status?, takes, -⟩ := typed.takes_known takes "status" (Shape.text_read _) (by decide)
    obtain ⟨name?, takes, named⟩ := typed.takes_known takes "name" (Shape.text_read _) (by decide)
    obtain ⟨description?, takes, described⟩ := typed.takes_known takes "description" (Shape.text_read _) (by decide)
    obtain ⟨size?, takes, -⟩ := typed.takes_known takes "size" (Shape.count_read _) (by decide)
    obtain ⟨type?, takes, -⟩ := typed.takes_known takes "volume_type" (Shape.text_read _) (by decide)
    obtain ⟨multiattach?, takes, -⟩ := typed.takes_known takes "multiattach" (Shape.truth_read _) (by decide)
    have decoded := decodes_envelope envelops (takes.decoded rfl typed.orderly)
    refine ⟨_, observes succeeds decoded, (isUpToDate_shown ..).trans ?_⟩
    simp only [asked, List.forall_mem_cons, ← named.text_iff, ← described.text_iff]
    simp

end Volume

namespace FloatingIp

/-- What an object asks of its address that can be changed. -/
def asked (s : FloatingIpSpec) : List (String × Value) :=
  [("name", .string s.name), ("description", .string s.description), ("bandwidth", .nat s.bandwidth.toNat)]

/-- What is known of an address in a response beside its identifier. -/
def shapes : List (String × Shape) :=
  [("status", .text), ("name", .text), ("description", .text), ("bandwidth", .count), ("isp", .text),
    ("floating_ip_address", .text)]

theorem isUpToDate_shown (s : FloatingIpSpec) (f : Shown) : isUpToDate s f.toResource = true ↔
    f.name.getD "" = s.name ∧ f.description.getD "" = s.description ∧ f.bandwidth.getD 0 = s.bandwidth := by
  have number (n : UInt64) : (Value.nat n.toNat).uint64? = some n := by
    change (if n.toNat < UInt64.size then some n.toNat.toUInt64 else none) = some n
    rw [if_pos n.toNat_lt_size]
    exact congrArg some n.ofNat_toNat
  simp [isUpToDate, Shown.toResource, RemoteResource.text, RemoteResource.uint64?, RemoteResource.attribute?,
    Value.member?, Value.string?, number, and_assoc]

theorem service_comparesSent :
    service.ComparesSent (Http.isHeaderValue ·.projectId = true) asked ["floatingip"] ["floatingip"] "floatingips"
      shapes where
  creates := by
    intro o legal
    refine ⟨_, if_pos legal, _, _, rfl, rfl, ?_⟩
    simp [asked, Value.get?, Value.member?]
  updates := by
    intro o r legal
    refine ⟨_, if_pos legal, _, _, rfl, rfl, ?_⟩
    simp [asked, Value.get?, Value.member?]
  refuses o r illegal := ⟨if_neg illegal, if_neg illegal⟩
  judges := by
    intro o id status body members succeeds envelops typed
    obtain ⟨own, takes⟩ := typed.takes_identifier Shown.mk
    obtain ⟨status?, takes, -⟩ := typed.takes_known takes "status" (Shape.text_read _) (by decide)
    obtain ⟨name?, takes, named⟩ := typed.takes_known takes "name" (Shape.text_read _) (by decide)
    obtain ⟨description?, takes, described⟩ := typed.takes_known takes "description" (Shape.text_read _) (by decide)
    obtain ⟨bandwidth?, takes, counted⟩ := typed.takes_known takes "bandwidth" (Shape.count_read _) (by decide)
    obtain ⟨isp?, takes, -⟩ := typed.takes_known takes "isp" (Shape.text_read _) (by decide)
    obtain ⟨address?, takes, -⟩ := typed.takes_known takes "floating_ip_address" (Shape.text_read _) (by decide)
    have decoded := decodes_envelope envelops (takes.decoded rfl typed.orderly)
    refine ⟨_, observes succeeds decoded, (isUpToDate_shown ..).trans ?_⟩
    simp only [asked, List.forall_mem_cons, ← named.text_iff, ← described.text_iff, ← counted.count_iff]
    simp

end FloatingIp

namespace VirtualMachine

/-- What an object asks of its server that can be changed. -/
def asked (s : VirtualMachineSpec) : List (String × Value) :=
  [("name", .string s.name), ("metadata", textMap s.metadata)]

/-- What is known of a server in a response beside its identifier. -/
def shapes : List (String × Shape) :=
  [("status", .text), ("name", .text), ("metadata", .texts), ("image", .reference), ("flavor", .reference)]

private theorem metadata_textMap (m : SortedMap String String) (key : String) :
    ((textMap m).get? key).bind Value.string? = m.get? key := by
  rw [← m.find?_entries key]
  simp only [textMap, Value.get?, Value.member?, List.find?_map, Function.comp_def, Option.map_map]
  cases m.entries.find? (·.1 == key) <;> rfl

theorem isUpToDate_shown (s : VirtualMachineSpec) (v : Shown) : isUpToDate s v.toResource = true ↔
    v.name.getD "" = s.name ∧ ∀ e ∈ s.metadata.entries, (v.metadata.getD .empty).get? e.1 = some e.2 := by
  have shown (key : String) : metadata? v.toResource key = (v.metadata.getD .empty).get? key := by
    rw [← metadata_textMap]
    simp [metadata?, Shown.toResource, RemoteResource.attribute?, Value.member?]
  have named : v.toResource.text "name" = v.name.getD "" := by
    simp [Shown.toResource, RemoteResource.text, RemoteResource.attribute?, Value.member?, Value.string?]
  simp only [isUpToDate, shown, named, Bool.and_eq_true, beq_iff_eq, List.all_eq_true]

theorem service_comparesSent :
    service.ComparesSent (fun _ => True) asked [] ["server"] "server" shapes where
  creates := by
    intro o _
    refine ⟨_, rfl, _, _, rfl, rfl, ?_⟩
    simp [asked, createBody, Value.get?, Value.member?]
  updates := by
    intro o r _
    refine ⟨_, rfl, _, _, rfl, rfl, ?_⟩
    simp [asked, Value.get?, Value.member?]
  refuses o r no := absurd trivial no
  judges := by
    intro o id status body members succeeds envelops typed
    obtain ⟨own, takes⟩ := typed.takes_identifier Shown.mk
    obtain ⟨status?, takes, -⟩ := typed.takes_known takes "status" (Shape.text_read _) (by decide)
    obtain ⟨name?, takes, named⟩ := typed.takes_known takes "name" (Shape.text_read _) (by decide)
    obtain ⟨metadata?, takes, described⟩ := typed.takes_known takes "metadata" (Shape.texts_read rfl) (by decide)
    obtain ⟨image?, takes, -⟩ := typed.takes_known takes "image" (Shape.reference_read rfl) (by decide)
    obtain ⟨flavor?, takes, -⟩ := typed.takes_known takes "flavor" (Shape.reference_read rfl) (by decide)
    have decoded := decodes_envelope envelops (takes.decoded rfl typed.orderly)
    refine ⟨_, observes succeeds decoded, (isUpToDate_shown ..).trans ?_⟩
    simp only [asked, List.forall_mem_cons, ← named.text_iff, ← described.texts_iff rfl]
    simp

end VirtualMachine

/-- What each kind compares is what it sends, to create a resource and to update it. It always sends both requests,
but for a floating IP in a project that no header can name, for which it builds none. A response that shows what was
sent, with whatever else that is well typed, is decoded, and the comparison succeeds exactly if each value is shown:
as it was sent, as null or not at all where it is empty, and for metadata among any further ones. So a service that
does what it is told is not told again, and one that does not is. -/
theorem drift_compares_what_is_sent (deployment : String) :
    (Volume.service deployment).ComparesSent (fun _ => True) Volume.asked ["volume"] ["volume"] "volume"
        Volume.shapes ∧
      FloatingIp.service.ComparesSent (Http.isHeaderValue ·.projectId = true) FloatingIp.asked ["floatingip"]
        ["floatingip"] "floatingips" FloatingIp.shapes ∧
      VirtualMachine.service.ComparesSent (fun _ => True) VirtualMachine.asked [] ["server"] "server"
        VirtualMachine.shapes :=
  ⟨Volume.service_comparesSent deployment, FloatingIp.service_comparesSent, VirtualMachine.service_comparesSent⟩

section Server

/-- A server that is declared to be in a tier. -/
private def server : Declared VirtualMachineSpec where
  key := ⟨"virtual_machine", "web"⟩
  spec :=
    { name := "web", projectId := "p", imageRef := "i", flavorRef := "f", metadata := .ofList [("tier", "front")] }

/-- The server as its service shows it, in a tier and in a zone, with disks that nothing is known of. -/
private def shown (tier : String) : List (String × Value) :=
  [("metadata", .object [("tier", .string tier), ("zone", .string "a")]), ("name", .string "web"),
    ("disks", .array [.null]), ("id", .string "s-1")]

private def body (tier : String) : List UInt8 :=
  Text.Utf8.ofString (Value.toPrettyText (.object [("server", .object (shown tier))]))

private theorem body_envelops (tier : String) : Envelops "server" (Document.ofMembers (shown tier)) (body tier) := by
  have exact : (Value.object [("server", .object (shown tier))]).Exact := by
    simp [shown, Value.Exact, Value.MembersExact, Value.ItemsExact]
  refine ⟨_, Json.Text.ofOctets_toPrettyText _ exact, Record.orderly_ofMembers _ (by simp), rfl⟩

private theorem shown_typed (tier : String) :
    WellTyped VirtualMachine.shapes (Document.ofMembers (shown tier)) := by
  refine ⟨Record.orderly_ofMembers _ (by simp [shown]), ⟨"s-1", rfl⟩, fun name shape listed d found => ?_⟩
  simp only [VirtualMachine.shapes, List.mem_cons, Prod.mk.injEq, List.not_mem_nil, or_false] at listed
  rcases listed with ⟨rfl, rfl⟩ | ⟨rfl, rfl⟩ | ⟨rfl, rfl⟩ | ⟨rfl, rfl⟩ | ⟨rfl, rfl⟩ <;> cases found
  · exact .inr (.text "web")
  · exact .inr (.texts [("tier", tier), ("zone", "a")])

/-- The address of the server. -/
private def address : Declared FloatingIpSpec where
  key := ⟨"floating_ip", "web"⟩
  spec := { name := "web", projectId := "p", isp := "BGP", bandwidth := 5 }

/-- The server is created and updated with its name and its tier. It is up to date if it is shown in its tier, and
it is not if it is shown in another. Its address is created and updated with its bandwidth, in a project that a
header can name. -/
theorem drift_compares_what_is_sent_server :
    let shownIn (tier : String) := VirtualMachine.service.read (.observe server "s-1") ⟨200, body tier⟩
    let tiered : List (String × Value) := [("name", .string "web"), ("metadata", .object [("tier", .string "front")])]
    let metered : List (String × Value) :=
      [("name", .string "web"), ("description", .string ""), ("bandwidth", .nat 5)]
    (∃ request, VirtualMachine.ask (.create server) = .send request ∧ request.Carries [] tiered) ∧
      (∃ request, VirtualMachine.ask (.update server { id := "s-1", state := "ACTIVE" }) = .send request ∧
        request.Carries ["server"] tiered) ∧
      (∃ r, shownIn "front" = .ok (.present r) ∧ VirtualMachine.isUpToDate server.spec r = true) ∧
      (∃ r, shownIn "back" = .ok (.present r) ∧ VirtualMachine.isUpToDate server.spec r = false) ∧
      Http.isHeaderValue address.spec.projectId = true ∧
      (∃ request, FloatingIp.ask (.create address) = .send request ∧ request.Carries ["floatingip"] metered) ∧
      ∃ request, FloatingIp.ask (.update address { id := "f-1", state := "running" }) = .send request ∧
        request.Carries ["floatingip"] metered := by
  intro shownIn tiered metered
  obtain ⟨-, addresses, servers⟩ := drift_compares_what_is_sent "lab"
  have legal : Http.isHeaderValue address.spec.projectId = true := by decide
  have named : Conveys (some (.string (some "web"))) (.string server.spec.name) := .text "web"
  have placed (tier : String) : Conveys (some (.texts [("tier", tier), ("zone", "a")]))
      (textMap server.spec.metadata) ↔ tier = "front" := by
    have sent : textMap server.spec.metadata = .object [("tier", .string "front")] := rfl
    rw [sent, Conveys.texts_iff]
    simp [List.lookup_cons]
  have judged (tier : String) : ∃ r, shownIn tier = .ok (.present r) ∧
      (VirtualMachine.isUpToDate server.spec r = true ↔ tier = "front") := by
    obtain ⟨r, reads, current⟩ := servers.judges server "s-1" 200 (body tier) _ (by decide) (body_envelops tier)
      (shown_typed tier)
    refine ⟨r, reads, current.trans ?_⟩
    simp only [VirtualMachine.asked, List.forall_mem_cons, List.not_mem_nil, false_imp_iff, implies_true, and_true]
    exact (and_iff_right named).trans (placed tier)
  obtain ⟨r, reads, current⟩ := judged "front"
  obtain ⟨r', reads', drifted⟩ := judged "back"
  refine ⟨servers.creates server trivial, servers.updates server _ trivial, ⟨r, reads, current.2 rfl⟩,
    ⟨r', reads', Bool.eq_false_iff.2 fun same => ?_⟩, legal, addresses.creates address legal,
    addresses.updates address _ legal⟩
  exact absurd (drifted.1 same) (by decide)

end Server

end CloudKeeper
