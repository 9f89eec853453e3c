import CloudKeeper.Proofs.Json.Missing
import CloudKeeper.Proofs.Kind.Drift
import Mathlib.Data.List.Nodup
/-!
Null in responses. A service may send null for any member that is not required, or leave the member out; both are
read alike, and the resource that is shown is the one that the member's empty value shows. Two members are apart. The
list of volumes may be left out but not be null. And the address of a floating IP is shown as null, not as an empty
text, where it is null or left out.
-/
namespace CloudKeeper

open Function Relator
open Json (Decoder Document Fills ForgivesNull Lenient Slot Record Source Value)

variable {α β : Type} {name : String} {blank : Document} {slot whole : Slot} {source inner : Source}

/-- The empty value of a shape. -/
def Shape.empty : Shape → Document
  | .text => .string (some "")
  | .truth => .bool false
  | .count => .number (some (.int 0))
  | .texts | .reference => .object [] .closed

/-- An optional member in a resource, with its empty value: one of the resource itself, or the identifier within a
reference. The resource is then written as an object or as an array of its members. -/
inductive OptionalMember (shapes : List (String × Shape)) : (name : String) → Slot → Document → Prop
  | own {name : String} {shape : Shape} (listed : (name, shape) ∈ shapes)
    (before after : List (Option String × Document)) :
    OptionalMember shapes name (.member before name after) shape.empty
  | reference {name : String} (listed : (name, .reference) ∈ shapes)
    (before after : List (Option String × Document)) {whole : Slot}
    (within : Slot.Within ("id" :: shapes.map Prod.fst) name (.member before "id" after) whole) :
    OptionalMember shapes name whole (.string (some ""))

/-! ## Members -/

/-- A missing value, and the empty one that stands for it. -/
def Missing (empty : α) (a b : Option α) : Prop := a = none ∧ b = some empty

/-- Optional values that are the same once a missing one counts as empty. -/
abbrev SameUpTo (empty : α) : Option α → Option α → Prop := Eq on (·.getD empty)

/-- References with the same identifier, once a missing one counts as empty. -/
abbrev SameReference : Option (Option String) → Option (Option String) → Prop :=
  Eq on fun r => (r.getD none).getD ""

/-- An optional field is read leniently as it is filled. -/
def ReadsLeniently (value : Decoder α) (source : Source) (blank : Document)
    (fill : Option Document → Option Document) (alike : Option α → Option α → Prop) : Prop :=
  ∀ name, Lenient blank alike fun o =>
    Record.readField name (Decoder.optional value) (some none) source (fill o)

/-- An optional field, which may be the one that is filled, takes a missing value and the empty one alike. -/
theorem Json.Lenient.known {r : Record (Option α → β)} {related : β → β → Prop} {empty : α}
    {members : Option Document → List (Option String × Document)}
    (built : Lenient blank (SameUpTo empty ⇒ related) fun o => r.ofMembers source (members o))
    {fill : Option Document → Option Document} {filled : String} (fills : Fills fill filled members)
    {value : Decoder α} (reads : name = filled → ReadsLeniently value source blank fill (Missing empty)) :
    Lenient blank related fun o =>
      (r.field name (Decoder.optional value) (some none)).ofMembers source (members o) := by
  refine built.either fills (fun _ _ => rfl) fun own => (reads own name).mono ?_
  rintro _ _ ⟨rfl, rfl⟩
  rfl

/-- A member of a shape is read leniently as it is filled. -/
def Shape.Lenient (shape : Shape) (source : Source) (blank : Document)
    (fill : Option Document → Option Document) : Prop :=
  match shape with
  | .text => ReadsLeniently Decoder.string source blank fill (Missing "")
  | .truth => ReadsLeniently Decoder.bool source blank fill (Missing false)
  | .count => ReadsLeniently Decoder.uint64 source blank fill (Missing 0)
  | .texts => ReadsLeniently (Decoder.map Decoder.string) source blank fill (Missing .empty)
  | .reference => ReadsLeniently VirtualMachine.reference source blank fill SameReference

namespace Shape

/-- A member is read leniently in its own place. -/
theorem lenient_own (shape : Shape) (enters : source.enter = .ok inner) : shape.Lenient source shape.empty id := by
  cases shape with
  | text => exact fun name => .optional rfl nofun ⟨rfl, rfl⟩
  | truth => exact fun name => .optional rfl nofun ⟨rfl, rfl⟩
  | count => exact fun name => .optional (Decoder.uint64_inverts source 0 source.allows_zero) nofun ⟨rfl, rfl⟩
  | texts => exact fun name => .optional (Decoder.map_reads enters []) nofun ⟨rfl, rfl⟩
  | reference =>
    have missing : VirtualMachine.reference source (.object [] .closed) = .ok none :=
      ((Record.make_takes id).absent rfl).decoded enters ⟨nofun, nofun, fun _ _ => Nat.zero_le 1⟩
    exact fun name => .optional missing nofun rfl

/-- A reference is read leniently with its identifier. -/
theorem lenient_reference (before after : List (Option String × Document)) :
    Shape.reference.Lenient source (.string (some "")) fun o => some (Slot.member before "id" after o) := by
  have identified : Json.Lenient (.string (some "")) (SameUpTo "") fun o =>
      VirtualMachine.reference source (Slot.member before "id" after (id o)) := by
    refine .object Record.alone_regular List.mem_cons_self (fun d => Option.some_ne_none d) ?_
    exact fun inner members enters fills => .alone fills (.optional rfl nofun rfl)
  exact fun name => identified.within_optional nofun fun b c same => same

end Shape

/-! ## Resources -/

/-- A record of a resource, whose optional members have some shapes, is built leniently in each that is read so. -/
structure Json.Record.Shows (r : Record α) (shapes : List (String × Shape)) (alike : String → α → α → Prop) :
    Prop where
  regular : r.Regular
  names : r.names = "id" :: shapes.map Prod.fst
  built : ∀ source blank name fill members, Fills fill name members → name ≠ "id" →
    (∀ other shape, (other, shape) ∈ shapes → other = name → shape.Lenient source blank fill) →
      Lenient blank (alike name) fun o => r.ofMembers source (members o)

/-- A resource is read leniently in each of its optional members. -/
theorem Json.Record.Shows.lenient {r : Record α} {shapes : List (String × Shape)} {alike : String → α → α → Prop}
    (shows : r.Shows shapes alike) (optional : OptionalMember shapes name slot blank) (room : Nat) :
    Lenient blank (alike name) fun o => r.decoder (.text (room + 2)) (slot o) := by
  have distinct := shows.names ▸ shows.regular.distinct
  have unique {name other : String} {shape shape' : Shape} (listed : (name, shape) ∈ shapes)
      (also : (other, shape') ∈ shapes) (same : other = name) : shape' = shape :=
    (Prod.mk.inj (List.inj_on_of_nodup_map (List.nodup_cons.1 distinct).2 also listed same)).2
  have apart {name : String} {shape : Shape} (listed : (name, shape) ∈ shapes) : name ≠ "id" := by
    rintro rfl
    exact (List.nodup_cons.1 distinct).1 (List.mem_map.2 ⟨_, listed, rfl⟩)
  have known {name : String} {shape : Shape} (listed : (name, shape) ∈ shapes) : name ∈ r.names := by
    rw [shows.names]
    exact List.mem_cons_of_mem _ (List.mem_map.2 ⟨_, listed, rfl⟩)
  cases optional with
  | own listed before after =>
    refine .object shows.regular (known listed) (fun d => Option.some_ne_none d) fun inner members enters fills => ?_
    cases enters
    exact shows.built _ _ name id members fills (apart listed) fun _ shape also same =>
      unique listed also same ▸ shape.lenient_own rfl
  | reference listed before after within =>
    refine .within shows.regular (known listed) (shows.names ▸ within) fun inner members enters fills => ?_
    exact shows.built _ _ name _ members fills (apart listed) fun _ shape also same =>
      unique listed also same ▸ Shape.lenient_reference before after

namespace Volume

theorem Shown.shows : ∃ r : Record Shown, Shown.decoder = r.decoder ∧
    r.Shows shapes fun _ => Eq on Shown.toResource := by
  refine ⟨_, rfl, ?_, rfl, ?_⟩
  · exact (Record.make_regular Shown.mk).field (by decide) |>.field (by decide) |>.field (by decide)
      |>.field (by decide) |>.field (by decide) |>.field (by decide) |>.field (by decide)
  · intro source blank name fill members fills apart lenient
    have made : Lenient blank
        (Eq ⇒ SameUpTo "" ⇒ SameUpTo "" ⇒ SameUpTo "" ⇒ SameUpTo 0 ⇒ SameUpTo "" ⇒ SameUpTo false ⇒
          (Eq on Shown.toResource)) fun o => (Record.make Shown.mk).ofMembers source (members o) := by
      refine fun _ _ _ => ⟨_, _, rfl, rfl, rfl, ?_⟩
      intro id id' same status status' stated title title' named description description' described size size' sized
        type type' typed multiattach multiattach' shared
      simp_all [onFun, Shown.toResource]
    exact made.elsewhere fills apart.symm (fun _ => rfl)
      |>.known fills (lenient "status" .text (by decide))
      |>.known fills (lenient "name" .text (by decide))
      |>.known fills (lenient "description" .text (by decide))
      |>.known fills (lenient "size" .count (by decide))
      |>.known fills (lenient "volume_type" .text (by decide))
      |>.known fills (lenient "multiattach" .truth (by decide))

end Volume

namespace FloatingIp

/-- What is read without a member against what is read with its empty value: the same, except that a missing address
is not shown as an empty one. -/
def Shown.Alike (name : String) (f g : Shown) : Prop :=
  if name = "floating_ip_address" then f.address = none ∧ g.toResource = { f with address := some "" }.toResource
  else f.toResource = g.toResource

theorem Shown.shows : ∃ r : Record Shown, Shown.decoder = r.decoder ∧ r.Shows shapes Shown.Alike := by
  refine ⟨_, rfl, ?_, rfl, ?_⟩
  · exact (Record.make_regular Shown.mk).field (by decide) |>.field (by decide) |>.field (by decide)
      |>.field (by decide) |>.field (by decide) |>.field (by decide) |>.field (by decide)
  · intro source blank name fill members fills apart lenient
    have made : Lenient blank
        (Eq ⇒ SameUpTo "" ⇒ SameUpTo "" ⇒ SameUpTo "" ⇒ SameUpTo 0 ⇒ SameUpTo "" ⇒
          (if name = "floating_ip_address" then Missing "" else Eq) ⇒ Shown.Alike name)
        fun o => (Record.make Shown.mk).ofMembers source (members o) := by
      refine fun _ _ _ => ⟨_, _, rfl, rfl, rfl, ?_⟩
      intro id id' same status status' stated title title' named description description' described bandwidth
        bandwidth' counted isp isp' provided address address' addressed
      by_cases own : name = "floating_ip_address" <;> simp_all [Shown.Alike, Shown.toResource, Missing]
    refine made.elsewhere fills apart.symm (fun _ => rfl)
      |>.known fills (lenient "status" .text (by decide))
      |>.known fills (lenient "name" .text (by decide))
      |>.known fills (lenient "description" .text (by decide))
      |>.known fills (lenient "bandwidth" .count (by decide))
      |>.known fills (lenient "isp" .text (by decide))
      |>.either fills (fun other _ => ?_) (fun same => ?_)
    · rw [if_neg fun same => other same.symm]
    · rw [if_pos same.symm]
      exact lenient "floating_ip_address" .text (by decide) same _

end FloatingIp

namespace VirtualMachine

theorem Shown.shows : ∃ r : Record Shown, Shown.decoder = r.decoder ∧
    r.Shows shapes fun _ => Eq on Shown.toResource := by
  refine ⟨_, rfl, ?_, rfl, ?_⟩
  · exact (Record.make_regular Shown.mk).field (by decide) |>.field (by decide) |>.field (by decide)
      |>.field (by decide) |>.field (by decide) |>.field (by decide)
  · intro source blank name fill members fills apart lenient
    have made : Lenient blank
        (Eq ⇒ SameUpTo "" ⇒ SameUpTo "" ⇒ SameUpTo .empty ⇒ SameReference ⇒ SameReference ⇒
          (Eq on Shown.toResource)) fun o => (Record.make Shown.mk).ofMembers source (members o) := by
      refine fun _ _ _ => ⟨_, _, rfl, rfl, rfl, ?_⟩
      intro id id' same status status' stated title title' named metadata metadata' described image image' imaged
        flavor flavor' flavored
      simp_all [onFun, Shown.toResource]
    exact made.elsewhere fills apart.symm (fun _ => rfl)
      |>.known fills (lenient "status" .text (by decide))
      |>.known fills (lenient "name" .text (by decide))
      |>.known fills (lenient "metadata" .texts (by decide))
      |>.either fills (fun _ _ => rfl) (lenient "image" .reference (by decide) · _)
      |>.either fills (fun _ _ => rfl) (lenient "flavor" .reference (by decide) · _)

end VirtualMachine

/-! ## Responses -/

/-- A response that envelops a resource forgives what the resource does. -/
private theorem Json.Record.Shows.forgives {decoder : Decoder α} {shapes : List (String × Shape)}
    {alike : String → α → α → Prop} (shows : ∃ r, decoder = Record.decoder r ∧ r.Shows shapes alike)
    {envelope : String} (optional : OptionalMember shapes name slot blank)
    (within : Slot.Within [envelope] envelope slot whole) :
    ForgivesNull (Json.decodeOctets ((Record.make id).field envelope decoder).decoder) (alike name) whole blank := by
  obtain ⟨r, rfl, shows⟩ := shows
  refine Lenient.forgivesNull (.envelope within fun inner enters => ?_)
  obtain rfl := Source.enter_text_iff.1 enters
  exact shows.lenient optional 124

namespace Volume

/-- The response that lists volumes forgives what each of them does. -/
private theorem listing_forgives (before after : List Document) (optional : OptionalMember shapes name slot blank)
    (within : Slot.Within ["volumes"] "volumes" (.item before slot after) whole) :
    ForgivesNull (Json.decodeOctets listing) (Eq on List.map Shown.toResource) whole blank := by
  refine Lenient.forgivesNull (.envelope within fun inner enters => .list fun inner' enters' => ?_)
  obtain rfl := Source.enter_text_iff.1 enters
  obtain rfl := Source.enter_text_iff.1 enters'
  obtain ⟨r, same, shows⟩ := Shown.shows
  rw [same]
  exact shows.lenient optional 123

/-- The list itself may be left out or empty, but not null. -/
private theorem listing_member {before after : List (Option String × Document)} {d : Document} {body : List UInt8}
    {vs : List Shown} (written : (Slot.member before "volumes" after (some d)).WrittenAs body)
    (reads : Json.decodeOctets listing body = .ok vs) :
    (∀ other, (Slot.member before "volumes" after none).WrittenAs other ∨
        (Slot.member before "volumes" after (some (.array [] .closed))).WrittenAs other →
          Json.decodeOctets listing other = .ok []) ∧
      ∀ other, (Slot.member before "volumes" after (some .null)).WrittenAs other →
        ∀ vs, Json.decodeOctets listing other ≠ .ok vs := by
  rw [Json.decodeOctets_written written] at reads
  have own (o : Option Document) (vs : List Shown) :
      listing (.text Json.depthLimit) (Slot.member before "volumes" after o) = .ok vs ↔
        Record.readField "volumes" (Decoder.list Shown.decoder) (some []) (.text 126) o = .ok vs := by
    refine (Record.alone_iff reads o vs).trans ⟨fun ⟨inner, enters, reads⟩ => ?_, fun reads => ⟨_, rfl, reads⟩⟩
    exact Source.enter_text_iff.1 enters ▸ reads
  refine ⟨fun other form => ?_, fun other form vs reads => ?_⟩
  · rcases form with form | form
    · exact (Json.decodeOctets_written form).trans ((own none []).2 rfl)
    · exact (Json.decodeOctets_written form).trans ((own _ []).2 rfl)
  · rw [Json.decodeOctets_written form, own] at reads
    cases reads

end Volume

/-- Null never fails the reading of a response, but in one place. Whatever optional member of a volume, a floating IP
or a server a response has, wherever it has the resource, the response is also read with null there and without the
member. The two are read as the same, and show the resource that the member's empty value shows; only an address that
is missing is shown as null instead. The list of volumes, too, may be left out or empty. But it may not be null. -/
theorem missing_members_read_as_empty (name : String) (slot whole : Slot) (blank : Document) :
    (OptionalMember Volume.shapes name slot blank → Slot.Within ["volume"] "volume" slot whole →
      ForgivesNull (Json.decodeOctets Volume.envelope) (Eq on Volume.Shown.toResource) whole blank) ∧
    (∀ before after, OptionalMember Volume.shapes name slot blank →
      Slot.Within ["volumes"] "volumes" (.item before slot after) whole →
        ForgivesNull (Json.decodeOctets Volume.listing) (Eq on List.map Volume.Shown.toResource) whole blank) ∧
    (OptionalMember FloatingIp.shapes name slot blank → Slot.Within ["floatingips"] "floatingips" slot whole →
      ForgivesNull (Json.decodeOctets FloatingIp.envelope) (FloatingIp.Shown.Alike name) whole blank) ∧
    (OptionalMember VirtualMachine.shapes name slot blank → Slot.Within ["server"] "server" slot whole →
      ForgivesNull (Json.decodeOctets VirtualMachine.envelope) (Eq on VirtualMachine.Shown.toResource) whole
        blank) ∧
    ((∃ before after, whole = .member before "volumes" after) →
      ∀ d body vs, (whole (some d)).WrittenAs body → Json.decodeOctets Volume.listing body = .ok vs →
        (∀ other, (whole none).WrittenAs other ∨ (whole (some (.array [] .closed))).WrittenAs other →
          Json.decodeOctets Volume.listing other = .ok []) ∧
        ∀ other, (whole (some .null)).WrittenAs other → ∀ vs, Json.decodeOctets Volume.listing other ≠ .ok vs) := by
  refine ⟨Json.Record.Shows.forgives Volume.Shown.shows, Volume.listing_forgives,
    Json.Record.Shows.forgives FloatingIp.Shown.shows, Json.Record.Shows.forgives VirtualMachine.Shown.shows, ?_⟩
  rintro ⟨before, after, rfl⟩ d body vs
  exact Volume.listing_member

section Texts

/-- The text of a value. -/
private def text (v : Value) : List UInt8 := Text.Utf8.ofString v.toText

/-- A response that shows a server whose image has an identifier or none. -/
private def serverWith (image : List (String × Value)) : Value :=
  .object [("server", .object [("id", .string "s-1"), ("image", .object image)])]

/-- A response that lists one volume with a size or none. -/
private def volumesWith (size : List (String × Value)) : Value :=
  .object [("volumes", .array [.object (("id", .string "v-1") :: size)])]

/-- A response that shows a floating IP with an address or none. -/
private def floatingIpWith (address : List (String × Value)) : Value :=
  .object [("floatingips", .object (("id", .string "f-1") :: address))]

private theorem text_written {v : Value} (exact : v.Exact) : (Document.ofValue v).WrittenAs (text v) :=
  Json.Text.ofOctets_toText v exact

private theorem decodes {decoder : Decoder α} {v : Value} (exact : v.Exact) :
    Json.decodeOctets decoder (text v) = decoder (.text 127) (.ofValue v) :=
  Json.decodeOctets_written (text_written exact)

/-- The identifier of a server's image, the size of a volume in a list, the address of a floating IP and the list
itself, each left out, null and empty. -/
theorem missing_members_read_as_empty_texts :
    (∃ v w, v.toResource = w.toResource ∧
      Json.decodeOctets VirtualMachine.envelope (text (serverWith [])) = .ok v ∧
      Json.decodeOctets VirtualMachine.envelope (text (serverWith [("id", .null)])) = .ok v ∧
      Json.decodeOctets VirtualMachine.envelope (text (serverWith [("id", .string "")])) = .ok w) ∧
    (∃ vs ws, vs.map Volume.Shown.toResource = ws.map Volume.Shown.toResource ∧
      Json.decodeOctets Volume.listing (text (volumesWith [])) = .ok vs ∧
      Json.decodeOctets Volume.listing (text (volumesWith [("size", .null)])) = .ok vs ∧
      Json.decodeOctets Volume.listing (text (volumesWith [("size", .nat 0)])) = .ok ws) ∧
    (∃ f g, f.address = none ∧ g.toResource = { f with address := some "" }.toResource ∧
      Json.decodeOctets FloatingIp.envelope (text (floatingIpWith [])) = .ok f ∧
      Json.decodeOctets FloatingIp.envelope (text (floatingIpWith [("floating_ip_address", .null)])) = .ok f ∧
      Json.decodeOctets FloatingIp.envelope (text (floatingIpWith [("floating_ip_address", .string "")])) = .ok g) ∧
    Json.decodeOctets Volume.listing (text (.object [])) = .ok [] ∧
    ∀ vs, Json.decodeOctets Volume.listing (text (.object [("volumes", .null)])) ≠ .ok vs := by
  refine ⟨?_, ?_, ?_, ?_⟩
  · have image : OptionalMember VirtualMachine.shapes "image" _ _ :=
      .reference (by decide) [] [] (.member [(some "id", .string (some "s-1"))] [])
    have exact {v : Value} (plain : v.Exact) : (serverWith [("id", v)]).Exact :=
      ⟨⟨trivial, ⟨plain, trivial⟩, trivial⟩, trivial⟩
    obtain ⟨v, w, same, missing, blank⟩ := (missing_members_read_as_empty _ _ _ _).2.2.2.1 image (.member [] []) .null
      (text (serverWith [("id", .null)])) ⟨"s-1", none, none, none, some none, none⟩ (text_written (exact trivial))
      (decodes (exact trivial))
    exact ⟨v, w, same, missing _ (.inl (text_written ⟨⟨trivial, trivial, trivial⟩, trivial⟩)),
      missing _ (.inr (text_written (exact trivial))), blank _ (text_written (exact trivial))⟩
  · have size : OptionalMember Volume.shapes "size" _ Shape.count.empty :=
      .own (by decide) [(some "id", .string (some "v-1"))] []
    have exact {v : Value} (plain : v.Exact) : (volumesWith [("size", v)]).Exact :=
      ⟨⟨⟨trivial, plain, trivial⟩, trivial⟩, trivial⟩
    have fits : (Value.nat 0).Exact := ⟨by decide, by decide⟩
    obtain ⟨vs, ws, same, missing, blank⟩ := (missing_members_read_as_empty _ _ _ _).2.1 [] [] size (.member [] []) .null
      (text (volumesWith [("size", .null)])) [⟨"v-1", none, none, none, none, none, none⟩]
      (text_written (exact trivial)) (decodes (exact trivial))
    exact ⟨vs, ws, same, missing _ (.inl (text_written ⟨⟨⟨trivial, trivial⟩, trivial⟩, trivial⟩)),
      missing _ (.inr (text_written (exact trivial))), blank _ (text_written (exact fits))⟩
  · have address : OptionalMember FloatingIp.shapes "floating_ip_address" _ Shape.text.empty :=
      .own (by decide) [(some "id", .string (some "f-1"))] []
    have exact {v : Value} (plain : v.Exact) : (floatingIpWith [("floating_ip_address", v)]).Exact :=
      ⟨⟨trivial, plain, trivial⟩, trivial⟩
    obtain ⟨f, g, ⟨unset, same⟩, missing, blank⟩ := (missing_members_read_as_empty _ _ _ _).2.2.1 address
      (.member [] []) .null (text (floatingIpWith [("floating_ip_address", .null)]))
      ⟨"f-1", none, none, none, none, none, none⟩ (text_written (exact trivial)) (decodes (exact trivial))
    exact ⟨f, g, unset, same, missing _ (.inl (text_written ⟨⟨trivial, trivial⟩, trivial⟩)),
      missing _ (.inr (text_written (exact trivial))), blank _ (text_written (exact trivial))⟩
  · have listed : (Document.ofValue (.object [("volumes", .array [])])).WrittenAs _ :=
      text_written ⟨trivial, trivial⟩
    obtain ⟨missing, null⟩ := (missing_members_read_as_empty "volumes" (.member [] "volumes" []) _ .null).2.2.2.2
      ⟨[], [], rfl⟩ (.array [] .closed) _ [] listed (Json.decodeOctets_written listed)
    exact ⟨missing _ (.inl (text_written trivial)), null _ (text_written ⟨trivial, trivial⟩)⟩

/-- A volume that is looked for. -/
private def data : Declared VolumeSpec where
  key := ⟨"volume", "data"⟩
  spec := { name := "data", projectId := "p", size := 1, volumeType := "ssd" }

/-- A lookup finds nothing where the list of volumes is empty or left out, and fails where it is null. -/
theorem null_list_fails_lookup :
    let lookup (body : List (String × Value)) :=
      (Volume.service "default").read (.lookup data) ⟨200, text (.object body)⟩
    lookup [("volumes", .array [])] = .ok none ∧ lookup [] = .ok none ∧
      lookup [("volumes", .null)] = .error (.decode "invalid type") := by
  intro lookup
  have reads (body : List (String × Value)) (exact : (Value.object body).Exact) :
      lookup body = (match Volume.listing (.text 127) (.ofValue (.object body)) with
        | .ok vs => Volume.found "default" data.key vs
        | .error e => .error (.decode e.message)) := by
    change ((Http.Response.check ⟨200, text (.object body)⟩).bind fun r =>
      (r.decode Volume.listing).bind (Volume.found "default" data.key)) = _
    rw [show Http.Response.check ⟨200, text (.object body)⟩ = .ok ⟨200, text (.object body)⟩ from rfl]
    simp only [Except.bind, Http.Response.decode, decodes exact]
    cases Volume.listing (.text 127) (.ofValue (.object body)) <;> rfl
  exact ⟨reads _ ⟨trivial, trivial⟩, reads _ trivial, reads _ ⟨trivial, trivial⟩⟩

end Texts

end CloudKeeper
