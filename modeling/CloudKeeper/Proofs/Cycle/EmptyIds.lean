import CloudKeeper.Kind.Family
import CloudKeeper.Proofs.Cycle.Lockstep
/-!
An empty identifier is the same as none. An object can have one if its file was written by hand: it counts as
no identifier, but it is kept as it was read, written again, and it is there to be taken back. Two runs whose
stores differ in nothing but such identifiers run in lockstep, with a view that leaves empty ones out.
-/
namespace CloudKeeper

variable {S : Type}

/-- The object without an identifier that is empty. -/
def Declared.named (o : Declared S) : Declared S := { o with recordedId := o.externalId }

private theorem filter_eq_iff {id id' : Option String} :
    (id.filter fun id => !id.isEmpty) = (id'.filter fun id => !id.isEmpty) ↔
      id = id' ∨ id = some "" ∧ id' = none ∨ id = none ∧ id' = some "" := by
  cases id <;> cases id' <;> simp [Option.filter_some]
  case some.some a b =>
    by_cases empty : a = "" <;> by_cases empty' : b = "" <;> simp [empty, empty', eq_comm]

/-- Objects that are the same without empty identifiers differ at most in an identifier that is empty in the one
and absent in the other. -/
theorem Declared.named_eq_iff {o o' : Declared S} : o.named = o'.named ↔
    o' = { o with recordedId := o'.recordedId } ∧
      (o.recordedId = o'.recordedId ∨ o.recordedId = some "" ∧ o'.recordedId = none ∨
        o.recordedId = none ∧ o'.recordedId = some "") := by
  rw [← filter_eq_iff]
  constructor
  · intro same
    refine ⟨?_, congrArg Declared.recordedId same⟩
    obtain ⟨key, spec, recordedId, conditions, deletionRequested⟩ := o
    obtain ⟨key', spec', recordedId', conditions', deletionRequested'⟩ := o'
    simp only [named, mk.injEq] at same
    obtain ⟨rfl, rfl, -, rfl, rfl⟩ := same
    rfl
  · rintro ⟨rest, ids⟩
    rw [rest]
    exact congrArg (fun id => { o with recordedId := id }) ids

/-- Objects without identifiers that are empty. -/
def View.named : View S where
  of := Declared.named
  spec_eq := congrArg Declared.spec
  externalId_eq := congrArg Declared.recordedId
  requested_eq := congrArg Declared.isDeletionRequested
  wanting same spec deletionRequested :=
    congrArg (fun o : Declared S => { o with spec, deletionRequested }) same
  recording same recordedId :=
    congrArg (fun o : Declared S => { o with recordedId := recordedId.filter fun id => !id.isEmpty }) same
  stating same state now := congrArg (fun o : Declared S => o.withState state now) same

/-- No service hears of an empty identifier, or of a condition: what is sent for a call is sent for it without
them. -/
theorem services_ask_named (deployment : String) :
    (∀ c request, (services deployment).volumes.ask (c.bare.under Declared.named) = .send request ↔
      (services deployment).volumes.ask c = .send request) ∧
    (∀ c request, (services deployment).floatingIps.ask (c.bare.under Declared.named) = .send request ↔
      (services deployment).floatingIps.ask c = .send request) ∧
    ∀ c request, (services deployment).virtualMachines.ask (c.bare.under Declared.named) = .send request ↔
      (services deployment).virtualMachines.ask c = .send request := by
  refine ⟨fun c request => ?_, fun c request => ?_, fun c request => ?_⟩ <;> cases c <;> exact .rfl

variable [Spec S]

/-- Stores that differ in nothing but identifiers that are empty in the one and absent in the other, neither in
memory nor in their files. -/
def Store.SameButEmptyIds (s s' : Store S) : Prop := s.SameBy .named (fun _ => False) s'

/-- Files that are read as objects that differ in nothing but empty identifiers are opened as such stores. -/
theorem Store.opened_sameButEmptyIds {path : String} {data data' : List UInt8}
    {objects objects' : List (Declared S)}
    (reads : Json.decodeOctets (Json.Decoder.list Declared.decoder) data = .ok objects)
    (reads' : Json.decodeOctets (Json.Decoder.list Declared.decoder) data' = .ok objects')
    (same : objects.map Declared.named = objects'.map Declared.named) :
    ∃ s s' : Store S, Store.ofSnapshot? { path, target := .octets data } = .ok s ∧
      Store.ofSnapshot? { path, target := .octets data' } = .ok s' ∧ s.SameButEmptyIds s' := by
  let opened (data : List UInt8) (objects : List (Declared S)) : Store S :=
    { objects := .ofList (objects.map fun o => (o.key, o)), snapshot := some { path, target := .octets data } }
  have opens {data : List UInt8} {objects : List (Declared S)}
      (reads : Json.decodeOctets (Json.Decoder.list Declared.decoder) data = .ok objects) :
      Store.ofSnapshot? { path, target := .octets data } = .ok (opened data objects) := by
    simp only [Store.ofSnapshot?, Snapshot.objects?, reads]
    rfl
  have keyed (objects : List (Declared S)) :
      (SortedMap.ofList (objects.map fun o => (o.key, o))).map Declared.named =
        .ofList ((objects.map Declared.named).map fun o => (o.key, o)) := by
    rw [SortedMap.map_ofList, List.map_map, List.map_map]
    rfl
  refine ⟨opened data objects, opened data' objects', opens reads, opens reads', ⟨?_, nofun⟩, rfl, ?_⟩
  · exact (keyed objects).trans (same ▸ (keyed objects').symm)
  · exact .some ⟨rfl, .tell (.inr reads) (.inr reads') same, .same _⟩

namespace Traffic

/-- **An empty identifier counts as none.** Take any run of calls for cycles, side by side, and of operations of
authors, who may do anything but take an identifier back, from two states that differ in nothing but
identifiers that are empty in the one and absent in the other, and let every step turn out the same in both.
The authors are told the same, the cycles make the same calls in the same order and have the same results, and
after any number of steps the same has been announced and remembered, and the states differ in nothing but
empty identifiers. -/
theorem empty_ids_count_as_none (kind : Kind S) {e e' : Engine S} (same : e.store.SameButEmptyIds e'.store)
    (unrecorded : e.unrecorded = e'.unrecorded) {paces : List (Pace S)}
    (keeps : ∀ key write, .author (.clearExternalId key) write ∉ paces) :
    ((start kind e).sights paces).map (Sight.under Declared.named) =
        ((start kind e').sights paces).map (Sight.under Declared.named) ∧
      ∀ n, let t := (start kind e).run (paces.take n)
        let t' := (start kind e').run (paces.take n)
        t.engine.store.SameButEmptyIds t'.engine.store ∧ t.engine.unrecorded = t'.engine.unrecorded := by
  have started : (start kind e).SameBy .named (fun _ => False) (start kind e') :=
    start_sameBy kind ⟨same, unrecorded⟩
  have covers : (View.named : View S).Covers Declared.named := fun _ _ => congrArg Declared.bare
  have steps : List.Forall₂ (Pace.SameBy View.named Declared.named) paces paces :=
    List.forall₂_same.2 fun pace member =>
      Pace.sameBy_self (fun key write own => absurd (own ▸ member) (keeps key write)) covers
  refine ⟨(started.run steps).2, fun n => ?_⟩
  obtain ⟨⟨_, after⟩, -⟩ := started.run (List.forall₂_take n steps)
  exact ⟨after.engine.store.settle nofun, after.engine.unrecorded⟩

section Address

/-- An address with an identifier as it may stand in a file. -/
private def handmade (recordedId : Option String) : Declared FloatingIpSpec where
  key := ⟨"floating_ip", "web"⟩
  spec := { projectId := "p", isp := "BGP", bandwidth := 1 }
  recordedId := recordedId

private def holding (recordedId : Option String) : Engine FloatingIpSpec where
  store :=
    { objects := .ofList [((handmade recordedId).key, handmade recordedId)]
      snapshot := some { path := "floating_ip.json" } }

/-- A cycle that makes the address and cannot write its identifier. -/
private def unwritable : List (Pace FloatingIpSpec) :=
  let full : Action FloatingIpSpec → Circumstances := fun _ => ⟨.epoch, .temporaryFailed "no space left", none⟩
  let replies : Replies := ⟨none, some (.ok "ip-1"), none, none, some (.ok none)⟩
  [.author (.apply (handmade none).key (handmade none).spec) .written, .arrive (handmade none).key, .ask 0,
    .enter 0, .act 0 full, .act 0 full, .answer 0 replies, .answer 0 replies, .act 0 full, .act 0 full,
    .act 0 full, .evict 0]

/-- The address has no identifier in the one state and an empty one in the other. Both cycles make it, and after
the failed write neither has an identifier. -/
theorem empty_ids_count_as_none_address :
    (holding (some "")).store.SameButEmptyIds (holding none).store ∧
      (∀ key write, .author (.clearExternalId key) write ∉ unwritable) ∧
      ((start FloatingIp.service.toKind (holding (some ""))).sights unwritable).map
          (Sight.under Declared.named) =
        ((start FloatingIp.service.toKind (holding none)).sights unwritable).map
          (Sight.under Declared.named) ∧
      ((start FloatingIp.service.toKind (holding none)).sights unwritable).length = 4 ∧
      (((start FloatingIp.service.toKind (holding (some ""))).run unwritable).engine.store.get?
        (handmade none).key).map Declared.recordedId = some none ∧
      ((start FloatingIp.service.toKind (holding (some ""))).run unwritable).engine.unrecorded.get?
        (handmade none).key = some "ip-1" := by
  have same : (holding (some "")).store.SameButEmptyIds (holding none).store :=
    ⟨⟨rfl, nofun⟩, rfl, .some ⟨rfl, .same _, .same _⟩⟩
  have keeps : ∀ key write, .author (.clearExternalId key) write ∉ unwritable := by
    intro key write member
    simp [unwritable] at member
  obtain ⟨sights, -⟩ := empty_ids_count_as_none FloatingIp.service.toKind same rfl keeps
  exact ⟨same, keeps, sights, by rfl, by rfl, by rfl⟩

end Address

end Traffic

end CloudKeeper
