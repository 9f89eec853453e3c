import CloudKeeper.Proofs.Cycle.Nameless
import CloudKeeper.Proofs.Kind.Absence
import CloudKeeper.Proofs.Volume.Site
/-!
Where an empty text can come from that is taken for an identifier. A service that has created a resource has
to name it, and every kind sees to that. But a volume that is found by its tag is taken by whatever name it
is listed under, and that is the only way: an empty text is remembered in a run exactly if a list of volumes
has shown one volume and no name for it. Then nothing is created for the object any more.
-/
namespace CloudKeeper

open Json (Decoder)

variable {S α β : Type}

/-- A move in which a call is answered over HTTP, or is given up, if it is a reply at all. -/
def Move.IsOverHttp (service : Service S) (base : String) : Move S → Prop
  | .answer _ replies => ∀ c, replies c = none ∨ ∃ exchange, replies c = some (service.outcome base c exchange)
  | _ => True

/-- What a cycle has been told was a reply in one of the moves. -/
theorem Works.answered_of_called [Spec S] {kind : Kind S} {w : Works S} {key : Key} {moves : List (Move S)}
    {c : RemoteCall S} {reply : c.Reply} (calls : .called c reply ∈ w.deeds kind key moves) :
    ∃ replies, .answer key replies ∈ moves ∧ replies c = reply := by
  induction moves generalizing w with
  | nil => cases calls
  | cons move rest ih =>
    rcases List.mem_append.1 calls with later | latest
    · obtain ⟨replies, member, told⟩ := ih later
      exact ⟨replies, List.mem_cons_of_mem _ member, told⟩
    · replace latest := Option.mem_toList.1 latest
      cases move with
      | answer own replies =>
        simp only [deed?] at latest
        split at latest
        next c' next runs =>
          split at latest
          next same =>
            cases latest
            exact ⟨replies, same ▸ List.mem_cons_self, rfl⟩
          next => cases latest
        next => cases latest
      | act own now write =>
        simp only [deed?] at latest
        split at latest
        · split at latest <;> cases latest
        · cases latest
      | _ => cases latest

/-- The identifier of what has been created is not empty. -/
theorem createdId_ne_empty (id kind : String) : createdId id kind ≠ .ok "" := by
  unfold createdId
  split
  next => nofun
  next given =>
    rintro ⟨⟩
    exact given rfl

/-- What comes of a response: its body is decoded if its status does not say that the call has failed. -/
theorem Http.Response.decoded_iff {decoder : Decoder α} {response : Http.Response}
    {next : α → Except ClientError β} {b : β} :
    (do next (← (← response.check).decode decoder)) = .ok b ↔ response.status < 400 ∧
      ∃ a, Json.decodeOctets decoder response.body = .ok a ∧ next a = .ok b := by
  by_cases gone : response.status = 404
  · simp [Http.Response.check, gone, bind, Except.bind]
  by_cases fails : 400 ≤ response.status
  · simp [Http.Response.check, gone, fails, Nat.not_lt.2 fails, bind, Except.bind]
  rw [Http.Response.check, if_neg gone, if_neg fails]
  simp only [bind, Except.bind, Http.Response.decode, Nat.not_le.1 fails, true_and]
  cases Json.decodeOctets decoder response.body with
  | error e => simp
  | ok a => simp

namespace Service

section Outcome

variable {service : Service S} {base : String} {call : RemoteCall S} {exchange : Http.Request → Http.Exchange}

/-- A call that is answered is a request, and its outcome is what the response says. -/
theorem outcome_of_response {response : Http.Response}
    (answered : service.response? base call exchange = some response) :
    (∃ request, service.ask call = .send request) ∧
      service.outcome base call exchange = service.read call response := by
  cases asks : service.ask call with
  | known own =>
    simp only [response?, asks] at answered
    cases answered
  | refused why =>
    simp only [response?, asks] at answered
    cases answered
  | send request =>
    simp only [response?, asks] at answered
    obtain ⟨url, parsed, answered⟩ := Option.bind_eq_some_iff.1 answered
    cases becomes : exchange request <;> rw [becomes] at answered <;> cases answered
    refine ⟨⟨request, rfl⟩, ?_⟩
    simp only [outcome, asks, parsed, becomes]
    rfl

/-- A call succeeds with an answer that is known without asking, or with what the response says. -/
theorem outcome_ok_iff {answer : call.Answer} :
    service.outcome base call exchange = .ok answer ↔ service.ask call = .known answer ∨
      ∃ response, service.response? base call exchange = some response ∧
        service.read call response = .ok answer := by
  cases answered : service.response? base call exchange with
  | some response =>
    obtain ⟨⟨request, sends⟩, same⟩ := outcome_of_response answered
    simp [same, sends]
  | none =>
    cases asks : service.ask call with
    | known own => simp [outcome, asks]
    | refused why => simp [outcome, asks]
    | send request =>
      obtain ⟨why, fails⟩ := outcome_unanswered asks answered
      simp [fails]

end Outcome

/-- How the service of a kind names resources: what has been created is shown in an envelope, and its name is
checked; what a lookup finds is listed in its response, which may be one that gives a resource no name. -/
structure Names (service : Service S) (envelope : Decoder α) (name : α → String)
    (nameless : Http.Response → Prop) : Prop where
  asks : ∀ o id, service.ask (.create o) ≠ .known id
  creates : ∀ o response, service.read (.create o) response =
    do createdId (name (← (← response.check).decode envelope)) service.name
  finds : ∀ base o exchange, service.outcome base (.lookup o) exchange = .ok (some "") ↔
    ∃ response, service.response? base (.lookup o) exchange = some response ∧ nameless response

/-- In a run, a lookup of a wanted object has been answered by a response that gives a resource no name. -/
def HearsNameless [Spec S] (service : Service S) (base : String) (nameless : Http.Response → Prop) (w : Works S)
    (key : Key) (moves : List (Move S)) : Prop :=
  ∃ o exchange response, o.isDeletionRequested = false ∧
    service.response? base (.lookup o) exchange = some response ∧ nameless response ∧
    .called (.lookup o) (some (service.outcome base (.lookup o) exchange)) ∈ w.deeds service.toKind key moves

/-- What becomes of an empty text where a service should name a resource. -/
structure TreatsNameless [Spec S] (service : Service S) (envelope : Decoder α) (name : α → String)
    (nameless : Http.Response → Prop) : Prop where
  /-- One that has been created is malformed without a name. -/
  refused : ∀ base o exchange response shown, service.response? base (.create o) exchange = some response →
    response.status < 400 → Json.decodeOctets envelope response.body = .ok shown → name shown = "" →
      service.outcome base (.create o) exchange =
        .error (.decode ("create response carries no " ++ service.name ++ " id"))
  created : ∀ base o exchange, service.outcome base (.create o) exchange ≠ .ok ""
  found : ∀ base o exchange, service.outcome base (.lookup o) exchange = .ok (some "") ↔
    ∃ response, service.response? base (.lookup o) exchange = some response ∧ nameless response
  /-- Whatever store there was at first, and whatever is written and declared: only a lookup brings it about
  that an empty text is remembered. -/
  told : ∀ base store key moves, (∀ move ∈ moves, move.IsOverHttp service base) →
    Works.Remembers service.toKind key "" { engine := { store } } moves →
      service.HearsNameless base nameless { engine := { store } } key moves
  /-- And such a lookup does, before its cycle ends. -/
  remembered : ∀ base store key moves, service.HearsNameless base nameless { engine := { store } } key moves →
    (Works.run service.toKind { engine := { store } } moves).AtRest key →
      Works.Remembers service.toKind key "" { engine := { store } } moves
  /-- From then on, every cycle of an object that is wanted fails and no call is made for it. -/
  stays : ∀ store key before after, let w := Works.run service.toKind { engine := { store } } before
    w.running key = none → w.engine.unrecorded.get? key = some "" →
      (∃ spec, w.engine.store.objects.intent? key = some (spec, false)) →
      (∀ now write, .requestDeletion key now write ∉ after) →
        let later := w.run service.toKind after
        later.engine.unrecorded.get? key = some "" ∧
          (∀ c reply, .called c reply ∉ w.deeds service.toKind key after) ∧
          ∀ result, later.Reports key result → ∃ why, result = .error (.identityLost "" (.persist why))

namespace Names

variable {service : Service S} {envelope : Decoder α} {name : α → String} {nameless : Http.Response → Prop}
  {base : String} {o : Declared S} {exchange : Http.Request → Http.Exchange}

private theorem refused (names : service.Names envelope name nameless) {response : Http.Response} {shown : α}
    (answered : service.response? base (.create o) exchange = some response) (succeeds : response.status < 400)
    (decoded : Json.decodeOctets envelope response.body = .ok shown) (unnamed : name shown = "") :
    service.outcome base (.create o) exchange =
      .error (.decode ("create response carries no " ++ service.name ++ " id")) := by
  have found : response.status ≠ 404 := by omega
  rw [(outcome_of_response answered).2, names.creates, Http.Response.check, if_neg found,
    if_neg (Nat.not_le.2 succeeds)]
  simp only [bind, Except.bind, Http.Response.decode, decoded, unnamed]
  rfl

private theorem created (names : service.Names envelope name nameless) (base : String) (o : Declared S)
    (exchange : Http.Request → Http.Exchange) : service.outcome base (.create o) exchange ≠ .ok "" := by
  intro empty
  rcases outcome_ok_iff.1 empty with known | ⟨response, -, reads⟩
  · exact names.asks o "" known
  · rw [names.creates] at reads
    obtain ⟨-, shown, -, named⟩ := Http.Response.decoded_iff.1 reads
    exact createdId_ne_empty _ _ named

variable [Spec S] {key : Key} {moves : List (Move S)}

/-- A reply over HTTP tells an empty text only if it is one to a lookup that gives a resource no name. -/
private theorem hears (names : service.Names envelope name nameless) {w : Works S}
    (overHttp : ∀ move ∈ moves, move.IsOverHttp service base) {c : RemoteCall S} {reply : c.Reply}
    (calls : .called c reply ∈ w.deeds service.toKind key moves) (obtains : c.Obtains reply "") :
    service.HearsNameless base nameless w key moves := by
  obtain ⟨replies, member, rfl⟩ := Works.answered_of_called calls
  rcases overHttp _ member c with lost | ⟨exchange, replied⟩
  · rw [lost] at obtains
    cases c <;> exact obtains.elim
  rw [replied] at calls obtains
  cases told : service.outcome base c exchange with
  | error why =>
    rw [told] at obtains
    cases c <;> exact obtains.elim
  | ok answer =>
    rw [told] at obtains
    cases c with
    | create o => exact absurd (told.trans (congrArg _ obtains)) (names.created base o exchange)
    | lookup o =>
      cases answer with
      | none => exact obtains.elim
      | some id =>
        obtain ⟨wanted, rfl⟩ := obtains
        obtain ⟨response, answered, unnamed⟩ := (names.finds base o exchange).1 told
        exact ⟨o, exchange, response, wanted, answered, unnamed, calls⟩
    | _ => exact obtains.elim

omit [Spec S] in
/-- Before anything has happened, no empty text is kept, whatever objects have been loaded. -/
private theorem untold_start (store : Store S) (key : Key) : ({ engine := { store } } : Works S).Untold key "" where
  free := not_or.2 ⟨SortedMap.recordedId_ne_empty store.objects key, nofun⟩
  tracks := nofun

theorem treatsNameless (names : service.Names envelope name nameless) :
    service.TreatsNameless envelope name nameless where
  refused _ _ _ _ _ := names.refused
  created := names.created
  found := names.finds
  told base store key moves overHttp remembers := by
    obtain ⟨c, reply, calls, obtains⟩ := (untold_start store key).told remembers
    exact names.hears overHttp calls obtains
  remembered base store key moves := by
    rintro ⟨o, exchange, response, wanted, answered, unnamed, calls⟩ rests
    rw [(names.finds base o exchange).2 ⟨response, answered, unnamed⟩] at calls
    exact (untold_start store key).remembers calls ⟨wanted, rfl⟩ rests
  stays store key before after := by
    rintro w idle remembered ⟨spec, wanted⟩ asks later
    have single := Works.single_of_rest service.toKind store before fun c runs => by cases idle.symm.trans runs
    have unrecorded : w.engine.store.objects.recordedId? key = none :=
      single.resolve_right fun forgotten => by cases remembered.symm.trans forgotten
    have custody : w.engine.custody key = ⟨none, some ""⟩ := by
      rw [Engine.custody, unrecorded, remembered]
    have barren : w.Barren key := ⟨⟨spec, custody, wanted⟩, fun c runs => by cases idle.symm.trans runs⟩
    obtain ⟨⟨⟨_, wants⟩, running⟩, uncalled⟩ := barren.run asks
    exact ⟨congrArg Custody.unrecorded wants.custody, uncalled, fun result => running _⟩

end Names

end Service

/-- A response lists one volume, and gives it no name. -/
def Volume.ListsNameless (response : Http.Response) : Prop :=
  response.status < 400 ∧ ∃ v : Volume.Shown, Json.decodeOctets Volume.listing response.body = .ok [v] ∧ v.id = ""

/-- A volume without a name is found exactly if it is the only one that is listed. -/
private theorem Volume.found_nameless_iff {deployment : String} {key : Key} {vs : List Volume.Shown} :
    Volume.found deployment key vs = .ok (some "") ↔ ∃ v : Volume.Shown, vs = [v] ∧ v.id = "" := by
  match vs with
  | [] => simp [Volume.found]
  | [v] => simp [Volume.found]
  | _ :: _ :: _ => simp [Volume.found]

/-- A lookup finds an empty text exactly if one volume is listed, and listed without a name. -/
private theorem Volume.read_lookup_iff {deployment : String} {o : Declared VolumeSpec} {response : Http.Response} :
    (Volume.service deployment).read (.lookup o) response = .ok (some "") ↔ Volume.ListsNameless response := by
  refine Http.Response.decoded_iff.trans (and_congr_right fun _ => ?_)
  constructor
  · rintro ⟨vs, decoded, finds⟩
    obtain ⟨v, rfl, unnamed⟩ := Volume.found_nameless_iff.1 finds
    exact ⟨v, decoded, unnamed⟩
  · rintro ⟨v, decoded, unnamed⟩
    exact ⟨[v], decoded, Volume.found_nameless_iff.2 ⟨v, rfl, unnamed⟩⟩

theorem Volume.service_names (deployment : String) :
    (Volume.service deployment).Names Volume.envelope Volume.Shown.id Volume.ListsNameless where
  asks _ _ := nofun
  creates _ _ := rfl
  finds base o exchange := by
    refine Service.outcome_ok_iff.trans ((or_iff_right nofun).trans ?_)
    exact exists_congr fun response => and_congr_right fun _ => Volume.read_lookup_iff

/-- A kind without a lookup finds nothing. -/
private theorem Service.finds_nothing {service : Service S} (unasked : ∀ o, service.ask (.lookup o) = .known none)
    (base : String) (o : Declared S) (exchange : Http.Request → Http.Exchange) :
    service.outcome base (.lookup o) exchange = .ok (some "") ↔
      ∃ response, service.response? base (.lookup o) exchange = some response ∧ False := by
  simp [Service.outcome, unasked]

theorem FloatingIp.service_names :
    FloatingIp.service.Names FloatingIp.envelope FloatingIp.Shown.id fun _ => False where
  asks o id := by
    change withScope _ _ ≠ _
    unfold withScope
    split <;> nofun
  creates _ _ := rfl
  finds := Service.finds_nothing fun _ => rfl

theorem VirtualMachine.service_names :
    VirtualMachine.service.Names VirtualMachine.envelope VirtualMachine.Shown.id fun _ => False where
  asks _ _ := nofun
  creates _ _ := rfl
  finds := Service.finds_nothing fun _ => rfl

/-- An empty text that a service sends instead of a name is refused wherever a resource has been created, and
is never remembered in any run, whatever is answered and written, but in one way: a lookup has listed one
volume, and that without a name. Then it is remembered before the cycle ends, and from then on, as long as
the volume is wanted, every cycle fails to record it and none asks the service for anything. -/
theorem nameless_volumes_alone_are_remembered (deployment : String) :
    (Volume.service deployment).TreatsNameless Volume.envelope Volume.Shown.id Volume.ListsNameless ∧
      FloatingIp.service.TreatsNameless FloatingIp.envelope FloatingIp.Shown.id (fun _ => False) ∧
      VirtualMachine.service.TreatsNameless VirtualMachine.envelope VirtualMachine.Shown.id fun _ => False :=
  ⟨(Volume.service_names deployment).treatsNameless, FloatingIp.service_names.treatsNameless,
    VirtualMachine.service_names.treatsNameless⟩

section Unnamed

/-- A volume that is asked for. -/
private def wished : Declared VolumeSpec where
  key := ⟨Volume.kindName, "data"⟩
  spec := { name := "data", projectId := "p", size := 1, volumeType := "ssd" }

/-- What its service answers: it lists one volume, without a name. -/
private def answers (c : RemoteCall VolumeSpec) : Except ClientError c.Answer :=
  (Volume.service "default").outcome "http://net" c fun _ => .answered (Volume.listResponse [""])

/-- The works after a cycle of the volume, which has looked it up. -/
private def afterLookup : Works VolumeSpec :=
  let act : Move VolumeSpec := .act wished.key .epoch .written
  Works.run (Volume.service "default").toKind {}
    [.apply wished.key wished.spec .written, .begin wished.key, act, act,
      .answer wished.key fun c => some (answers c), act, act, act, .finish wished.key]

/-- The volume is found by an empty text, which is then remembered, and the next cycle fails and calls
nobody. -/
theorem nameless_volume_is_remembered :
    answers (.lookup wished) = .ok (some "") ∧ afterLookup.engine.custody wished.key = ⟨none, some ""⟩ ∧
      (afterLookup.run (Volume.service "default").toKind
        (.begin wished.key :: List.replicate 5 (.act wished.key .epoch .written))).Reports wished.key
          (.error (.identityLost "" (.persist "refusing to record an empty external ID for volume/data"))) := by
  refine ⟨?_, by decide +kernel, by decide +kernel⟩
  have told : (answers (.lookup wished)).toOption = some (some "") := by decide +kernel
  cases found : answers (.lookup wished) with
  | error why =>
    rw [found] at told
    cases told
  | ok id =>
    rw [found] at told
    cases told
    rfl

end Unnamed

end CloudKeeper
