import CloudKeeper.Manifest.Feeder
import CloudKeeper.Proofs.Manifest.Names
import CloudKeeper.Proofs.SortedMap
import CloudKeeper.Proofs.Store.Effect
/-!
What a sync makes of a store, and that it is done once for all. Every entry is declared as it is listed, and
every other object of the kind gets its deletion requested; the identifiers, the conditions and the objects of
other kinds stay. A second sync with the same manifest changes nothing. The operations of the stores are taken
to succeed, at whatever time each of them is carried out.
-/
namespace CloudKeeper

variable {σ ρ S : Type}

/-- An author whose operations succeed: each acts on one store, at some time, and leaves the rest alone. -/
structure Author.Succeeds [Spec S] (author : Author σ S) (part : σ → Store S) (rest : σ → ρ) : Prop where
  apply : ∀ s key spec, ∃ after,
    author.apply s key spec = (after, ((part s).apply .written key spec).2) ∧
      part after = ((part s).apply .written key spec).1 ∧ rest after = rest s
  keys : ∀ s, author.keys s = (part s).keys
  get : ∀ s key, ∃ after, author.get? s key = (after, (part s).get? key) ∧ part after = part s ∧
    rest after = rest s
  requestDeletion : ∀ s key, ∃ now after,
    author.requestDeletion s key = (after, ((part s).requestDeletion .written now key).2) ∧
      part after = ((part s).requestDeletion .written now key).1 ∧ rest after = rest s

/-- The key of an entry of a kind. -/
def ManifestEntry.key (kind : String) (entry : ManifestEntry S) : Key := ⟨kind, entry.name⟩

/-- The object that parameters declare in the place of what is stored: all that is known of the resource
stays, and its deletion is not requested. -/
def Declared.renewed (stored : Option (Declared S)) (key : Key) (spec : S) : Declared S :=
  match stored with
  | none => { key, spec }
  | some o => { o with spec, deletionRequested := none }

/-- Whether a key is of the kind and not among the names that are listed. -/
def Key.isUnlisted (kind : String) (names : List String) (key : Key) : Bool :=
  decide (key.kind = kind ∧ key.name ∉ names)

namespace Store

/-- Whether the object of a key has yet to be declared with parameters. -/
def lacks [DecidableEq S] (s : Store S) (key : Key) (spec : S) : Bool :=
  match s.get? key with
  | none => true
  | some o => decide (o.spec ≠ spec) || o.isDeletionRequested

/-- An object is declared already if it has the parameters and its deletion is not requested. -/
private theorem lacks_eq_false_iff [DecidableEq S] {s : Store S} {key : Key} {spec : S} :
    s.lacks key spec = false ↔
      ∃ o, s.get? key = some o ∧ o.spec = spec ∧ o.deletionRequested = none := by
  unfold lacks
  cases s.get? key with
  | none => simp
  | some o => simp [Declared.isDeletionRequested]

/-- Whether the deletion of the object of a key has yet to be requested. -/
def lingers (s : Store S) (key : Key) : Bool :=
  (s.get? key).any fun o => !o.isDeletionRequested

/-- The keys of a kind that are not listed and whose objects linger. -/
def stale (s : Store S) (kind : String) (names : List String) : List Key :=
  (s.keys.filter (Key.isUnlisted kind names)).filter s.lingers

theorem lingers_iff {s : Store S} {key : Key} :
    s.lingers key = true ↔ ∃ o, s.get? key = some o ∧ o.isDeletionRequested = false := by
  unfold lingers
  cases s.get? key <;> simp

variable [Spec S]

/-- What has to be written is written and announced, when nothing hinders it. -/
private theorem perform_committed {c : StoreCall S} {s : Store S}
    {objects unwritten : SortedMap Key (Declared S)} {event : Option Event}
    (does : c.effect s.objects = .commit objects unwritten event) :
    ∃ files, c.perform s .written =
      ({ objects, sent := event.toList ++ s.sent, snapshot := files }, .ok ()) := by
  obtain ⟨files, written⟩ := persist_written { s with objects }
  refine ⟨files, ?_⟩
  rw [StoreCall.perform_eq, does, Effect.run, written]

/-- An application that succeeds declares the object and announces it, unless it is declared so already. -/
private theorem apply_written [DecidableEq S] (exactly : ∀ a b : S, Spec.same a b = decide (a = b))
    (s : Store S) (key : Key) (spec : S) :
    ∃ files, s.apply .written key spec =
      (if s.lacks key spec then
        { objects := s.objects.insert key (Declared.renewed (s.get? key) key spec)
          sent := ⟨.applied, key⟩ :: s.sent, snapshot := files }
      else s, .ok ()) := by
  by_cases due : s.lacks key spec = true
  · have does : (StoreCall.apply key spec).effect s.objects =
        let objects := s.objects.insert key (Declared.renewed (s.get? key) key spec)
        .commit objects objects (some ⟨.applied, key⟩) := by
      cases found : s.get? key with
      | none =>
        have absent : s.objects.get? key = none := found
        simp only [StoreCall.effect, absent, Declared.renewed]
      | some o =>
        have stands : s.objects.get? key = some o := found
        have takes : StoreCall.applied o spec = { o with spec, deletionRequested := none } := by
          rw [StoreCall.applied, exactly]
          by_cases same : o.spec = spec <;> simp [same]
        simp only [lacks, found, decide_not, ← exactly] at due
        simp only [StoreCall.effect, stands, due, if_true, takes, Declared.renewed]
    obtain ⟨files, performed⟩ := perform_committed does
    exact ⟨files, performed.trans (by rw [if_pos due]; rfl)⟩
  · refine ⟨none, ?_⟩
    rw [if_neg due]
    unfold lacks at due
    cases found : s.get? key with
    | none =>
      rw [found] at due
      exact absurd rfl due
    | some o =>
      simp only [found, decide_not, ← exactly] at due
      simp only [apply, found, if_neg due]

/-- A request that succeeds is noted on the object and announced, unless that has been done before. -/
private theorem requestDeletion_written (s : Store S) (now : Time.Timestamp) {key : Key} {o : Declared S}
    (found : s.get? key = some o) (unrequested : o.isDeletionRequested = false) :
    ∃ files, s.requestDeletion .written now key =
      ({ objects := s.objects.insert key { o with deletionRequested := some now }
         sent := ⟨.deletionRequested, key⟩ :: s.sent, snapshot := files }, .ok ()) := by
  have stands : s.objects.get? key = some o := found
  have does : (StoreCall.requestDeletion key now).effect s.objects =
      let objects := s.objects.insert key { o with deletionRequested := some now }
      .commit objects objects (some ⟨.deletionRequested, key⟩) := by
    simp only [StoreCall.effect, stands, unrequested, Bool.false_eq_true, if_false]
  exact perform_committed does

/-- Entries have been declared, and nothing else has been done. -/
structure Declares [DecidableEq S] (kind : String) (entries : List (ManifestEntry S))
    (before after : Store S) : Prop where
  listed : ∀ entry ∈ entries, after.get? (entry.key kind) =
    some (.renewed (before.get? (entry.key kind)) (entry.key kind) entry.spec)
  others : ∀ key, (∀ entry ∈ entries, entry.key kind ≠ key) → after.get? key = before.get? key
  keys : ∀ p : Key → Bool, (∀ entry ∈ entries, p (entry.key kind) = false) →
    after.keys.filter p = before.keys.filter p
  sent : after.sent =
    ((entries.filter fun entry => before.lacks (entry.key kind) entry.spec).map fun entry =>
      ⟨.applied, entry.key kind⟩).reverse ++ before.sent

/-- Deletion has been requested of the objects that linger under some keys, and nothing else has been done. -/
structure Prunes (due : List Key) (before after : Store S) : Prop where
  marked : ∀ key ∈ due, before.lingers key = true → ∃ o now, before.get? key = some o ∧
    after.get? key = some { o with deletionRequested := some now }
  others : ∀ key, key ∉ due ∨ before.lingers key = false → after.get? key = before.get? key
  sent : after.sent = ((due.filter before.lingers).map (⟨.deletionRequested, ·⟩)).reverse ++ before.sent

section Declares

variable [DecidableEq S] {kind : String} {before mid after : Store S} {entry : ManifestEntry S}
  {entries : List (ManifestEntry S)}

omit [Spec S] in
theorem Declares.nil (kind : String) (s : Store S) : Declares kind [] s s :=
  ⟨fun _ member => absurd member List.not_mem_nil, fun _ _ => rfl, fun _ _ => rfl, rfl⟩

omit [Spec S] in
private theorem lacks_congr {key : Key} (same : mid.get? key = before.get? key) (spec : S) :
    mid.lacks key spec = before.lacks key spec := by
  rw [lacks, same, lacks]

omit [Spec S] in
theorem Declares.cons (first : Declares kind [entry] before mid) (rest : Declares kind entries mid after)
    (apart : ∀ other ∈ entries, other.name ≠ entry.name) : Declares kind (entry :: entries) before after := by
  have away : ∀ other ∈ entries, other.key kind ≠ entry.key kind :=
    fun other member same => apart other member (congrArg Key.name same)
  have untouched : ∀ other ∈ entries, mid.get? (other.key kind) = before.get? (other.key kind) := by
    intro other member
    refine first.others _ fun own only => ?_
    cases List.mem_singleton.1 only
    exact (away other member).symm
  refine ⟨List.forall_mem_cons.2 ⟨?_, fun other member => ?_⟩, fun key clear => ?_, fun p skipped => ?_, ?_⟩
  · exact (rest.others _ away).trans (first.listed entry (List.mem_singleton_self entry))
  · rw [rest.listed other member, untouched other member]
  · obtain ⟨own, others⟩ := List.forall_mem_cons.1 clear
    exact (rest.others key others).trans (first.others key (List.forall_mem_singleton.2 own))
  · obtain ⟨own, others⟩ := List.forall_mem_cons.1 skipped
    exact (rest.keys p others).trans (first.keys p (List.forall_mem_singleton.2 own))
  · have same : (entries.filter fun other => mid.lacks (other.key kind) other.spec) =
        entries.filter fun other => before.lacks (other.key kind) other.spec :=
      List.filter_congr fun other member => lacks_congr (untouched other member) other.spec
    have split (f : ManifestEntry S → Bool) : (entry :: entries).filter f =
        [entry].filter f ++ entries.filter f := List.filter_append [entry] entries
    rw [rest.sent, first.sent, same, split, List.map_append, List.reverse_append, List.append_assoc]

/-- An application that succeeds declares one entry. -/
theorem Declares.apply (exactly : ∀ a b : S, Spec.same a b = decide (a = b)) (kind : String) (s : Store S)
    (entry : ManifestEntry S) :
    Declares kind [entry] s (s.apply .written (entry.key kind) entry.spec).1 := by
  obtain ⟨files, done⟩ := apply_written exactly s (entry.key kind) entry.spec
  rw [done]
  dsimp only
  split
  case isTrue due =>
    refine ⟨List.forall_mem_singleton.2 ?_, fun key clear => ?_, fun p skipped => ?_, ?_⟩
    · exact (SortedMap.get?_insert ..).trans (if_pos rfl)
    · have away := List.forall_mem_singleton.1 clear
      exact (SortedMap.get?_insert ..).trans (if_neg away.symm)
    · exact SortedMap.filter_keys_insert _ _ (skipped entry (List.mem_singleton_self entry))
    · simp only [List.filter_cons, due, if_true, List.filter_nil]
      rfl
  case isFalse declared =>
    refine ⟨List.forall_mem_singleton.2 ?_, fun _ _ => rfl, fun _ _ => rfl, ?_⟩
    · obtain ⟨⟨⟩, found, rfl, never⟩ := lacks_eq_false_iff.1 (Bool.eq_false_iff.2 declared)
      cases never
      rw [found]
      rfl
    · simp only [List.filter_cons, declared, List.filter_nil]
      rfl

end Declares

section Prunes

variable {before mid after : Store S} {key : Key} {due : List Key}

omit [Spec S] in
private theorem lingers_congr (same : mid.get? key = before.get? key) :
    mid.lingers key = before.lingers key := by
  rw [lingers, same, lingers]

omit [Spec S] in
/-- What has been pruned decides nothing about other keys. -/
private theorem Prunes.filter_lingers {front : List Key} (first : Prunes front before mid)
    (apart : ∀ key ∈ front, key ∉ due) : due.filter mid.lingers = due.filter before.lingers :=
  List.filter_congr fun key member =>
    lingers_congr (first.others key (.inl fun early => apart key early member))

omit [Spec S] in
theorem Prunes.append {front : List Key} (first : Prunes front before mid) (rest : Prunes due mid after)
    (apart : ∀ key ∈ front, key ∉ due) : Prunes (front ++ due) before after := by
  have untouched : ∀ key ∈ due, mid.get? key = before.get? key :=
    fun key member => first.others key (.inl fun early => apart key early member)
  refine ⟨fun key member lingers => ?_, fun key clear => ?_, ?_⟩
  · rcases List.mem_append.1 member with early | late
    · obtain ⟨o, now, found, marked⟩ := first.marked key early lingers
      exact ⟨o, now, found, (rest.others key (.inl (apart key early))).trans marked⟩
    · have same := untouched key late
      obtain ⟨o, now, found, marked⟩ := rest.marked key late ((lingers_congr same).trans lingers)
      exact ⟨o, now, same.symm.trans found, marked⟩
  · have own := first.others key (clear.imp_left fun away early => away (List.mem_append_left due early))
    refine (rest.others key ?_).trans own
    exact clear.imp (fun away late => away (List.mem_append_right front late)) (lingers_congr own).trans
  · rw [rest.sent, first.sent, first.filter_lingers apart, List.filter_append, List.map_append,
      List.reverse_append, List.append_assoc]

omit [Spec S] in
/-- To prune what does not linger is to leave all as it is. -/
theorem Prunes.idle {s : Store S} (clear : ∀ key ∈ due, s.lingers key = false) : Prunes due s s := by
  refine ⟨fun key member lingers => ?_, fun _ _ => rfl, ?_⟩
  · cases (clear key member).symm.trans lingers
  · rw [List.filter_eq_nil_iff.2 fun key member => Bool.eq_false_iff.1 (clear key member)]
    rfl

/-- A request that succeeds prunes one object. -/
theorem Prunes.requestDeletion {s : Store S} {o : Declared S} (found : s.get? key = some o)
    (unrequested : o.isDeletionRequested = false) (now : Time.Timestamp) :
    Prunes [key] s (s.requestDeletion .written now key).1 := by
  have lingers : s.lingers key = true := lingers_iff.2 ⟨o, found, unrequested⟩
  obtain ⟨files, done⟩ := requestDeletion_written s now found unrequested
  rw [done]
  refine ⟨List.forall_mem_singleton.2 fun _ => ⟨o, now, found, ?_⟩, fun other clear => ?_, ?_⟩
  · exact (SortedMap.get?_insert ..).trans (if_pos rfl)
  · have away : other ≠ key := by
      rintro rfl
      exact clear.elim (absurd (List.mem_singleton_self other)) fun none => by cases none.symm.trans lingers
    exact (SortedMap.get?_insert ..).trans (if_neg away)
  · simp only [List.filter_cons, lingers, if_true, List.filter_nil]
    rfl

end Prunes

end Store

namespace Sync

open Store (Declares Prunes)

variable [Spec S] {author : Author σ S} {part : σ → Store S} {rest : σ → ρ} {kind : String}
  {entries : List (ManifestEntry S)}

private theorem declare_eq [DecidableEq S] (exactly : ∀ a b : S, Spec.same a b = decide (a = b))
    (succeeds : author.Succeeds part rest) (kind : String) (state : σ × SyncReport) (entry : ManifestEntry S) :
    ∃ after, declare author kind state entry =
        (after, { state.2 with declared := state.2.declared + 1 }) ∧
      part after = ((part state.1).apply .written (entry.key kind) entry.spec).1 ∧
      rest after = rest state.1 := by
  obtain ⟨files, applied⟩ := Store.apply_written exactly (part state.1) (entry.key kind) entry.spec
  obtain ⟨after, does, own, others⟩ := succeeds.apply state.1 (entry.key kind) entry.spec
  rw [applied] at does
  have performs : author.apply state.1 ⟨kind, entry.name⟩ entry.spec = (after, .ok ()) := does
  exact ⟨after, by simp only [declare, performs], own, others⟩

/-- What is listed, of another kind, or does not linger is left alone. -/
private theorem prune_idle (succeeds : author.Succeeds part rest) {names : List String}
    (state : σ × SyncReport) {key : Key}
    (idle : key.isUnlisted kind names = true → (part state.1).lingers key = false) :
    ∃ after, prune author kind names state key = (after, state.2) ∧ part after = part state.1 ∧
      rest after = rest state.1 := by
  unfold prune
  split
  case isTrue => exact ⟨state.1, rfl, rfl, rfl⟩
  case isFalse unlisted =>
    obtain ⟨kinds, names⟩ := not_or.1 unlisted
    have clear := idle (decide_eq_true ⟨Decidable.not_not.1 kinds, names⟩)
    obtain ⟨seen, gets, same, untouched⟩ := succeeds.get state.1 key
    rw [gets]
    cases found : (part state.1).get? key with
    | none => exact ⟨seen, rfl, same, untouched⟩
    | some o =>
      have requested : o.isDeletionRequested = true := by
        refine Bool.not_eq_false _ ▸ fun unrequested => ?_
        cases clear.symm.trans (Store.lingers_iff.2 ⟨o, found, unrequested⟩)
      exact ⟨seen, if_pos requested, same, untouched⟩

/-- What lingers and is not listed gets its deletion requested. -/
private theorem prune_due (succeeds : author.Succeeds part rest) {names : List String}
    (state : σ × SyncReport) {key : Key} (unlisted : key.isUnlisted kind names = true) {o : Declared S}
    (found : (part state.1).get? key = some o) (unrequested : o.isDeletionRequested = false) :
    ∃ now after, prune author kind names state key =
        (after, { state.2 with pruned := state.2.pruned + 1 }) ∧
      part after = ((part state.1).requestDeletion .written now key).1 ∧ rest after = rest state.1 := by
  obtain ⟨kinds, unnamed⟩ := of_decide_eq_true unlisted
  have passes : ¬(key.kind ≠ kind ∨ key.name ∈ names) := not_or.2 ⟨not_not_intro kinds, unnamed⟩
  obtain ⟨seen, gets, same, untouched⟩ := succeeds.get state.1 key
  obtain ⟨now, after, does, own, others⟩ := succeeds.requestDeletion seen key
  rw [same] at does own
  obtain ⟨files, written⟩ := Store.requestDeletion_written (part state.1) now found unrequested
  rw [written] at does
  refine ⟨now, after, ?_, own, others.trans untouched⟩
  simp only [prune, if_neg passes, gets, found, unrequested, Bool.false_eq_true, if_false, does]

/-- Entries of different names are all declared. -/
private theorem declare_all [DecidableEq S] (exactly : ∀ a b : S, Spec.same a b = decide (a = b))
    (succeeds : author.Succeeds part rest) (kind : String) (state : σ × SyncReport)
    (distinct : (entries.map (·.name)).Nodup) :
    let done := entries.foldl (declare author kind) state
    Declares kind entries (part state.1) (part done.1) ∧ rest done.1 = rest state.1 ∧
      done.2 = { state.2 with declared := state.2.declared + entries.length } := by
  induction entries generalizing state with
  | nil => exact ⟨.nil kind _, rfl, rfl⟩
  | cons entry entries ih =>
    obtain ⟨apart, others⟩ := List.nodup_cons.1 distinct
    have away : ∀ other ∈ entries, other.name ≠ entry.name :=
      fun other member same => apart (List.mem_map.2 ⟨other, member, same⟩)
    obtain ⟨after, declares, own, stays⟩ := declare_eq exactly succeeds kind state entry
    have first := Declares.apply exactly kind (part state.1) entry
    rw [← own] at first
    obtain ⟨rest, kept, counted⟩ := ih (declare author kind state entry) others
    rw [List.foldl_cons]
    rw [declares] at rest kept counted ⊢
    refine ⟨first.cons rest away, kept.trans stays, counted.trans ?_⟩
    rw [List.length_cons, Nat.add_assoc, Nat.add_comm 1]

/-- Each key is left alone, or its object pruned and counted. -/
private theorem prune_cases (succeeds : author.Succeeds part rest) (kind : String) (names : List String)
    (state : σ × SyncReport) (key : Key) :
    let due := [key].filter (Key.isUnlisted kind names)
    ∃ after, prune author kind names state key = (after, { state.2 with
        pruned := state.2.pruned + (due.filter (part state.1).lingers).length }) ∧
      Prunes due (part state.1) (part after) ∧ rest after = rest state.1 := by
  by_cases idle : key.isUnlisted kind names = true → (part state.1).lingers key = false
  · obtain ⟨after, does, same, untouched⟩ := prune_idle succeeds state idle
    have clear : ∀ other ∈ [key].filter (Key.isUnlisted kind names),
        (part state.1).lingers other = false := by
      intro other member
      obtain ⟨own, unlisted⟩ := List.mem_filter.1 member
      cases List.mem_singleton.1 own
      exact idle unlisted
    refine ⟨after, ?_, same.symm ▸ .idle clear, untouched⟩
    rw [List.filter_eq_nil_iff.2 fun other member => Bool.eq_false_iff.1 (clear other member)]
    exact does
  · obtain ⟨unlisted, lingers⟩ := Classical.not_imp.1 idle
    rw [Bool.not_eq_false] at lingers
    obtain ⟨o, found, unrequested⟩ := Store.lingers_iff.1 lingers
    obtain ⟨now, after, does, own, others⟩ := prune_due succeeds state unlisted found unrequested
    refine ⟨after, ?_, ?_, others⟩
    · simp only [List.filter_cons, unlisted, lingers, if_true]
      exact does
    · simp only [List.filter_cons, unlisted, if_true, List.filter_nil, own]
      exact .requestDeletion found unrequested now

/-- The objects that are not listed and linger are all pruned. -/
private theorem prune_all (succeeds : author.Succeeds part rest) (kind : String) (names : List String)
    {keys : List Key} (state : σ × SyncReport) (distinct : keys.Nodup) :
    let done := keys.foldl (prune author kind names) state
    let due := keys.filter (Key.isUnlisted kind names)
    Prunes due (part state.1) (part done.1) ∧ rest done.1 = rest state.1 ∧
      done.2 = { state.2 with pruned := state.2.pruned + (due.filter (part state.1).lingers).length } := by
  induction keys generalizing state with
  | nil => exact ⟨.idle fun _ member => absurd member List.not_mem_nil, rfl, rfl⟩
  | cons key keys ih =>
    obtain ⟨apart, others⟩ := List.nodup_cons.1 distinct
    obtain ⟨after, does, first, stays⟩ := prune_cases succeeds kind names state key
    obtain ⟨rest, kept, counted⟩ := ih (prune author kind names state key) others
    have split : (key :: keys).filter (Key.isUnlisted kind names) =
        [key].filter (Key.isUnlisted kind names) ++ keys.filter (Key.isUnlisted kind names) :=
      List.filter_append [key] keys
    rw [List.foldl_cons, split]
    rw [does] at rest kept counted ⊢
    have away : ∀ other ∈ [key].filter (Key.isUnlisted kind names),
        other ∉ keys.filter (Key.isUnlisted kind names) := by
      intro other early late
      cases List.mem_singleton.1 (List.mem_filter.1 early).1
      exact apart (List.mem_filter.1 late).1
    refine ⟨first.append rest away, kept.trans stays, counted.trans ?_⟩
    rw [first.filter_lingers away, List.filter_append, List.length_append, Nat.add_assoc]

/-- What a sync makes of the store of a kind, and what it reports. -/
structure Aligns [DecidableEq S] (kind : String) (entries : List (ManifestEntry S))
    (before after : Store S) (report : SyncReport) : Prop where
  /-- What is listed is declared as it is listed. -/
  listed : ∀ entry ∈ entries, after.get? (entry.key kind) =
    some (.renewed (before.get? (entry.key kind)) (entry.key kind) entry.spec)
  /-- The deletion of what is not listed is requested; a request that was there stays. -/
  unlisted : ∀ key, key.isUnlisted kind (entries.map (·.name)) = true →
    ∀ o, before.get? key = some o → ∃ requested,
      after.get? key = some { o with deletionRequested := some requested } ∧
        ∀ earlier, o.deletionRequested = some earlier → requested = earlier
  /-- Nothing comes to be that is not listed. -/
  absent : ∀ key, key.isUnlisted kind (entries.map (·.name)) = true → before.get? key = none →
    after.get? key = none
  others : ∀ key : Key, key.kind ≠ kind → after.get? key = before.get? key
  /-- What has changed is announced, and nothing else is. -/
  sent : after.sent = ((before.stale kind (entries.map (·.name))).map (⟨.deletionRequested, ·⟩)).reverse ++
    (((entries.filter fun entry => before.lacks (entry.key kind) entry.spec).map fun entry =>
      ⟨.applied, entry.key kind⟩).reverse ++ before.sent)
  report : report =
    { declared := entries.length, pruned := (before.stale kind (entries.map (·.name))).length, failed := 0 }

/-- What is listed is declared, and nothing lingers that is not. -/
structure Settled [DecidableEq S] (kind : String) (entries : List (ManifestEntry S)) (s : Store S) :
    Prop where
  declared : ∀ entry ∈ entries, s.lacks (entry.key kind) entry.spec = false
  pruned : ∀ key, key.isUnlisted kind (entries.map (·.name)) = true → s.lingers key = false

omit [Spec S] in
private theorem isUnlisted_apart {key : Key} (unlisted : key.isUnlisted kind (entries.map (·.name)) = true) :
    ∀ entry ∈ entries, entry.key kind ≠ key := by
  rintro entry member rfl
  exact (of_decide_eq_true unlisted).2 (List.mem_map.2 ⟨entry, member, rfl⟩)

section Aligns

variable [DecidableEq S] {before mid after : Store S}

omit [Spec S] in
/-- To declare what is listed makes nothing else stale, nor less so. -/
private theorem stale_declared (declares : Declares kind entries before mid) :
    mid.stale kind (entries.map (·.name)) = before.stale kind (entries.map (·.name)) := by
  have same := declares.keys (Key.isUnlisted kind (entries.map (·.name))) fun entry member =>
    Bool.eq_false_iff.2 fun unlisted => isUnlisted_apart unlisted entry member rfl
  rw [Store.stale, same]
  refine List.filter_congr fun key member => Store.lingers_congr (declares.others key ?_)
  exact isUnlisted_apart (List.mem_filter.1 member).2

omit [Spec S] in
/-- To declare what is listed and then to prune what is not is all that a sync does. -/
private theorem aligns_of_pruned (declares : Declares kind entries before mid)
    (prunes : Prunes (mid.keys.filter (Key.isUnlisted kind (entries.map (·.name)))) mid after) :
    Aligns kind entries before after
      { declared := entries.length, pruned := (before.stale kind (entries.map (·.name))).length } := by
  have untouched : ∀ key : Key, key.isUnlisted kind (entries.map (·.name)) = true →
      mid.get? key = before.get? key :=
    fun key unlisted => declares.others key (isUnlisted_apart unlisted)
  refine ⟨fun entry member => ?_, fun key unlisted o found => ?_, fun key unlisted absent => ?_,
    fun key away => ?_, ?_, rfl⟩
  · refine (prunes.others _ (.inl fun due => ?_)).trans (declares.listed entry member)
    exact isUnlisted_apart (List.mem_filter.1 due).2 entry member rfl
  · have stands := (untouched key unlisted).trans found
    cases requested : o.isDeletionRequested with
    | false =>
      have due := List.mem_filter.2 ⟨SortedMap.mem_keys_of_get stands, unlisted⟩
      obtain ⟨own, now, held, marked⟩ := prunes.marked key due (Store.lingers_iff.2 ⟨o, stands, requested⟩)
      cases stands.symm.trans held
      refine ⟨now, marked, fun earlier already => ?_⟩
      rw [Declared.isDeletionRequested, already] at requested
      cases requested
    | true =>
      obtain ⟨earlier, already⟩ := Option.isSome_iff_exists.1 requested
      have clear : mid.lingers key = false := by
        rw [Store.lingers, stands, Option.any_some, requested, Bool.not_true]
      refine ⟨earlier, ?_, fun _ same => Option.some.inj (already.symm.trans same)⟩
      rw [← already]
      exact (prunes.others key (.inr clear)).trans stands
  · have none := (untouched key unlisted).trans absent
    have clear : mid.lingers key = false := by rw [Store.lingers, none, Option.any_none]
    exact (prunes.others key (.inr clear)).trans none
  · refine (prunes.others key (.inl fun due => ?_)).trans (declares.others key fun entry _ same => ?_)
    · exact away (of_decide_eq_true (List.mem_filter.1 due).2).1
    · exact away (congrArg Key.kind same.symm)
  · rw [prunes.sent, declares.sent, ← stale_declared declares, Store.stale]

omit [Spec S] in
/-- After a sync there is nothing left to do. -/
theorem Aligns.settled {report : SyncReport} (aligns : Aligns kind entries before after report) :
    Settled kind entries after := by
  refine ⟨fun entry member => ?_, fun key unlisted => ?_⟩
  · refine Store.lacks_eq_false_iff.2 ⟨_, aligns.listed entry member, ?_⟩
    cases before.get? (entry.key kind) <;> exact ⟨rfl, rfl⟩
  · cases found : before.get? key with
    | none => rw [Store.lingers, aligns.absent key unlisted found, Option.any_none]
    | some o =>
      obtain ⟨requested, marked, -⟩ := aligns.unlisted key unlisted o found
      rw [Store.lingers, marked]
      rfl

end Aligns

/-- Entries of different names are brought about in full, whatever was there before. -/
theorem run_aligns [DecidableEq S] (exactly : ∀ a b : S, Spec.same a b = decide (a = b))
    (succeeds : author.Succeeds part rest) (kind : String) (s : σ) (distinct : (entries.map (·.name)).Nodup) :
    let done := run author kind entries s
    Aligns kind entries (part s) (part done.1) done.2 ∧ rest done.1 = rest s := by
  obtain ⟨declares, stays, declared⟩ := declare_all exactly succeeds kind (s, {}) distinct
  simp only [run, succeeds.keys]
  generalize entries.foldl (declare author kind) (s, {}) = mid at declares stays declared ⊢
  obtain ⟨prunes, kept, pruned⟩ :=
    prune_all succeeds kind (entries.map (·.name)) mid (part mid.1).objects.nodup_keys
  have report : ((part mid.1).keys.foldl (prune author kind (entries.map (·.name))) mid).2 =
      { declared := entries.length, pruned := ((part s).stale kind (entries.map (·.name))).length } := by
    rw [← stale_declared declares]
    refine pruned.trans ?_
    rw [declared]
    simp only [Nat.zero_add]
    rfl
  exact ⟨report ▸ aligns_of_pruned declares prunes, kept.trans stays⟩

/-- A sync of a store in which all is as it should be changes nothing. -/
theorem run_settled [DecidableEq S] (exactly : ∀ a b : S, Spec.same a b = decide (a = b))
    (succeeds : author.Succeeds part rest) (s : σ) (settled : Settled kind entries (part s)) :
    let done := run author kind entries s
    part done.1 = part s ∧ rest done.1 = rest s := by
  have kept : ∀ state : σ × SyncReport, part state.1 = part s ∧ rest state.1 = rest s →
      ∀ entry ∈ entries, part (declare author kind state entry).1 = part s ∧
        rest (declare author kind state entry).1 = rest s := by
    rintro state ⟨same, stays⟩ entry member
    obtain ⟨after, does, own, others⟩ := declare_eq exactly succeeds kind state entry
    obtain ⟨files, applied⟩ := Store.apply_written exactly (part s) (entry.key kind) entry.spec
    rw [same, applied, settled.declared entry member] at own
    rw [does]
    exact ⟨own, others.trans stays⟩
  have left : ∀ state : σ × SyncReport, part state.1 = part s ∧ rest state.1 = rest s →
      ∀ key, part (prune author kind (entries.map (·.name)) state key).1 = part s ∧
        rest (prune author kind (entries.map (·.name)) state key).1 = rest s := by
    rintro state ⟨same, stays⟩ key
    obtain ⟨after, does, own, others⟩ := prune_idle succeeds state fun unlisted =>
      same.symm ▸ settled.pruned key unlisted
    rw [does]
    exact ⟨own.trans same, others.trans stays⟩
  refine List.foldlRecOn _ _ ?_ fun state held key _ => left state held key
  exact List.foldlRecOn _ _ ⟨rfl, rfl⟩ kept

end Sync

end CloudKeeper
