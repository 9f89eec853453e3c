import CloudKeeper.Json.Decoder
/-!
Records read from the members of any document, whoever wrote it. The members stand in any order, those that the
record does not know are passed over, and those that it knows must come once and with a value that decodes.
-/
namespace CloudKeeper.Json

variable {α β : Type} {members : List (Option String × Document)}

/-- Members that a record with known names walks to their end: all names are texts, what is not known is a whole
value, and no known name comes twice. -/
structure Walkable (known : List String) (members : List (Option String × Document)) : Prop where
  named : ∀ m ∈ members, m.1 ≠ none
  whole : ∀ m ∈ members, (∀ name ∈ known, m.1 ≠ some name) → m.2.isWhole = true
  once : ∀ name ∈ known, (members.map Prod.fst).count (some name) ≤ 1

/-- Members that any record can walk: all names are texts, all values are whole, and none of the names that it
knows comes twice. -/
structure Orderly (known : List String) (members : List (Option String × Document)) : Prop where
  named : ∀ m ∈ members, m.1 ≠ none
  whole : ∀ m ∈ members, m.2.isWhole = true
  once : ∀ name ∈ known, (members.map Prod.fst).count (some name) ≤ 1

namespace Walkable

variable {known : List String} {name : String} {d : Document}

theorem cons_iff : Walkable known ((some name, d) :: members) ↔
    Walkable known members ∧ (name ∉ known → d.isWhole = true) ∧
      (name ∈ known → some name ∉ members.map Prod.fst) := by
  constructor
  · rintro ⟨named, whole, once⟩
    refine ⟨⟨fun m member => named m (List.mem_cons_of_mem _ member),
      fun m member => whole m (List.mem_cons_of_mem _ member), fun other listed => ?_⟩, fun unknown => ?_,
      fun listed again => ?_⟩
    · have once := once other listed
      rw [List.map_cons, List.count_cons] at once
      omega
    · exact whole _ List.mem_cons_self fun other listed same => unknown (Option.some.inj same ▸ listed)
    · have once := once name listed
      have more := List.count_pos_iff.2 again
      rw [List.map_cons, List.count_cons_self] at once
      omega
  · rintro ⟨⟨named, whole, once⟩, unknown, fresh⟩
    refine ⟨fun m member => ?_, fun m member => ?_, fun other listed => ?_⟩
    · rcases List.mem_cons.1 member with rfl | later
      · exact Option.some_ne_none name
      · exact named m later
    · rcases List.mem_cons.1 member with rfl | later
      · exact fun apart => unknown fun listed => apart name listed rfl
      · exact whole m later
    · rw [List.map_cons]
      by_cases same : other = name
      · have none := List.count_eq_zero.2 (fresh (same ▸ listed))
        rw [same, List.count_cons_self]
        omega
      · rw [List.count_cons_of_ne fun alike => same (Option.some.inj alike).symm]
        exact once other listed

/-- What stands under a known name is what is found for it. -/
theorem lookup_of_mem (walkable : Walkable known members) (listed : name ∈ known)
    (member : (some name, d) ∈ members) : members.lookup (some name) = some d := by
  induction members with
  | nil => cases member
  | cons head rest ih =>
    obtain ⟨other, d'⟩ := head
    cases other with
    | none => exact absurd rfl (walkable.named _ List.mem_cons_self)
    | some other =>
      obtain ⟨walkable, -, fresh⟩ := cons_iff.1 walkable
      rw [List.lookup_cons]
      rcases List.mem_cons.1 member with same | later
      · cases same
        rw [beq_self_eq_true]
      · have apart : some name ≠ some other := by
          intro same
          cases same
          exact fresh listed (List.mem_map.2 ⟨_, later, rfl⟩)
        rw [beq_false_of_ne apart]
        exact ih walkable later

end Walkable

theorem Orderly.walkable {known : List String} (orderly : Orderly known members) : Walkable known members :=
  ⟨orderly.named, fun m member _ => orderly.whole m member, orderly.once⟩

namespace Record

/-- A record is read from members of an object: the members build it, and the value of each that it knows passes
the record's check. -/
structure Takes (r : Record α) (source : Source) (members : List (Option String × Document)) (a : α) : Prop where
  built : r.ofMembers source members = .ok a
  checked : ∀ name check d, r.known.lookup name = some check → members.lookup (some name) = some d →
    check source d = .ok ()

variable {source inner : Source}

theorem make_takes (a : α) : (make a).Takes source members a := ⟨rfl, nofun⟩

theorem lookup_known_field {r : Record (α → β)} {name other : String} {value : Decoder α}
    {absent : Option α} {check : Decoder Unit}
    (known : (r.field name value absent).known.lookup other = some check) :
    r.known.lookup other = some check ∨
      other = name ∧ check = fun source d => (value source d).map fun _ => () := by
  simp only [field, List.lookup_append, Option.or_eq_some_iff] at known
  rcases known with earlier | ⟨-, last⟩
  · exact .inl earlier
  · rw [List.lookup_cons] at last
    split at last
    case h_1 same => exact .inr ⟨eq_of_beq same, (Option.some.inj last).symm⟩
    case h_2 => cases last

/-- A field that is there is read with its value. -/
theorem Takes.present {r : Record (α → β)} {f : α → β} (takes : r.Takes source members f) {name : String}
    {value : Decoder α} {absent : Option α} {d : Document} {a : α} (found : members.lookup (some name) = some d)
    (decodes : value source d = .ok a) : (r.field name value absent).Takes source members (f a) where
  built := by
    simp only [field, takes.built, found, bind, pure, Except.bind, Except.pure, decodes]
  checked := by
    intro other check own known its
    rcases lookup_known_field known with earlier | ⟨rfl, rfl⟩
    · exact takes.checked other check own earlier its
    · cases found.symm.trans its
      change (value source d).map _ = _
      rw [decodes]
      rfl

/-- A field that is not there is read with the value that stands for its absence. -/
theorem Takes.absent {r : Record (α → β)} {f : α → β} (takes : r.Takes source members f) {name : String}
    {value : Decoder α} {a : α} (missing : members.lookup (some name) = none) :
    (r.field name value (some a)).Takes source members (f a) where
  built := by
    simp only [field, takes.built, missing, bind, pure, Except.bind, Except.pure]
  checked := by
    intro other check own known its
    rcases lookup_known_field known with earlier | ⟨rfl, -⟩
    · exact takes.checked other check own earlier its
    · cases missing.symm.trans its

private theorem mem_known {known : List (String × Decoder Unit)} {name : String} {check : Decoder Unit}
    (found : known.lookup name = some check) : name ∈ known.map Prod.fst := by
  obtain ⟨before, after, split, -⟩ := List.lookup_eq_some_iff.1 found
  rw [split, List.map_append, List.map_cons]
  exact List.mem_append_right _ List.mem_cons_self

private theorem not_mem_known {known : List (String × Decoder Unit)} {name : String}
    (missing : known.lookup name = none) : name ∉ known.map Prod.fst := by
  intro listed
  obtain ⟨e, member, rfl⟩ := List.mem_map.1 listed
  exact absurd (List.lookup_eq_none_iff.1 missing e member) (by simp)

/-- Members pass the check of a record exactly if it can walk them, the known ones among them have not been seen
before, and the value of each passes. -/
private theorem check_seen_iff {known : List (String × Decoder Unit)} {seen : List String} :
    check known source seen members = .ok () ↔ Walkable (known.map Prod.fst) members ∧
      (∀ name ∈ seen, name ∈ known.map Prod.fst → some name ∉ members.map Prod.fst) ∧
      ∀ name value d, known.lookup name = some value → (some name, d) ∈ members → value source d = .ok () := by
  induction members generalizing seen with
  | nil =>
    have walkable : Walkable (known.map Prod.fst) [] := ⟨nofun, nofun, fun _ _ => Nat.zero_le 1⟩
    exact iff_of_true rfl ⟨walkable, fun _ _ _ => nofun, fun _ _ _ _ => nofun⟩
  | cons m rest ih =>
    obtain ⟨name?, d⟩ := m
    cases name? with
    | none => exact iff_of_false nofun fun ⟨walkable, _⟩ => walkable.named _ List.mem_cons_self rfl
    | some name =>
      simp only [check, Walkable.cons_iff, List.map_cons, List.mem_cons, not_or, Prod.mk.injEq, Option.some.injEq]
      cases known? : known.lookup name with
      | none =>
        have unknown := not_mem_known known?
        by_cases whole : d.isWhole = true
        · simp only [whole, ↓reduceIte, ih]
          grind
        · simp only [whole]
          grind
      | some value =>
        have listed := mem_known known?
        by_cases before : name ∈ seen
        · simp only [before, ↓reduceIte]
          grind
        · cases passes : value source d with
          | error e =>
            simp only [before, ↓reduceIte, bind, Except.bind, passes]
            refine iff_of_false nofun fun ⟨_, _, pass⟩ => ?_
            cases passes.symm.trans (pass name value d known? (.inl ⟨rfl, rfl⟩))
          | ok =>
            simp only [before, ↓reduceIte, bind, Except.bind, passes, ih]
            grind

/-- Members pass the check of a record exactly if it can walk them and the values of the known ones pass. -/
theorem check_iff {known : List (String × Decoder Unit)} :
    check known source [] members = .ok () ↔ Walkable (known.map Prod.fst) members ∧
      ∀ name value d, known.lookup name = some value → members.lookup (some name) = some d →
        value source d = .ok () := by
  rw [check_seen_iff]
  refine and_congr_right fun walkable => ?_
  simp only [List.not_mem_nil, false_imp_iff, implies_true, true_and]
  refine forall₃_congr fun name value d => forall_congr' fun own => imp_congr_left ?_
  refine ⟨walkable.lookup_of_mem (mem_known own), fun found => ?_⟩
  obtain ⟨before, after, rfl, -⟩ := List.lookup_eq_some_iff.1 found
  exact List.mem_append_right _ List.mem_cons_self

/-- A record is read from an object with orderly members. -/
theorem Takes.decoded {r : Record α} {a : α} (takes : r.Takes inner members a)
    (enters : source.enter = .ok inner) (orderly : Orderly (r.known.map Prod.fst) members) :
    r.decoder source (.object members .closed) = .ok a := by
  have passes : check r.known inner [] members = .ok () := check_iff.2 ⟨orderly.walkable, takes.checked⟩
  simp only [decoder, enters, passes, Ending.close, bind, Except.bind, takes.built]

end Record

end CloudKeeper.Json
