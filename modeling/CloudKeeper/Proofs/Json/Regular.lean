import CloudKeeper.Proofs.Json.Members
/-!
What decides how a record is read. Of an object it is what stands under the names of the fields, as long as the
object can be walked at all; of an array it is which item stands in the place of each field. So an array is read
like the object that has its items under the names of the fields, in order.
-/
namespace CloudKeeper.Json

variable {α β : Type} {source : Source} {name : String}

/-- What follows a decoder succeeds if both do. -/
theorem bind_ok_iff {x : Except DecodeError α} {f : α → Except DecodeError β} {b : β} :
    (x >>= f) = .ok b ↔ ∃ a, x = .ok a ∧ f a = .ok b := by
  cases x <;> simp [bind, Except.bind]

/-! ## Items as members -/

/-- The items of an array as members, each under the name in its place. -/
def entitle (names : List String) (items : List Document) : List (Option String × Document) :=
  (names.map some).zip items

theorem entitle_append (earlier later : List String) (items : List Document) :
    entitle (earlier ++ later) items = entitle earlier items ++ entitle later (items.drop earlier.length) := by
  induction earlier generalizing items with
  | nil => rfl
  | cons name rest ih =>
    cases items with
    | nil => simp [entitle]
    | cons d items => exact congrArg ((some name, d) :: ·) (ih items)

theorem lookup_entitle_of_not_mem {names : List String} (items : List Document) (missing : name ∉ names) :
    (entitle names items).lookup (some name) = none := by
  refine List.lookup_eq_none_iff.2 fun m member => ?_
  rw [bne_iff_ne]
  intro same
  obtain ⟨other, listed, own⟩ := List.mem_map.1 (List.of_mem_zip member).1
  exact missing (Option.some.inj (own.trans same.symm) ▸ listed)

/-- The item in the place of a name stands under it. -/
theorem lookup_entitle {earlier later : List String} (items : List Document) (fresh : name ∉ earlier) :
    (entitle (earlier ++ name :: later) items).lookup (some name) = items[earlier.length]? := by
  rw [entitle_append, List.lookup_append, lookup_entitle_of_not_mem items fresh, Option.none_or, ← List.head?_drop]
  cases items.drop earlier.length with
  | nil => rfl
  | cons d rest => exact List.lookup_cons_self

namespace Record

/-- The names of a record's fields, in order. -/
def names (r : Record α) : List String := r.known.map Prod.fst

/-- A record that reads each of its fields from the member of its name, or from the item in its place. -/
structure Regular (r : Record α) : Prop where
  distinct : r.names.Nodup
  /-- Members under other names do not matter. -/
  selects : ∀ source members members',
    (∀ name ∈ r.names, members.lookup (some name) = members'.lookup (some name)) →
      r.ofMembers source members = r.ofMembers source members'
  /-- The record is built only if the values of its members pass its check. -/
  vouches : ∀ source members a, r.ofMembers source members = .ok a → ∀ name check d,
    r.known.lookup name = some check → members.lookup (some name) = some d → check source d = .ok ()
  /-- Items are read as members. -/
  aligned : ∀ source ds a rest, r.ofItems source .closed ds = .ok (a, rest) ↔
    r.ofMembers source (entitle r.names ds) = .ok a ∧ rest = ds.drop r.names.length

/-- What a field is read as, from its member if there is one. -/
def readField (name : String) (value : Decoder α) (absent : Option α) (source : Source) :
    Option Document → Except DecodeError α
  | some d => value source d
  | none => absent.elim (.error (.missingField name)) .ok

variable {r : Record (α → β)} {value : Decoder α} {absent : Option α} {members : List (Option String × Document)}

theorem names_field : (r.field name value absent).names = r.names ++ [name] := by
  simp [names, field]

/-- A field is read with what the fields before it make. -/
theorem ofMembers_field_iff {b : β} : (r.field name value absent).ofMembers source members = .ok b ↔
    ∃ f, r.ofMembers source members = .ok f ∧
      ∃ a, readField name value absent source (members.lookup (some name)) = .ok a ∧ f a = b := by
  simp only [field, bind_ok_iff]
  refine exists_congr fun f => and_congr_right fun _ => ?_
  cases members.lookup (some name) with
  | none => cases absent <;> simp [readField, pure, Except.pure]
  | some d => simp [readField, bind_ok_iff, pure, Except.pure]

/-- In an array a field is read from the first item that the fields before it leave. -/
theorem ofItems_field_iff {ds rest : List Document} {b : β} :
    (r.field name value absent).ofItems source .closed ds = .ok (b, rest) ↔
      ∃ f later, r.ofItems source .closed ds = .ok (f, later) ∧
        ∃ a, readField name value absent source later.head? = .ok a ∧ f a = b ∧ later.tail = rest := by
  simp only [field, bind_ok_iff, Prod.exists]
  refine exists_congr fun f => exists_congr fun later => and_congr_right fun _ => ?_
  cases later with
  | nil => cases absent <;> simp [readField, pure, Except.pure]
  | cons d later => simp [readField, bind_ok_iff, pure, Except.pure]

theorem make_regular (a : α) : (make a).Regular where
  distinct := List.nodup_nil
  selects _ _ _ _ := rfl
  vouches _ _ _ _ _ _ _ own := nomatch own
  aligned source ds a' rest := by
    simp [make, names, eq_comm (a := rest)]

theorem Regular.field (regular : r.Regular) (fresh : name ∉ r.names) : (r.field name value absent).Regular where
  distinct := by
    rw [names_field]
    exact List.nodup_append.2 ⟨regular.distinct, List.nodup_cons.2 ⟨List.not_mem_nil, List.nodup_nil⟩,
      fun other listed own same => fun alike => fresh (List.mem_singleton.1 same ▸ alike ▸ listed)⟩
  selects := by
    intro source members members' same
    simp only [names_field, List.mem_append, List.mem_singleton] at same
    simp only [Record.field, regular.selects source members members' fun other listed => same other (.inl listed),
      same name (.inr rfl)]
  vouches := by
    intro source members b built other check d own found
    obtain ⟨f, before, a, reads, -⟩ := ofMembers_field_iff.1 built
    rcases lookup_known_field own with earlier | ⟨rfl, rfl⟩
    · exact regular.vouches source members f before other check d earlier found
    · rw [found] at reads
      change (value source d).map _ = _
      rw [show value source d = .ok a from reads]
      rfl
  aligned := by
    intro source ds b rest
    have alike : r.ofMembers source (entitle (r.names ++ [name]) ds) = r.ofMembers source (entitle r.names ds) := by
      refine regular.selects source _ _ fun other listed => ?_
      have apart : other ∉ [name] := fun same => fresh (List.mem_singleton.1 same ▸ listed)
      rw [entitle_append, List.lookup_append, lookup_entitle_of_not_mem _ apart, Option.or_none]
    rw [names_field, ofMembers_field_iff, alike, lookup_entitle ds fresh, ← List.head?_drop, List.length_append,
      List.length_singleton, ← List.tail_drop]
    simp only [ofItems_field_iff, regular.aligned]
    constructor
    · rintro ⟨f, later, ⟨built, rfl⟩, a, reads, makes, rfl⟩
      exact ⟨⟨f, built, a, reads, makes⟩, rfl⟩
    · rintro ⟨⟨f, built, a, reads, makes⟩, rfl⟩
      exact ⟨f, _, ⟨built, rfl⟩, a, reads, makes, rfl⟩

theorem alone_regular : ((make (id : α → α)).field name value absent).Regular :=
  (make_regular id).field List.not_mem_nil

/-! ## Objects and arrays -/

variable {r : Record α} {a : α}

/-- A record is read from an object that it can walk and whose members build it. -/
theorem Regular.object_iff (regular : r.Regular) : r.decoder source (.object members .closed) = .ok a ↔
    ∃ inner, source.enter = .ok inner ∧ Walkable r.names members ∧ r.ofMembers inner members = .ok a := by
  simp only [decoder, bind_ok_iff, Ending.close]
  refine exists_congr fun inner => and_congr_right fun _ => ?_
  constructor
  · rintro ⟨⟨⟩, passes, -, -, built⟩
    exact ⟨(check_iff.1 passes).1, built⟩
  · rintro ⟨walkable, built⟩
    exact ⟨(), check_iff.2 ⟨walkable, regular.vouches inner members a built⟩, (), trivial, built⟩

/-- A record is read from an array that is not too long and whose items, as members, build it. -/
theorem Regular.array_iff (regular : r.Regular) {ds : List Document} :
    r.decoder source (.array ds .closed) = .ok a ↔ ∃ inner, source.enter = .ok inner ∧
      ds.length ≤ r.names.length ∧ r.ofMembers inner (entitle r.names ds) = .ok a := by
  simp only [decoder, bind_ok_iff, Prod.exists, regular.aligned]
  refine exists_congr fun inner => and_congr_right fun _ => ?_
  rw [← List.drop_eq_nil_iff]
  constructor
  · rintro ⟨a', rest, ⟨built, left⟩, ends⟩
    cases rest with
    | nil =>
      obtain rfl : a' = a := Except.ok.inj ends
      exact ⟨left.symm, built⟩
    | cons d rest => cases source <;> cases ends
  · rintro ⟨used, built⟩
    exact ⟨a, [], ⟨built, used.symm⟩, rfl⟩

end Record
end CloudKeeper.Json
