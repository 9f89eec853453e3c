import CloudKeeper.Proofs.Json.Members
import CloudKeeper.Proofs.SortedMap
/-!
Decoders that read back what is written. A decoder inverts a JSON form when it decodes the tree of every
value of that form, as long as it may enter the arrays and objects of the form. Records do so member by
member, whichever of the members with a default are left out.
-/
namespace CloudKeeper.Json

variable {α β : Type}

namespace Source

/-- A number of levels of arrays and objects may still be entered. -/
def Allows : Source → Nat → Prop
  | .text room, depth => depth ≤ room
  | .value, _ => True

theorem allows_zero (source : Source) : source.Allows 0 := by
  cases source with
  | text room => exact Nat.zero_le room
  | value => trivial

theorem Allows.of_le {source : Source} {depth less : Nat} (allows : source.Allows depth)
    (fewer : less ≤ depth) : source.Allows less := by
  cases source with
  | text room => exact Nat.le_trans fewer allows
  | value => trivial

/-- An array or object can be entered, and what it holds has one level less. -/
theorem Allows.enter {source : Source} {depth : Nat} (allows : source.Allows (depth + 1)) :
    ∃ inner, source.enter = .ok inner ∧ inner.Allows depth := by
  cases source with
  | text room =>
    cases room with
    | zero => exact absurd allows (Nat.not_succ_le_zero depth)
    | succ room => exact ⟨.text room, rfl, Nat.le_of_succ_le_succ allows⟩
  | value => exact ⟨.value, rfl, trivial⟩

end Source

namespace Document

theorem ofMembers_eq_map (members : List (String × Value)) :
    ofMembers members = members.map fun m => (some m.1, ofValue m.2) := by
  induction members with
  | nil => rfl
  | cons m rest ih => exact congrArg _ ih

/-- The tree of an object whose members are texts. -/
def texts (given : List (String × String)) : Document :=
  .object (given.map fun e => (some e.1, .string (some e.2))) .closed

end Document

namespace Decoder

/-- A decoder reads back every value that is written in a JSON form of some depth. -/
def Inverts (decoder : Decoder α) (toJson : α → Value) (depth : Nat) : Prop :=
  ∀ (source : Source) (a : α), source.Allows depth → decoder source (.ofValue (toJson a)) = .ok a

variable {item : Decoder α} {toJson : α → Value} {depth : Nat}

theorem Inverts.deeper (inverts : item.Inverts toJson depth) {more : Nat} (deeper : depth ≤ more) :
    item.Inverts toJson more :=
  fun source a allows => inverts source a (allows.of_le deeper)

theorem string_inverts : Inverts string .string 0 := fun _ _ _ => rfl

theorem bool_inverts : Inverts bool .bool 0 := fun _ _ _ => rfl

private theorem int_reads {low high i : Int} (fits : low ≤ i ∧ i ≤ high) (source : Source) :
    int low high source (.ofValue (.int i)) = .ok i := if_pos fits

theorem uint64_inverts : Inverts uint64 (fun n => .nat n.toNat) 0 := by
  intro source n _
  have small : n.toNat < UInt64.size := n.toNat_lt_size
  have fits : 0 ≤ (n.toNat : Int) ∧ (n.toNat : Int) ≤ (UInt64.size - 1 : Nat) := by omega
  change (int 0 (UInt64.size - 1 : Nat) source (.ofValue (.int n.toNat))).map _ = _
  rw [int_reads fits]
  exact congrArg Except.ok n.ofNat_toNat

theorem int64_inverts : Inverts int64 (fun i => .int i.toInt) 0 := by
  intro source i _
  change (int Int64.minValue.toInt Int64.maxValue.toInt source (.ofValue (.int i.toInt))).map _ = _
  rw [int_reads ⟨i.minValue_le_toInt, i.toInt_le⟩]
  exact congrArg Except.ok i.ofInt_toInt

/-- A notation is read back where reading inverts writing. -/
theorem notation_inverts {read? : String → Option α} {text : α → String}
    (reads : ∀ a, read? (text a) = some a) : Inverts (notation? read?) (fun a => .string (text a)) 0 := by
  intro source a _
  have written : string source (.ofValue (.string (text a))) = .ok (text a) := rfl
  rw [notation?, written]
  simp only [reads]

theorem string_given (s : String) : Document.ofValue (.string s) ≠ .null := nofun

/-- A value that is written, and not as null, is read by an optional decoder. -/
theorem optional_reads {source : Source} {d : Document} {a : α} (reads : item source d = .ok a)
    (given : d ≠ .null) : optional item source d = .ok (some a) := by
  cases d with
  | null => exact absurd rfl given
  | _ => exact congrArg (Except.map some) reads

/-- A variant is read back where its name leads to it. -/
theorem enumeration_inverts {variants : List (String × α)} {name : α → String}
    (named : ∀ a, variants.lookup (name a) = some a) :
    Inverts (enumeration variants) (fun a => .string (name a)) 0 := by
  intro source a _
  change variant variants (name a) = _
  rw [variant, named]

/-- An array is read where its items are. -/
theorem list_reads {β : Type} {written : β → Value} {meant : β → α} {source inner : Source}
    (enters : source.enter = .ok inner)
    (reads : ∀ b, item inner (.ofValue (written b)) = .ok (meant b)) (bs : List β) :
    list item source (.ofValue (.array (bs.map written))) = .ok (bs.map meant) := by
  have decoded : items item inner (Document.ofItems (bs.map written)) = .ok (bs.map meant) := by
    induction bs with
    | nil => rfl
    | cons b rest ih =>
      simp only [List.map_cons, Document.ofItems, items, reads b, ih]
      rfl
  simp only [Document.ofValue, list, enters, bind, Except.bind, decoded, Ending.close]
  rfl

/-- An array is read back where its items are. -/
theorem list_inverts (inverts : item.Inverts toJson depth) :
    Inverts (list item) (fun as => .array (as.map toJson)) (depth + 1) := by
  intro source as allows
  obtain ⟨inner, enters, room⟩ := allows.enter
  have reads := list_reads enters (fun a => inverts inner a room) as
  rwa [List.map_id'] at reads

/-- A map of texts is read from its members, of which the last with a name counts. -/
theorem map_reads {source inner : Source} (enters : source.enter = .ok inner) (given : List (String × String)) :
    map string source (.texts given) = .ok (SortedMap.ofList given) := by
  have decoded : members string inner (given.map fun e => (some e.1, .string (some e.2))) = .ok given := by
    induction given with
    | nil => rfl
    | cons e rest ih =>
      simp only [List.map_cons, members, ih]
      rfl
  simp only [Document.texts, map, enters, bind, Except.bind, decoded, Ending.close]
  rfl

/-- A map of texts is read back. -/
theorem map_inverts : Inverts (map string)
    (fun m : SortedMap String String => .object (m.entries.map fun e => (e.1, .string e.2))) 1 := by
  intro source m allows
  obtain ⟨inner, enters, -⟩ := allows.enter
  have tree : Document.ofValue (.object (m.entries.map fun e => (e.1, .string e.2))) = .texts m.entries := by
    simp only [Document.ofValue, Document.ofMembers_eq_map, List.map_map, Document.texts]
    rfl
  have reads := map_reads enters m.entries
  rw [SortedMap.ofList_entries] at reads
  exact (congrArg (map string source) tree).trans reads

end Decoder

namespace Document

mutual

private theorem isWhole_value (v : Value) : (ofValue v).isWhole = true := by
  match v with
  | .null | .bool _ | .number _ | .string _ => rfl
  | .array items => exact areWhole_items items
  | .object members => exact membersAreWhole_members members

private theorem areWhole_items (items : List Value) : areWhole (ofItems items) = true := by
  match items with
  | [] => rfl
  | v :: rest => exact Bool.and_eq_true_iff.2 ⟨isWhole_value v, areWhole_items rest⟩

private theorem membersAreWhole_members (members : List (String × Value)) :
    membersAreWhole (ofMembers members) = true := by
  match members with
  | [] => rfl
  | (_, v) :: rest => exact Bool.and_eq_true_iff.2 ⟨isWhole_value v, membersAreWhole_members rest⟩

end

/-- The tree of a value is whole. -/
theorem isWhole_ofValue (v : Value) : (ofValue v).isWhole = true := isWhole_value v

theorem lookup_ofMembers (name : String) (members : List (String × Value)) :
    (ofMembers members).lookup (some name) = (members.lookup name).map ofValue := by
  induction members with
  | nil => rfl
  | cons member rest ih =>
    obtain ⟨other, v⟩ := member
    simp only [ofMembers, List.lookup_cons, ih, Option.some_beq_some]
    cases name == other <;> rfl

end Document

namespace Record

/-- A record is read from members of an object: the members build it, and the value of each that it
knows passes the record's check. -/
structure Reads (r : Record α) (source : Source) (members : List (String × Value)) (a : α) : Prop where
  built : r.ofMembers source (Document.ofMembers members) = .ok a
  checked : ∀ name check v, r.known.lookup name = some check → members.lookup name = some v →
    check source (.ofValue v) = .ok ()

variable {source : Source} {members : List (String × Value)}

/-- A record is read from members that are written as it is from their trees. -/
private theorem reads_iff {r : Record α} {a : α} :
    r.Reads source members a ↔ r.Takes source (Document.ofMembers members) a := by
  refine ⟨fun reads => ⟨reads.built, ?_⟩, fun takes => ⟨takes.built, ?_⟩⟩
  · intro name check d known found
    rw [Document.lookup_ofMembers, Option.map_eq_some_iff] at found
    obtain ⟨v, written, rfl⟩ := found
    exact reads.checked name check v known written
  · intro name check v known written
    refine takes.checked name check _ known ?_
    rw [Document.lookup_ofMembers, written, Option.map_some]

theorem make_reads (a : α) : (make a).Reads source members a := reads_iff.2 (make_takes a)

/-- A field that is written is read with its value. -/
theorem Reads.present {r : Record (α → β)} {f : α → β} (reads : r.Reads source members f)
    {name : String} {value : Decoder α} {absent : Option α} {v : Value} {a : α}
    (written : members.lookup name = some v) (decodes : value source (.ofValue v) = .ok a) :
    (r.field name value absent).Reads source members (f a) := by
  have found : (Document.ofMembers members).lookup (some name) = some (.ofValue v) := by
    rw [Document.lookup_ofMembers, written, Option.map_some]
  exact reads_iff.2 ((reads_iff.1 reads).present found decodes)

/-- A field that is left out is read with the value that stands for its absence. -/
theorem Reads.absent {r : Record (α → β)} {f : α → β} (reads : r.Reads source members f)
    {name : String} {value : Decoder α} {a : α} (unwritten : members.lookup name = none) :
    (r.field name value (some a)).Reads source members (f a) := by
  have missing : (Document.ofMembers members).lookup (some name) = none := by
    rw [Document.lookup_ofMembers, unwritten, Option.map_none]
  exact reads_iff.2 ((reads_iff.1 reads).absent missing)

/-- A field that is written only if there is a value is read either way. -/
theorem Reads.optional {r : Record (Option α → β)} {f : Option α → β}
    (reads : r.Reads source members f) {name : String} {value : Decoder α} {toJson : α → Value}
    {a : Option α} (written : members.lookup name = a.map toJson)
    (decodes : ∀ a, value source (.ofValue (toJson a)) = .ok a)
    (given : ∀ a, Document.ofValue (toJson a) ≠ .null) :
    (r.field name (Decoder.optional value) (some none)).Reads source members (f a) := by
  cases a with
  | none => exact reads.absent written
  | some a => exact reads.present written (Decoder.optional_reads (decodes a) (given a))

/-- A field that is left out only where it has the value that stands for its absence is read either way. -/
theorem Reads.omitted {r : Record (α → β)} {f : α → β} (reads : r.Reads source members f) {name : String}
    {value : Decoder α} {v : Value} {a empty : α} {omits : Prop} [Decidable omits]
    (written : members.lookup name = if omits then none else some v) (only : omits → a = empty)
    (decodes : value source (.ofValue v) = .ok a) :
    (r.field name value (some empty)).Reads source members (f a) := by
  by_cases out : omits
  · rw [only out]
    exact reads.absent (written.trans (if_pos out))
  · exact reads.present (written.trans (if_neg out)) decodes

/-- A list that is written only if it is not empty is read either way. -/
theorem Reads.listed {r : Record (List α → β)} {f : List α → β} (reads : r.Reads source members f)
    {name : String} {value : Decoder (List α)} {v : Value} {as : List α}
    (written : members.lookup name = if as.isEmpty then none else some v)
    (decodes : value source (.ofValue v) = .ok as) :
    (r.field name value (some [])).Reads source members (f as) :=
  reads.omitted written List.isEmpty_iff.1 decodes

/-- Members of distinct names that are written are orderly, whatever a record knows. -/
theorem orderly_ofMembers (known : List String) (distinct : (members.map Prod.fst).Nodup) :
    Orderly known (Document.ofMembers members) := by
  rw [Document.ofMembers_eq_map]
  refine ⟨fun m member => ?_, fun m member => ?_, fun name _ => ?_⟩
  · obtain ⟨own, -, rfl⟩ := List.mem_map.1 member
    exact nofun
  · obtain ⟨own, -, rfl⟩ := List.mem_map.1 member
    exact Document.isWhole_ofValue own.2
  · have apart : ((members.map Prod.fst).map some).Nodup :=
      List.Pairwise.map some (fun _ _ apart same => apart (Option.some.inj same)) distinct
    rw [List.map_map] at apart ⊢
    exact List.nodup_iff_count.1 apart _

/-- A record is read from an object with distinct members. -/
theorem Reads.decoded {r : Record α} {inner : Source} {a : α} (reads : r.Reads inner members a)
    (enters : source.enter = .ok inner) (distinct : (members.map Prod.fst).Nodup) :
    r.decoder source (.ofValue (.object members)) = .ok a :=
  (reads_iff.1 reads).decoded enters (orderly_ofMembers _ distinct)

/-- A record is read back that is written as an object with distinct members. -/
theorem inverts {r : Record α} {toJson : α → Value} {toMembers : α → List (String × Value)}
    {depth : Nat} (form : ∀ a, toJson a = .object (toMembers a))
    (distinct : ∀ a, ((toMembers a).map Prod.fst).Nodup)
    (reads : ∀ source a, source.Allows depth → r.Reads source (toMembers a) a) :
    Decoder.Inverts r.decoder toJson (depth + 1) := by
  intro source a allows
  obtain ⟨inner, enters, room⟩ := allows.enter
  rw [form]
  exact (reads inner a room).decoded enters (distinct a)

end Record

end CloudKeeper.Json
