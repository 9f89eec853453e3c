import CloudKeeper.Proofs.Json.Decoding
import CloudKeeper.Proofs.Json.Regular
import Mathlib.Logic.Relator
/-!
Members that may be missing. At a slot of a document where such a member stands, null and nothing are read alike,
and like the empty value of the member as far as those who look at the result can tell. This is a relation between
what is read in the three cases. It is carried from the member to the whole text: through the fields of a record, each
of which is given to a function that the fields before it make, and through the records and lists around it.
-/
namespace CloudKeeper.Json

open Function Relator

variable {α β γ : Type} {source inner : Source} {name : String} {empty : Document}

/-- An array or object of a text is entered as long as there is room. -/
theorem Source.enter_text_iff {room : Nat} : (Source.text (room + 1)).enter = .ok inner ↔ inner = .text room :=
  ⟨fun enters => (Except.ok.inj enters).symm, fun same => same ▸ rfl⟩

/-! ## Slots -/

/-- A document with a slot that can be filled with a value or left without one. -/
abbrev Slot := Option Document → Document

/-- Members with one more among them, if it is there. -/
def around (before : List (Option String × Document)) (name : String) (after : List (Option String × Document))
    (o : Option Document) : List (Option String × Document) :=
  before ++ (o.map fun d => (some name, d)).toList ++ after

/-- A member of an object, among others. -/
def Slot.member (before : List (Option String × Document)) (name : String)
    (after : List (Option String × Document)) : Slot :=
  fun o => .object (around before name after o) .closed

/-- A slot within an item of an array, among others. -/
def Slot.item (before : List Document) (slot : Slot) (after : List Document) : Slot :=
  fun o => .array (before ++ slot o :: after) .closed

/-- A slot within the value of a field of a record, which is written as an object or as an array. -/
inductive Slot.Within (names : List String) (name : String) (slot : Slot) : Slot → Prop
  | member (before after : List (Option String × Document)) :
    Within names name slot fun o => Slot.member before name after (some (slot o))
  | item (before after : List Document) (own : names[before.length]? = some name) :
    Within names name slot (.item before slot after)

/-- In a family of members the one of a name is filled in some way, and the others stay. -/
structure Fills (fill : Option Document → Option Document) (name : String)
    (members : Option Document → List (Option String × Document)) : Prop where
  own : ∀ o, (members o).lookup (some name) = fill o
  others : ∀ o other, other ≠ name → (members o).lookup (some other) = (members none).lookup (some other)

section

variable {before after : List (Option String × Document)}

theorem fills_around (fill : Option Document → Option Document) (fresh : before.lookup (some name) = none)
    (last : after.lookup (some name) = none) : Fills fill name fun o => around before name after (fill o) where
  own o := by
    simp only [around, List.lookup_append, fresh, last]
    cases fill o with
    | none => rfl
    | some d => simp
  others o other apart := by
    have passes (o : Option Document) :
        ((o.map fun d => (some name, d)).toList).lookup (some other) = none := by
      cases o with
      | none => rfl
      | some d => simp [List.lookup_cons, beq_false_of_ne apart]
    simp only [around, List.lookup_append, passes]

/-- What is walked with a known member is walked with any value of it, and without it. -/
theorem Walkable.around {known : List String} {d : Document} (listed : name ∈ known)
    (walkable : Walkable known (Json.around before name after (some d))) (o : Option Document) :
    Walkable known (Json.around before name after o) := by
  have fewer : ((Json.around before name after o).map Prod.fst).Sublist
      ((Json.around before name after (some d)).map Prod.fst) := by
    cases o <;> simp [Json.around]
  have others {m : Option String × Document} (member : m ∈ Json.around before name after o) :
      m.1 = some name ∨ m ∈ Json.around before name after (some d) := by
    cases o <;> simp only [Json.around, Option.map, Option.toList, List.mem_append, List.mem_singleton] at member ⊢
    all_goals grind
  refine ⟨fun m member => ?_, fun m member unknown => ?_, fun other own => ?_⟩
  · rcases others member with own | also
    · exact own ▸ Option.some_ne_none name
    · exact walkable.named m also
  · exact walkable.whole m ((others member).resolve_left (unknown name listed)) unknown
  · exact Nat.le_trans (fewer.count_le _) (walkable.once other own)

/-- A known member that is walked is the only one of its name. -/
theorem Walkable.fresh {known : List String} {d : Document} (listed : name ∈ known)
    (walkable : Walkable known (Json.around before name after (some d))) :
    before.lookup (some name) = none ∧ after.lookup (some name) = none := by
  have once := walkable.once name listed
  simp only [Json.around, Option.map_some, Option.toList_some, List.map_append, List.map_cons, List.map_nil,
    List.count_append, List.count_singleton_self] at once
  have missing {members : List (Option String × Document)} (none : (members.map Prod.fst).count (some name) = 0) :
      members.lookup (some name) = .none := by
    refine List.lookup_eq_none_iff.2 fun m member => ?_
    rw [bne_iff_ne]
    exact fun same => List.count_eq_zero.1 none (List.mem_map.2 ⟨m, member, same.symm⟩)
  exact ⟨missing (by omega), missing (by omega)⟩

/-- The items of an array, of which one is in the place of a name. -/
theorem fills_entitle {names : List String} (distinct : names.Nodup) {slot : Slot} {before after : List Document}
    (own : names[before.length]? = some name) :
    Fills (fun o => some (slot o)) name fun o => entitle names (before ++ slot o :: after) := by
  obtain ⟨fits, own⟩ := List.getElem?_eq_some_iff.1 own
  have split := List.take_append_drop before.length names
  rw [List.drop_eq_getElem_cons fits, own] at split
  have long : (names.take before.length).length = before.length := List.length_take_of_le (Nat.le_of_lt fits)
  generalize names.take before.length = earlier at split long
  generalize names.drop (before.length + 1) = later at split
  subst split
  obtain ⟨-, tail, apart⟩ := List.nodup_append.1 distinct
  have fresh : name ∉ earlier := fun again => apart name again name List.mem_cons_self rfl
  have last : name ∉ later := (List.nodup_cons.1 tail).1
  have form (o : Option Document) : entitle (earlier ++ name :: later) (before ++ slot o :: after) =
      around (entitle earlier before) name (entitle later after) (some (slot o)) := by
    rw [entitle, List.map_append, List.zip_append ((List.length_map some).trans long)]
    simp [around, entitle]
  simp only [form]
  exact fills_around (fun o => some (slot o)) (lookup_entitle_of_not_mem before fresh)
    (lookup_entitle_of_not_mem after last)

end

/-! ## What is read in the three cases -/

/-- Whatever value stands at a slot where it is read, nothing and null are read there, alike, and so is the empty
value, in a way that is related. -/
def Lenient (empty : Document) (alike : α → α → Prop) (run : Option Document → Except DecodeError α) : Prop :=
  ∀ d a, run (some d) = .ok a →
    ∃ b c, run none = .ok b ∧ run (some .null) = .ok b ∧ run (some empty) = .ok c ∧ alike b c

namespace Lenient

variable {alike : α → α → Prop} {alike' : β → β → Prop} {run : Option Document → Except DecodeError α}

theorem mono (lenient : Lenient empty alike run) {weaker : α → α → Prop}
    (weakens : ∀ b c, alike b c → weaker b c) : Lenient empty weaker run := by
  intro d a reads
  obtain ⟨b, c, missing, null, blank, same⟩ := lenient d a reads
  exact ⟨b, c, missing, null, blank, weakens b c same⟩

/-- What does not depend on the slot. -/
theorem constant {result : Except DecodeError α} (refl : ∀ a, alike a a) : Lenient empty alike fun _ => result :=
  fun _ a reads => ⟨a, a, reads, reads, reads, refl a⟩

/-- What is made of what is read. -/
theorem map (lenient : Lenient empty alike run) {f : Option Document → Except DecodeError β} {made : α → β}
    (eq : ∀ o, f o = (run o).map made) (respects : ∀ b c, alike b c → alike' (made b) (made c)) :
    Lenient empty alike' f := by
  intro d b reads
  rw [eq] at reads
  cases own : run (some d) with
  | error e => simp [own, Except.map] at reads
  | ok a =>
    obtain ⟨b, c, missing, null, blank, same⟩ := lenient d a own
    refine ⟨made b, made c, ?_, ?_, ?_, respects b c same⟩
    · rw [eq, missing, Except.map]
    · rw [eq, null, Except.map]
    · rw [eq, blank, Except.map]

/-- A member that may be null or absent, in its own place. -/
theorem optional {value : Decoder α} {alike : Option α → Option α → Prop} {a : α}
    (blank : value source empty = .ok a) (given : empty ≠ .null) (same : alike none (some a)) :
    Lenient empty alike (Record.readField name (Decoder.optional value) (some none) source) :=
  fun _ _ _ => ⟨none, some a, rfl, rfl, Decoder.optional_reads blank given, same⟩

/-- A slot within a member that may be null or absent, but is there. -/
theorem within_optional {value : Decoder α} {slot : Slot} {alike' : Option α → Option α → Prop}
    (lenient : Lenient empty alike fun o => value source (slot o)) (given : ∀ o, slot o ≠ .null)
    (respects : ∀ b c, alike b c → alike' (some b) (some c)) :
    Lenient empty alike' fun o =>
      Record.readField name (Decoder.optional value) (some none) source (some (slot o)) := by
  refine lenient.map (fun o => ?_) respects
  change Decoder.optional value source (slot o) = _
  cases there : slot o with
  | null => exact absurd there (given o)
  | _ => rfl

section

variable {r : Record (α → β)} {value : Decoder α} {absent : Option α} {related : β → β → Prop}
  {members : Option Document → List (Option String × Document)}

/-- A field is lenient if what stands before it and its own value are. -/
theorem field (built : Lenient empty (alike ⇒ related) fun o => r.ofMembers source (members o))
    (reads : Lenient empty alike fun o =>
      Record.readField name value absent source ((members o).lookup (some name))) :
    Lenient empty related fun o => (r.field name value absent).ofMembers source (members o) := by
  intro d b whole
  obtain ⟨f, before, a, own, -⟩ := Record.ofMembers_field_iff.1 whole
  obtain ⟨g, g', missing, null, blank, same⟩ := built d f before
  obtain ⟨x, x', missing', null', blank', same'⟩ := reads d a own
  refine ⟨g x, g' x', ?_, ?_, ?_, same same'⟩
  · exact Record.ofMembers_field_iff.2 ⟨g, missing, x, missing', rfl⟩
  · exact Record.ofMembers_field_iff.2 ⟨g, null, x, null', rfl⟩
  · exact Record.ofMembers_field_iff.2 ⟨g', blank, x', blank', rfl⟩

variable {fill : Option Document → Option Document} {filled : String}

/-- A field whose own member has the slot. -/
theorem here (built : Lenient empty (alike ⇒ related) fun o => r.ofMembers source (members o))
    (fills : Fills fill name members)
    (reads : Lenient empty alike fun o => Record.readField name value absent source (fill o)) :
    Lenient empty related fun o => (r.field name value absent).ofMembers source (members o) := by
  refine built.field ?_
  simpa only [fills.own] using reads

/-- A field elsewhere. -/
theorem elsewhere (built : Lenient empty (alike ⇒ related) fun o => r.ofMembers source (members o))
    (fills : Fills fill filled members) (apart : name ≠ filled) (refl : ∀ a, alike a a) :
    Lenient empty related fun o => (r.field name value absent).ofMembers source (members o) := by
  refine built.field ?_
  simp only [fun o => fills.others o name apart]
  exact constant refl

/-- A field that has the slot or not. -/
theorem either (built : Lenient empty (alike ⇒ related) fun o => r.ofMembers source (members o))
    (fills : Fills fill filled members) (refl : name ≠ filled → ∀ a, alike a a)
    (reads : name = filled → Lenient empty alike fun o => Record.readField name value absent source (fill o)) :
    Lenient empty related fun o => (r.field name value absent).ofMembers source (members o) := by
  by_cases own : name = filled
  · exact built.here (own ▸ fills) (reads own)
  · exact built.elsewhere fills own (refl own)

/-- A record of one field. -/
theorem alone {absent : Option β} {value : Decoder β} (fills : Fills fill name members)
    (reads : Lenient empty related fun o => Record.readField name value absent source (fill o)) :
    Lenient empty related fun o => ((Record.make id).field name value absent).ofMembers source (members o) := by
  have made : Lenient empty (related ⇒ related) fun o => (Record.make (id : β → β)).ofMembers source (members o) :=
    fun _ _ _ => ⟨id, id, rfl, rfl, rfl, fun _ _ same => same⟩
  exact made.here fills reads

end

/-- A record is read from an object of which the slot is a member, or within one. -/
theorem object {r : Record α} (regular : r.Regular) (listed : name ∈ r.names)
    {fill : Option Document → Option Document} (given : ∀ d, fill (some d) ≠ none)
    {before after : List (Option String × Document)}
    (built : ∀ inner members, source.enter = .ok inner → Fills fill name members →
      Lenient empty alike fun o => r.ofMembers inner (members o)) :
    Lenient empty alike fun o => r.decoder source (Slot.member before name after (fill o)) := by
  intro d a reads
  obtain ⟨inner, enters, walkable, own⟩ := regular.object_iff.1 reads
  obtain ⟨d', there⟩ := Option.ne_none_iff_exists'.1 (given d)
  rw [there] at walkable
  obtain ⟨fresh, last⟩ := walkable.fresh listed
  obtain ⟨b, c, missing, null, blank, same⟩ := built inner _ enters (fills_around fill fresh last) d a own
  refine ⟨b, c, ?_, ?_, ?_, same⟩
  · exact regular.object_iff.2 ⟨inner, enters, walkable.around listed _, missing⟩
  · exact regular.object_iff.2 ⟨inner, enters, walkable.around listed _, null⟩
  · exact regular.object_iff.2 ⟨inner, enters, walkable.around listed _, blank⟩

/-- A record is read from an array with the slot within an item. -/
theorem array {r : Record α} (regular : r.Regular) {slot : Slot}
    {before after : List Document} (own : r.names[before.length]? = some name)
    (built : ∀ inner members, source.enter = .ok inner → Fills (fun o => some (slot o)) name members →
      Lenient empty alike fun o => r.ofMembers inner (members o)) :
    Lenient empty alike fun o => r.decoder source (Slot.item before slot after o) := by
  intro d a reads
  obtain ⟨inner, enters, fits, whole⟩ := regular.array_iff.1 reads
  obtain ⟨b, c, missing, null, blank, same⟩ := built inner _ enters (fills_entitle regular.distinct own) d a whole
  have long (o : Option Document) : (before ++ slot o :: after).length ≤ r.names.length := by
    simpa using fits
  refine ⟨b, c, ?_, ?_, ?_, same⟩
  · exact regular.array_iff.2 ⟨inner, enters, long _, missing⟩
  · exact regular.array_iff.2 ⟨inner, enters, long _, null⟩
  · exact regular.array_iff.2 ⟨inner, enters, long _, blank⟩

/-- A record is read with the slot within the value of one of its fields. -/
theorem within {r : Record α} (regular : r.Regular) (listed : name ∈ r.names)
    {slot whole : Slot} (within : Slot.Within r.names name slot whole)
    (built : ∀ inner members, source.enter = .ok inner → Fills (fun o => some (slot o)) name members →
      Lenient empty alike fun o => r.ofMembers inner (members o)) :
    Lenient empty alike fun o => r.decoder source (whole o) := by
  cases within with
  | member before after =>
    exact object regular listed (fun d => Option.some_ne_none (slot (some d))) built
  | item before after own => exact array regular own built

/-- A record of one field is read with the slot within it. -/
theorem envelope {value : Decoder α} {absent : Option α} {slot whole : Slot}
    (within : Slot.Within [name] name slot whole)
    (lenient : ∀ inner, source.enter = .ok inner → Lenient empty alike fun o => value inner (slot o)) :
    Lenient empty alike fun o => ((Record.make id).field name value absent).decoder source (whole o) := by
  exact .within Record.alone_regular List.mem_cons_self within fun inner members enters fills =>
    alone fills (lenient inner enters)

private theorem items_middle (item : Decoder α) (before after : List Document) (d : Document) :
    Decoder.items item source (before ++ d :: after) = do
      let as ← Decoder.items item source before
      let a ← item source d
      let cs ← Decoder.items item source after
      return as ++ a :: cs := by
  induction before with
  | nil => rfl
  | cons d rest ih => simp [Decoder.items, ih]

/-- A list is read with the slot within an item. -/
theorem list {item : Decoder α} {view : α → γ} {slot : Slot} {before after : List Document}
    (lenient : ∀ inner, source.enter = .ok inner → Lenient empty (Eq on view) fun o => item inner (slot o)) :
    Lenient empty (Eq on List.map view) fun o => Decoder.list item source (Slot.item before slot after o) := by
  intro d as reads
  have parts := reads
  simp only [Slot.item, Decoder.list, bind_ok_iff, items_middle] at parts
  obtain ⟨inner, enters, -, ⟨front, earlier, a, -, back, later, -⟩, -⟩ := parts
  have whole (o : Option Document) : Decoder.list item source (Slot.item before slot after o) =
      (item inner (slot o)).map fun a => front ++ a :: back := by
    simp only [Slot.item, Decoder.list, enters, items_middle, earlier, later, Ending.close, bind, Except.bind]
    cases item inner (slot o) <;> rfl
  have items : Lenient empty (Eq on List.map view) fun o =>
      Decoder.list item source (Slot.item before slot after o) :=
    (lenient inner enters).map whole fun b c same => by simpa [onFun] using same
  exact items d as reads

end Lenient

/-- An object from which a record of one field is read is also read with anything else in that field that is. -/
theorem Record.alone_iff {value : Decoder α} {absent : Option α} {before after : List (Option String × Document)}
    {d : Document} {a : α}
    (reads : ((make id).field name value absent).decoder source (Slot.member before name after (some d)) = .ok a)
    (o : Option Document) (b : α) :
    ((make id).field name value absent).decoder source (Slot.member before name after o) = .ok b ↔
      ∃ inner, source.enter = .ok inner ∧ readField name value absent inner o = .ok b := by
  have listed : name ∈ ((make (id : α → α)).field name value absent).names := List.mem_cons_self
  obtain ⟨-, -, walkable, -⟩ := alone_regular.object_iff.1 reads
  obtain ⟨fresh, last⟩ := walkable.fresh listed
  have own : (around before name after o).lookup (some name) = o := (fills_around id fresh last).own o
  refine alone_regular.object_iff.trans (exists_congr fun inner => and_congr_right fun _ => ?_)
  rw [ofMembers_field_iff, own, and_iff_right (walkable.around listed o)]
  simp [make]

/-! ## Texts -/

/-- A text is that of a document. -/
def Document.WrittenAs (d : Document) (body : List UInt8) : Prop := Text.ofOctets body = ⟨d, true⟩

/-- Texts with a slot are read with null in it and with nothing, as the same, and with an empty value, as something
related: all those of which one is read that has a value there. -/
def ForgivesNull (reads : List UInt8 → Except DecodeError α) (alike : α → α → Prop) (slot : Slot)
    (empty : Document) : Prop :=
  ∀ d body a, (slot (some d)).WrittenAs body → reads body = .ok a → ∃ b c, alike b c ∧
    (∀ other, (slot none).WrittenAs other ∨ (slot (some .null)).WrittenAs other → reads other = .ok b) ∧
    ∀ other, (slot (some empty)).WrittenAs other → reads other = .ok c

theorem decodeOctets_written {decoder : Decoder α} {d : Document} {body : List UInt8} (written : d.WrittenAs body) :
    decodeOctets decoder body = decoder (.text depthLimit) d := by
  rw [Document.WrittenAs] at written
  simp only [decodeOctets, decodeText, written]
  cases decoder (.text depthLimit) d <;> rfl

theorem Lenient.forgivesNull {decoder : Decoder α} {alike : α → α → Prop} {slot : Slot}
    (lenient : Lenient empty alike fun o => decoder (.text depthLimit) (slot o)) :
    ForgivesNull (decodeOctets decoder) alike slot empty := by
  intro d body a written reads
  rw [decodeOctets_written written] at reads
  obtain ⟨b, c, missing, null, blank, same⟩ := lenient d a reads
  refine ⟨b, c, same, fun other form => ?_, fun other form => ?_⟩
  · rcases form with form | form
    · exact (decodeOctets_written form).trans missing
    · exact (decodeOctets_written form).trans null
  · exact (decodeOctets_written form).trans blank

end CloudKeeper.Json
