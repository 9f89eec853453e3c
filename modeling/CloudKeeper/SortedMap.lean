/-!
Finite maps as association lists in strictly increasing order of their keys. The order is part of
the type, so equal maps are equal lists and listing a map needs no sort. What `insert` and `erase`
do is said through `get?`.
-/
namespace CloudKeeper

/-- A finite map whose entries stand in strictly increasing order of their keys. -/
structure SortedMap (κ : Type) (α : Type) [Ord κ] where
  entries : List (κ × α)
  sorted : entries.Pairwise (fun a b => compare a.1 b.1 = .lt)

namespace SortedMap

variable {κ α β : Type} [Ord κ]

/-- The value that a sorted list of entries holds for a key. -/
def lookup (key : κ) : List (κ × α) → Option α
  | [] => none
  | (k, a) :: rest =>
    match compare key k with
    | .lt => none
    | .eq => some a
    | .gt => lookup key rest

/-- Puts an entry at its place, replacing an entry of the same key. -/
def insertEntry (key : κ) (value : α) : List (κ × α) → List (κ × α)
  | [] => [(key, value)]
  | (k, a) :: rest =>
    match compare key k with
    | .lt => (key, value) :: (k, a) :: rest
    | .eq => (key, value) :: rest
    | .gt => (k, a) :: insertEntry key value rest

/-- Drops the entry of a key. -/
def eraseEntry (key : κ) : List (κ × α) → List (κ × α)
  | [] => []
  | (k, a) :: rest =>
    match compare key k with
    | .lt => (k, a) :: rest
    | .eq => rest
    | .gt => (k, a) :: eraseEntry key rest

private theorem mem_insertEntry {key : κ} {value : α} {l : List (κ × α)} {e : κ × α}
    (member : e ∈ insertEntry key value l) : e = (key, value) ∨ e ∈ l := by
  induction l with
  | nil => simpa [insertEntry] using member
  | cons head rest ih =>
    obtain ⟨k, a⟩ := head
    simp only [insertEntry] at member
    split at member <;> grind

private theorem mem_eraseEntry {key : κ} {l : List (κ × α)} {e : κ × α}
    (member : e ∈ eraseEntry key l) : e ∈ l := by
  induction l with
  | nil => simp [eraseEntry] at member
  | cons head rest ih =>
    obtain ⟨k, a⟩ := head
    simp only [eraseEntry] at member
    split at member <;> grind

private theorem sorted_eraseEntry (key : κ) {l : List (κ × α)}
    (sorted : l.Pairwise (fun a b => compare a.1 b.1 = .lt)) :
    (eraseEntry key l).Pairwise (fun a b => compare a.1 b.1 = .lt) := by
  induction l with
  | nil => simp [eraseEntry]
  | cons head rest ih =>
    obtain ⟨k, a⟩ := head
    obtain ⟨first, others⟩ := List.pairwise_cons.1 sorted
    simp only [eraseEntry]
    split
    · exact sorted
    · exact others
    · exact List.pairwise_cons.2 ⟨fun e member => first e (mem_eraseEntry member), ih others⟩

private theorem sorted_insertEntry [Std.TransOrd κ] [Std.LawfulEqOrd κ] (key : κ) (value : α)
    {l : List (κ × α)} (sorted : l.Pairwise (fun a b => compare a.1 b.1 = .lt)) :
    (insertEntry key value l).Pairwise (fun a b => compare a.1 b.1 = .lt) := by
  induction l with
  | nil => simp [insertEntry]
  | cons head rest ih =>
    obtain ⟨k, a⟩ := head
    obtain ⟨first, others⟩ := List.pairwise_cons.1 sorted
    simp only [insertEntry]
    split
    case h_1 before =>
      refine List.pairwise_cons.2 ⟨fun e member => ?_, sorted⟩
      rcases List.mem_cons.1 member with rfl | member
      · exact before
      · exact Std.TransCmp.lt_trans before (first e member)
    case h_2 same =>
      have equal : key = k := Std.LawfulEqOrd.eq_of_compare same
      subst equal
      exact List.pairwise_cons.2 ⟨first, others⟩
    case h_3 after =>
      refine List.pairwise_cons.2 ⟨fun e member => ?_, ih others⟩
      rcases mem_insertEntry member with rfl | member
      · exact Std.OrientedCmp.gt_iff_lt.1 after
      · exact first e member

/-- The map without entries. -/
def empty : SortedMap κ α := ⟨[], List.Pairwise.nil⟩

instance : Inhabited (SortedMap κ α) := ⟨empty⟩

instance [DecidableEq κ] [DecidableEq α] : DecidableEq (SortedMap κ α) := fun a b =>
  if h : a.entries = b.entries then isTrue (by cases a; cases b; simp_all)
  else isFalse fun same => h (same ▸ rfl)

instance [Repr κ] [Repr α] : Repr (SortedMap κ α) := ⟨fun m prec => reprPrec m.entries prec⟩

/-- The value of a key, if the map has one. -/
def get? (m : SortedMap κ α) (key : κ) : Option α := lookup key m.entries

/-- Whether the map has a value for the key. -/
def contains (m : SortedMap κ α) (key : κ) : Bool := (m.get? key).isSome

/-- The number of entries. -/
def size (m : SortedMap κ α) : Nat := m.entries.length

/-- The keys in increasing order. -/
def keys (m : SortedMap κ α) : List κ := m.entries.map (·.1)

/-- The values in increasing order of their keys. -/
def values (m : SortedMap κ α) : List α := m.entries.map (·.2)

/-- Gives a key a value, whatever it had before. -/
def insert [Std.TransOrd κ] [Std.LawfulEqOrd κ] (m : SortedMap κ α) (key : κ) (value : α) :
    SortedMap κ α :=
  ⟨insertEntry key value m.entries, sorted_insertEntry key value m.sorted⟩

/-- Takes a key out of the map. -/
def erase (m : SortedMap κ α) (key : κ) : SortedMap κ α :=
  ⟨eraseEntry key m.entries, sorted_eraseEntry key m.sorted⟩

/-- Inserts the pairs of a list from left to right, so the last pair of a key wins. -/
def ofList [Std.TransOrd κ] [Std.LawfulEqOrd κ] (pairs : List (κ × α)) : SortedMap κ α :=
  pairs.foldl (fun m pair => m.insert pair.1 pair.2) empty

@[simp] theorem get?_empty (key : κ) : (empty : SortedMap κ α).get? key = none := rfl

private theorem lookup_eq_none_of_before [Std.TransOrd κ] {key : κ} {l : List (κ × α)}
    (before : ∀ e ∈ l, compare key e.1 = .lt) : lookup key l = none := by
  cases l with
  | nil => rfl
  | cons head rest =>
    obtain ⟨k, a⟩ := head
    have least := before (k, a) (by simp)
    simp only at least
    simp [lookup, least]

private theorem lookup_insertEntry [Std.TransOrd κ] [Std.LawfulEqOrd κ] (key other : κ) (value : α)
    (l : List (κ × α)) (sorted : l.Pairwise (fun a b => compare a.1 b.1 = .lt)) :
    lookup other (insertEntry key value l) =
      if compare other key = .eq then some value else lookup other l := by
  induction l with
  | nil =>
    simp only [insertEntry, lookup]
    cases order : compare other key <;> simp
  | cons head rest ih =>
    obtain ⟨k, a⟩ := head
    obtain ⟨first, others⟩ := List.pairwise_cons.1 sorted
    simp only [insertEntry]
    split
    case h_1 before =>
      simp only [lookup]
      cases order : compare other key
      · have least : compare other k = .lt := Std.TransCmp.lt_trans order before
        simp [least]
      · simp
      · simp
    case h_2 same =>
      have equal : key = k := Std.LawfulEqOrd.eq_of_compare same
      subst equal
      simp only [lookup]
      cases order : compare other key <;> simp
    case h_3 after =>
      have above : compare k key = .lt := Std.OrientedCmp.gt_iff_lt.1 after
      simp only [lookup]
      cases order : compare other k
      · have least : compare other key = .lt := Std.TransCmp.lt_trans order above
        simp [least]
      · have equal : other = k := Std.LawfulEqOrd.eq_of_compare order
        subst equal
        simp [above]
      · simpa using ih others

private theorem lookup_eraseEntry [Std.TransOrd κ] [Std.LawfulEqOrd κ] (key other : κ)
    (l : List (κ × α)) (sorted : l.Pairwise (fun a b => compare a.1 b.1 = .lt)) :
    lookup other (eraseEntry key l) =
      if compare other key = .eq then none else lookup other l := by
  induction l with
  | nil => simp [eraseEntry, lookup]
  | cons head rest ih =>
    obtain ⟨k, a⟩ := head
    obtain ⟨first, others⟩ := List.pairwise_cons.1 sorted
    simp only [eraseEntry]
    split
    case h_1 before =>
      simp only [lookup]
      cases order : compare other key
      · simp
      · have equal : other = key := Std.LawfulEqOrd.eq_of_compare order
        subst equal
        simp [before]
      · simp
    case h_2 same =>
      have equal : key = k := Std.LawfulEqOrd.eq_of_compare same
      subst equal
      simp only [lookup]
      cases order : compare other key
      · have : lookup other rest = none :=
          lookup_eq_none_of_before fun e member => Std.TransCmp.lt_trans order (first e member)
        simpa using this
      · have equal : other = key := Std.LawfulEqOrd.eq_of_compare order
        subst equal
        simpa using lookup_eq_none_of_before first
      · simp
    case h_3 after =>
      have above : compare k key = .lt := Std.OrientedCmp.gt_iff_lt.1 after
      simp only [lookup]
      cases order : compare other k
      · have least : compare other key = .lt := Std.TransCmp.lt_trans order above
        simp [least]
      · have equal : other = k := Std.LawfulEqOrd.eq_of_compare order
        subst equal
        simp [above]
      · simpa using ih others

/-- An inserted key has the new value and every other key keeps its own. -/
theorem get?_insert [Std.TransOrd κ] [Std.LawfulEqOrd κ] [DecidableEq κ] (m : SortedMap κ α)
    (key other : κ) (value : α) :
    (m.insert key value).get? other = if other = key then some value else m.get? other := by
  have := lookup_insertEntry key other value m.entries m.sorted
  simp only [Std.LawfulEqOrd.compare_eq_iff_eq] at this
  simpa [insert, get?] using this

/-- An erased key has no value and every other key keeps its own. -/
theorem get?_erase [Std.TransOrd κ] [Std.LawfulEqOrd κ] [DecidableEq κ] (m : SortedMap κ α)
    (key other : κ) :
    (m.erase key).get? other = if other = key then none else m.get? other := by
  have := lookup_eraseEntry key other m.entries m.sorted
  simp only [Std.LawfulEqOrd.compare_eq_iff_eq] at this
  simpa [erase, get?] using this

end SortedMap

end CloudKeeper
