import CloudKeeper.SortedMap
/-!
Sorted maps as lists of entries: what a map looks up is what its entries hold, a map is made again from its
own entries, and what is done to a map can be done to the map of its values' images.
-/
namespace CloudKeeper.SortedMap

variable {κ α : Type} [Ord κ] [Std.TransOrd κ] [Std.LawfulEqOrd κ]

omit [Std.LawfulEqOrd κ] in
private theorem insertEntry_last {key : κ} {value : α} {l : List (κ × α)}
    (after : ∀ e ∈ l, compare e.1 key = .lt) : insertEntry key value l = l ++ [(key, value)] := by
  induction l with
  | nil => rfl
  | cons head rest ih =>
    have above : compare key head.1 = .gt :=
      Std.OrientedCmp.gt_iff_lt.2 (after head List.mem_cons_self)
    have others := ih fun e member => after e (List.mem_cons_of_mem head member)
    simp only [insertEntry, above, others, List.cons_append]

/-- A map is the map of its entries. -/
theorem ofList_entries (m : SortedMap κ α) : ofList m.entries = m := by
  have insertAll : ∀ (before : SortedMap κ α) (l : List (κ × α)),
      (before.entries ++ l).Pairwise (fun a b => compare a.1 b.1 = .lt) →
        (l.foldl (fun m pair => m.insert pair.1 pair.2) before).entries = before.entries ++ l := by
    intro before l
    induction l generalizing before with
    | nil => intro _; exact (List.append_nil _).symm
    | cons head rest ih =>
      intro sorted
      have last : (before.insert head.1 head.2).entries = before.entries ++ [head] := by
        refine insertEntry_last fun e member => ?_
        exact (List.pairwise_append.1 sorted).2.2 e member head List.mem_cons_self
      have moved : before.entries ++ head :: rest = (before.insert head.1 head.2).entries ++ rest := by
        rw [last, List.append_assoc]
        rfl
      rw [moved] at sorted ⊢
      exact ih _ sorted
  have same := insertAll empty m.entries m.sorted
  cases m
  exact (SortedMap.mk.injEq ..).mpr same

/-- A map made of pairs has the last one of each key. -/
theorem get?_ofList [BEq κ] [LawfulBEq κ] [DecidableEq κ] (pairs : List (κ × α)) (key : κ) :
    (ofList pairs).get? key = pairs.reverse.lookup key := by
  have insertAll : ∀ before : SortedMap κ α,
      (pairs.foldl (fun m pair => m.insert pair.1 pair.2) before).get? key =
        (pairs.reverse.lookup key).or (before.get? key) := by
    induction pairs with
    | nil => intro before; rfl
    | cons pair rest ih =>
      intro before
      obtain ⟨k, a⟩ := pair
      have last : (before.insert k a).get? key = (List.lookup key [(k, a)]).or (before.get? key) := by
        rw [get?_insert, List.lookup_cons]
        by_cases same : key = k
        · rw [if_pos same, same, beq_self_eq_true]
          rfl
        · rw [if_neg same, beq_false_of_ne same]
          rfl
      rw [List.foldl_cons, ih, last, List.reverse_cons, List.lookup_append, Option.or_assoc]
  have all := insertAll empty
  rwa [get?_empty, Option.or_none] at all

/-- A map looks up exactly what its entries hold. -/
theorem mem_entries_iff (m : SortedMap κ α) (key : κ) (value : α) :
    (key, value) ∈ m.entries ↔ m.get? key = some value := by
  have self : compare key key = .eq := Std.ReflCmp.compare_self
  have looks : ∀ l : List (κ × α), l.Pairwise (fun a b => compare a.1 b.1 = .lt) →
      ((key, value) ∈ l ↔ lookup key l = some value) := by
    intro l
    induction l with
    | nil =>
      intro _
      refine ⟨fun member => absurd member List.not_mem_nil, fun found => ?_⟩
      cases found
    | cons head rest ih =>
      intro sorted
      obtain ⟨k, a⟩ := head
      obtain ⟨first, others⟩ := List.pairwise_cons.1 sorted
      have later : (key, value) ∈ rest → compare key k = .gt :=
        fun member => Std.OrientedCmp.gt_iff_lt.2 (first _ member)
      rw [List.mem_cons, lookup]
      split
      case h_1 before =>
        refine ⟨?_, fun found => ?_⟩
        · rintro (same | member)
          · cases same
            rw [self] at before
            cases before
          · rw [later member] at before
            cases before
        · cases found
      case h_2 equal =>
        cases Std.LawfulEqOrd.eq_of_compare equal
        constructor
        · rintro (same | member)
          · cases same
            rfl
          · rw [later member] at equal
            cases equal
        · intro found
          cases found
          exact .inl rfl
      case h_3 after =>
        rw [← ih others]
        refine ⟨?_, .inr⟩
        rintro (same | member)
        · cases same
          rw [self] at after
          cases after
        · exact member
  exact looks m.entries m.sorted

/-- The entry of a key is the one that is looked up. -/
theorem find?_entries [BEq κ] [LawfulBEq κ] (m : SortedMap κ α) (key : κ) :
    (m.entries.find? (·.1 == key)).map Prod.snd = m.get? key := by
  cases found : m.entries.find? (·.1 == key) with
  | none =>
    have missing : ∀ value, m.get? key ≠ some value := by
      intro value holds
      have member := (m.mem_entries_iff key value).2 holds
      exact List.find?_eq_none.1 found _ member (beq_self_eq_true key)
    exact (Option.eq_none_iff_forall_ne_some.2 missing).symm
  | some e =>
    have own : e.1 = key := by simpa using List.find?_some found
    exact ((m.mem_entries_iff key e.2).1 (own ▸ List.mem_of_find?_eq_some found)).symm

/-- A key that a map looks something up for is one of its keys. -/
theorem mem_keys_of_get {m : SortedMap κ α} {key : κ} {value : α} (found : m.get? key = some value) :
    key ∈ m.keys :=
  List.mem_map.2 ⟨(key, value), (m.mem_entries_iff key value).2 found, rfl⟩

/-- To put in its place what is there changes nothing. -/
theorem insert_of_get {m : SortedMap κ α} {key : κ} {value : α} (found : m.get? key = some value) :
    m.insert key value = m := by
  have same : ∀ l : List (κ × α), lookup key l = some value → insertEntry key value l = l := by
    intro l
    induction l with
    | nil => exact nofun
    | cons head rest ih =>
      obtain ⟨k, a⟩ := head
      intro found
      simp only [lookup] at found
      simp only [insertEntry]
      split
      case h_1 before =>
        rw [before] at found
        cases found
      case h_2 equal =>
        rw [equal] at found
        cases found
        cases Std.LawfulEqOrd.eq_of_compare equal
        rfl
      case h_3 after =>
        rw [after] at found
        rw [ih found]
  have entries := same m.entries found
  cases m
  exact (SortedMap.mk.injEq ..).mpr entries

/-- A key that is put in leaves the others as they are listed. -/
theorem filter_keys_insert {p : κ → Bool} (m : SortedMap κ α) {key : κ} (value : α)
    (skipped : p key = false) : (m.insert key value).keys.filter p = m.keys.filter p := by
  have same : ∀ l : List (κ × α),
      ((insertEntry key value l).map (·.1)).filter p = (l.map (·.1)).filter p := by
    intro l
    induction l with
    | nil => simp [insertEntry, skipped]
    | cons head rest ih =>
      obtain ⟨k, a⟩ := head
      simp only [insertEntry]
      split
      case h_1 => simp [skipped]
      case h_2 equal =>
        cases Std.LawfulEqOrd.eq_of_compare equal
        rfl
      case h_3 => simp only [List.map_cons, List.filter_cons, ih]
  exact same m.entries

omit [Std.TransOrd κ] in
/-- No key is listed twice. -/
theorem nodup_keys (m : SortedMap κ α) : m.keys.Nodup := by
  refine List.pairwise_map.2 (m.sorted.imp ?_)
  intro a b before same
  have self : compare b.1 b.1 = .eq := Std.ReflCmp.compare_self
  rw [same, self] at before
  cases before

/-! ## Images -/

variable {β : Type} (f : α → β)

omit [Std.TransOrd κ] [Std.LawfulEqOrd κ] in
/-- The map with every value replaced by its image. -/
def map (m : SortedMap κ α) : SortedMap κ β :=
  ⟨m.entries.map fun e => (e.1, f e.2), List.pairwise_map.2 m.sorted⟩

omit [Std.TransOrd κ] [Std.LawfulEqOrd κ] in
theorem get?_map (m : SortedMap κ α) (key : κ) : (m.map f).get? key = (m.get? key).map f := by
  have same : ∀ l : List (κ × α), lookup key (l.map fun e => (e.1, f e.2)) = (lookup key l).map f := by
    intro l
    induction l with
    | nil => rfl
    | cons head rest ih =>
      simp only [List.map_cons, lookup]
      split
      · rfl
      · rfl
      · exact ih
  exact same m.entries

omit [Std.TransOrd κ] [Std.LawfulEqOrd κ] in
theorem values_map (m : SortedMap κ α) : (m.map f).values = m.values.map f := by
  simp only [values, map, List.map_map, Function.comp_def]

theorem map_insert (m : SortedMap κ α) (key : κ) (value : α) :
    (m.insert key value).map f = (m.map f).insert key (f value) := by
  have same : ∀ l : List (κ × α), (insertEntry key value l).map (fun e => (e.1, f e.2)) =
      insertEntry key (f value) (l.map fun e => (e.1, f e.2)) := by
    intro l
    induction l with
    | nil => rfl
    | cons head rest ih =>
      simp only [List.map_cons, insertEntry]
      split
      · rfl
      · rfl
      · rw [List.map_cons, ih]
  exact (SortedMap.mk.injEq ..).mpr (same m.entries)

theorem map_ofList (pairs : List (κ × α)) :
    (ofList pairs).map f = ofList (pairs.map fun pair => (pair.1, f pair.2)) := by
  have same : ∀ m : SortedMap κ α, (pairs.foldl (fun m pair => m.insert pair.1 pair.2) m).map f =
      (pairs.map fun pair => (pair.1, f pair.2)).foldl (fun m pair => m.insert pair.1 pair.2) (m.map f) := by
    induction pairs with
    | nil => exact fun _ => rfl
    | cons pair rest ih =>
      intro m
      rw [List.map_cons, List.foldl_cons, List.foldl_cons, ih, map_insert]
  exact same empty

omit [Std.TransOrd κ] [Std.LawfulEqOrd κ] in
theorem map_erase (m : SortedMap κ α) (key : κ) : (m.erase key).map f = (m.map f).erase key := by
  have same : ∀ l : List (κ × α), (eraseEntry key l).map (fun e => (e.1, f e.2)) =
      eraseEntry key (l.map fun e => (e.1, f e.2)) := by
    intro l
    induction l with
    | nil => rfl
    | cons head rest ih =>
      simp only [List.map_cons, eraseEntry]
      split
      · rfl
      · rfl
      · rw [List.map_cons, ih]
  exact (SortedMap.mk.injEq ..).mpr (same m.entries)

end CloudKeeper.SortedMap
