import CloudKeeper.Manifest.Basic
/-!
Which octets are a manifest. They have to decode, and within each kind all names have to be given and none
given twice. Otherwise the first name that breaks this is told, of the first kind that has one.
-/
namespace CloudKeeper.Manifest

/-- All names are given, none is given twice and none is among those seen before. -/
structure Proper (seen names : List String) : Prop where
  given : "" ∉ names
  distinct : names.Nodup
  fresh : ∀ name ∈ names, name ∉ seen

/-- What is wrong with the first name that is not given, or is given for the second time. -/
inductive FirstOffence (kind : String) (seen names : List String) : ManifestError → Prop
  | empty {front rest : List String} (split : names = front ++ "" :: rest) (proper : Proper seen front) :
    FirstOffence kind seen names (.emptyName kind)
  | repeated {front rest : List String} {name : String} (split : names = front ++ name :: rest)
    (proper : Proper seen front) (given : name ≠ "") (again : name ∈ front ∨ name ∈ seen) :
    FirstOffence kind seen names (.duplicate kind name)

/-- The names of each kind, in the order in which they are checked. -/
def named (m : Manifest) : List (String × List String) :=
  [(Volume.kindName, m.volumes.map (·.name)), (FloatingIp.kindName, m.floatingIps.map (·.name)),
    (VirtualMachine.kindName, m.virtualMachines.map (·.name))]

/-- What is wrong with the names of the first kind that has improper ones. -/
def Offends (m : Manifest) (e : ManifestError) : Prop :=
  ∃ before kind names after, m.named = before ++ (kind, names) :: after ∧
    (∀ other ∈ before, Proper [] other.2) ∧ FirstOffence kind [] names e

variable {kind name : String} {seen names : List String} {e : ManifestError}

theorem Proper.nil (seen : List String) : Proper seen [] :=
  ⟨List.not_mem_nil, List.nodup_nil, fun _ member => absurd member List.not_mem_nil⟩

theorem proper_cons_iff :
    Proper seen (name :: names) ↔ name ≠ "" ∧ name ∉ seen ∧ Proper (name :: seen) names := by
  constructor
  · rintro ⟨given, distinct, fresh⟩
    obtain ⟨apart, others⟩ := List.nodup_cons.1 distinct
    have later : ∀ other ∈ names, other ∉ name :: seen := by
      intro other member among
      rcases List.mem_cons.1 among with rfl | among
      · exact apart member
      · exact fresh other (List.mem_cons_of_mem name member) among
    refine ⟨fun empty => given ?_, fresh name List.mem_cons_self, fun empty => given ?_, others, later⟩
    · exact empty ▸ List.mem_cons_self
    · exact List.mem_cons_of_mem name empty
  · rintro ⟨nonempty, unseen, given, distinct, fresh⟩
    have apart : name ∉ names := fun member => fresh name member List.mem_cons_self
    refine ⟨fun empty => ?_, List.nodup_cons.2 ⟨apart, distinct⟩, fun other member => ?_⟩
    · exact (List.mem_cons.1 empty).elim (nonempty ·.symm) given
    · rcases List.mem_cons.1 member with rfl | member
      · exact unseen
      · exact fun among => fresh other member (List.mem_cons_of_mem name among)

/-- Proper names are passed over, and count as seen for those that follow. -/
private theorem checkNames_append {front : List String} (proper : Proper seen front)
    (rest : List String) :
    checkNames kind seen (front ++ rest) = checkNames kind (front.reverse ++ seen) rest := by
  induction front generalizing seen with
  | nil => rfl
  | cons name front ih =>
    obtain ⟨given, unseen, others⟩ := proper_cons_iff.1 proper
    have nonempty : name.isEmpty = false := by simp [given]
    rw [List.cons_append, checkNames, nonempty, if_neg Bool.false_ne_true, if_neg unseen, ih others,
      List.reverse_cons, List.append_assoc, List.singleton_append]

/-- Names that are not proper have a first offence, and the check tells it. -/
private theorem checkNames_cases (kind : String) (seen names : List String) :
    (checkNames kind seen names = .ok () ∧ Proper seen names) ∨
      ∃ e, checkNames kind seen names = .error e ∧ FirstOffence kind seen names e := by
  induction names generalizing seen with
  | nil => exact .inl ⟨rfl, .nil seen⟩
  | cons name names ih =>
    rw [checkNames]
    split
    case isTrue empty =>
      cases String.isEmpty_iff.1 empty
      exact .inr ⟨_, rfl, .empty (List.nil_append _).symm (.nil seen)⟩
    case isFalse nonempty =>
      have given : name ≠ "" := fun empty => nonempty (String.isEmpty_iff.2 empty)
      split
      case isTrue among =>
        exact .inr ⟨_, rfl, .repeated (List.nil_append _).symm (.nil seen) given (.inr among)⟩
      case isFalse unseen =>
        rcases ih (name :: seen) with ⟨passes, proper⟩ | ⟨e, fails, offence⟩
        · exact .inl ⟨passes, proper_cons_iff.2 ⟨given, unseen, proper⟩⟩
        · refine .inr ⟨e, fails, ?_⟩
          cases offence with
          | empty split proper =>
            exact .empty (congrArg (name :: ·) split) (proper_cons_iff.2 ⟨given, unseen, proper⟩)
          | repeated split proper other again =>
            refine .repeated (congrArg (name :: ·) split) (proper_cons_iff.2 ⟨given, unseen, proper⟩) other ?_
            rcases again with among | among
            · exact .inl (List.mem_cons_of_mem name among)
            · rcases List.mem_cons.1 among with rfl | among
              · exact .inl List.mem_cons_self
              · exact .inr among

theorem checkNames_error_iff :
    checkNames kind seen names = .error e ↔ FirstOffence kind seen names e := by
  constructor
  · intro fails
    rcases checkNames_cases kind seen names with ⟨passes, -⟩ | ⟨e', told, offence⟩
    · cases passes.symm.trans fails
    · cases told.symm.trans fails
      exact offence
  · rintro (⟨rfl, proper⟩ | ⟨rfl, proper, given, again⟩)
    · exact (checkNames_append proper _).trans (if_pos rfl)
    · have nonempty : ¬ String.isEmpty _ = true := fun empty => given (String.isEmpty_iff.1 empty)
      have among : _ ∈ _ ++ seen := List.mem_append.2 (again.imp_left List.mem_reverse.2)
      rw [checkNames_append proper, checkNames, if_neg nonempty, if_pos among]

theorem checkNames_ok_iff : checkNames kind seen names = .ok () ↔ Proper seen names := by
  constructor
  · intro passes
    rcases checkNames_cases kind seen names with ⟨-, proper⟩ | ⟨e, fails, -⟩
    · exact proper
    · cases passes.symm.trans fails
  · intro proper
    have all : checkNames kind seen (names ++ []) = .ok () := checkNames_append proper []
    rwa [List.append_nil] at all

/-- Checks that are made in turn fail with the error of the first that fails. -/
private theorem forM_error_iff {α ε : Type} {check : α → Except ε Unit} {all : List α} {e : ε} :
    forM all check = .error e ↔ ∃ before a after, all = before ++ a :: after ∧
      (∀ other ∈ before, check other = .ok ()) ∧ check a = .error e := by
  induction all with
  | nil =>
    refine ⟨nofun, ?_⟩
    rintro ⟨before, a, after, split, -⟩
    cases (List.append_eq_nil_iff.1 split.symm).2
  | cons first rest ih =>
    rw [List.forM_cons]
    cases own : check first with
    | error own' =>
      constructor
      · rintro ⟨⟩
        exact ⟨[], first, rest, rfl, fun _ member => absurd member List.not_mem_nil, own⟩
      · rintro ⟨_ | ⟨head, before⟩, a, after, split, passed, fails⟩
        · cases split
          exact own.symm.trans fails
        · cases split
          cases own.symm.trans (passed _ List.mem_cons_self)
    | ok done =>
      refine ih.trans ⟨?_, ?_⟩
      · rintro ⟨before, a, after, rfl, passed, fails⟩
        exact ⟨first :: before, a, after, rfl, List.forall_mem_cons.2 ⟨own, passed⟩, fails⟩
      · rintro ⟨_ | ⟨head, before⟩, a, after, split, passed, fails⟩
        · cases split
          cases own.symm.trans fails
        · cases split
          exact ⟨before, a, after, rfl, (List.forall_mem_cons.1 passed).2, fails⟩

private theorem forM_ok_iff {α ε : Type} {check : α → Except ε Unit} {all : List α} :
    forM all check = .ok () ↔ ∀ a ∈ all, check a = .ok () := by
  induction all with
  | nil => exact ⟨fun _ _ member => absurd member List.not_mem_nil, fun _ => rfl⟩
  | cons first rest ih =>
    rw [List.forM_cons, List.forall_mem_cons, ← ih]
    cases check first with
    | error e => exact ⟨nofun, nofun⟩
    | ok done => exact ⟨fun passes => ⟨rfl, passes⟩, And.right⟩

/-- Checks the names of kinds in turn. -/
private def checkAll (kinds : List (String × List String)) : Except ManifestError Unit :=
  forM kinds fun kind => checkNames kind.1 [] kind.2

private theorem checkAll_ok_iff {kinds : List (String × List String)} :
    checkAll kinds = .ok () ↔ ∀ kind ∈ kinds, Proper [] kind.2 := by
  refine forM_ok_iff.trans ?_
  simp only [checkNames_ok_iff]

private theorem checkAll_error_iff {m : Manifest} : checkAll m.named = .error e ↔ m.Offends e := by
  refine forM_error_iff.trans ?_
  simp only [checkNames_ok_iff, checkNames_error_iff, Prod.exists]
  rfl

private theorem parse_eq (data : List UInt8) :
    parse data = match Json.decodeOctets decoder data with
      | .error why => .error (.parse why.message)
      | .ok m => (checkAll m.named).map fun _ => m := by
  unfold parse
  cases Json.decodeOctets decoder data with
  | error why => rfl
  | ok m =>
    simp only [checkAll, named, List.forM_cons, List.forM_nil]
    cases checkNames Volume.kindName [] (m.volumes.map (·.name)) with
    | error e => rfl
    | ok _ =>
      cases checkNames FloatingIp.kindName [] (m.floatingIps.map (·.name)) with
      | error e => rfl
      | ok _ => cases checkNames VirtualMachine.kindName [] (m.virtualMachines.map (·.name)) <;> rfl

/-- Octets are a manifest if they decode to it and the names within each kind are given and distinct. -/
theorem parse_ok_iff {data : List UInt8} {m : Manifest} :
    parse data = .ok m ↔ Json.decodeOctets decoder data = .ok m ∧ ∀ kind ∈ m.named, Proper [] kind.2 := by
  rw [parse_eq]
  cases Json.decodeOctets decoder data with
  | error why => exact ⟨nofun, nofun⟩
  | ok own =>
    dsimp only
    rw [Except.ok.injEq]
    cases checks : checkAll own.named with
    | error e =>
      refine ⟨nofun, ?_⟩
      rintro ⟨rfl, proper⟩
      cases checks.symm.trans (checkAll_ok_iff.2 proper)
    | ok _ =>
      refine ⟨?_, fun ⟨same, _⟩ => congrArg Except.ok same⟩
      rintro ⟨⟩
      exact ⟨rfl, checkAll_ok_iff.1 checks⟩

/-- Octets that are no manifest do not decode, or it is told which name is the first to offend. -/
theorem parse_error_iff {data : List UInt8} :
    parse data = .error e ↔
      (∃ why, Json.decodeOctets decoder data = .error why ∧ e = .parse why.message) ∨
        ∃ m, Json.decodeOctets decoder data = .ok m ∧ m.Offends e := by
  rw [parse_eq]
  cases Json.decodeOctets decoder data with
  | error why =>
    constructor
    · rintro ⟨⟩
      exact .inl ⟨why, rfl, rfl⟩
    · rintro (⟨_, ⟨⟩, rfl⟩ | ⟨_, ⟨⟩, -⟩)
      rfl
  | ok own =>
    dsimp only
    constructor
    · intro told
      refine .inr ⟨own, rfl, checkAll_error_iff.1 ?_⟩
      cases checks : checkAll own.named <;> rw [checks] at told <;> cases told
      rfl
    · rintro (⟨_, ⟨⟩, -⟩ | ⟨_, ⟨⟩, offends⟩)
      rw [checkAll_error_iff.2 offends]
      rfl

end CloudKeeper.Manifest
