import CloudKeeper.Kind.Family
import CloudKeeper.Proofs.Cycle.Healing
import CloudKeeper.Proofs.Cycle.Ownership
import CloudKeeper.Proofs.Cycle.Paths
/-!
Cycles that ask for the next one at once. Such a cycle has recorded an identifier or has taken one back, and
each of the two leads to where the other one starts. They still do not go on in turns, because an identifier
that could not be recorded is used up by the first of them: only a service that lists a resource and then
says that it is gone can keep an object from ever waiting.
-/
namespace CloudKeeper

variable {S : Type}

/-- The service says that a resource is gone. -/
def RemoteCall.tellsGone : (c : RemoteCall S) → c.Reply → Bool
  | .observe _ _, some (.ok .absent) | .observe _ _, some (.error .notFound) => true
  | _, _ => false

/-- Among deeds, the latest first, the service contradicts itself: it finds a resource, and answers the very
next call, which is to look at that resource, that it is gone. -/
def Deed.Contradicted (past : List (Deed S)) : Prop :=
  ∃ later between earlier o o' id reply,
    past = later ++ .called (.observe o' id) reply :: between ++
      .called (.lookup o) (some (.ok (some id))) :: earlier ∧
    (RemoteCall.observe o' id).tellsGone reply = true ∧ Deed.operations between = []

/-- The deeds of a cycle, the latest first, that asks for the next one at once, with the identifiers that are
kept before it and after it. -/
inductive Hasty : Custody → List (Deed S) → Custody → Prop
  /-- The recorded resource is gone. -/
  | recreate {aside : Option String} (later : List (Deed S)) {earlier : List (Deed S)} {o : Declared S} {id : String}
    {reply : (RemoteCall.observe o id).Reply} (gone : (RemoteCall.observe o id).tellsGone reply = true)
    (first : Deed.operations earlier = []) (last : Deed.operations later = []) :
    Hasty ⟨some id, aside⟩ (later ++ .called (.observe o id) reply :: earlier) ⟨none, aside⟩
  /-- The identifier that could not be recorded has been. -/
  | recalled {own : List (Deed S)} {id : String} (silent : Deed.operations own = []) :
    Hasty ⟨none, some id⟩ own ⟨some id, none⟩
  /-- The service finds a resource. -/
  | found (later : List (Deed S)) {earlier : List (Deed S)} {o : Declared S} {id : String}
    (last : Deed.operations later = []) :
    Hasty ⟨none, none⟩ (later ++ .called (.lookup o) (some (.ok (some id))) :: earlier) ⟨some id, none⟩

/-- A result that does not ask for the next cycle at once. -/
def CycleResult.IsPatient (result : CycleResult) : Prop :=
  ∀ outcome, result = .ok outcome → outcome.requeue ≠ .immediately

/-- What is said of a cycle that began with some identifiers: it is patient, or it is told what it did. -/
def CycleResult.Explained (before : Custody) (after : Custody) (own : List (Deed S))
    (result : CycleResult) : Prop :=
  result.IsPatient ∨ Hasty before own after

/-- A cycle that fails is patient. -/
private theorem explained_error {before : Custody} (after : Custody) (own : List (Deed S))
    (e : ReconcileError) : CycleResult.Explained before after own (.error e) :=
  .inl nofun

namespace Reconcile

variable {kind : Kind S} {o : Declared S} {before h : Custody} {own past : List (Deed S)} {id : String}

/-! ### Cycles that wait -/

private theorem fail_patient (e : ReconcileError) :
    (fail e : Cycle S CycleResult).Ends (fun _ => CycleResult.IsPatient) past := nofun

private theorem finish_patient {outcome : Outcome} (waits : outcome.requeue ≠ .immediately) :
    (finish outcome : Cycle S CycleResult).Ends (fun _ => CycleResult.IsPatient) past := by
  rintro _ ⟨⟩
  exact waits

private theorem release_patient :
    (release : Cycle S CycleResult).Ends (fun _ => CycleResult.IsPatient) past := by
  rintro (_ | _)
  · exact fail_patient _
  · exact fun _ => finish_patient nofun

private theorem delete_patient :
    (delete o id).Ends (fun _ => CycleResult.IsPatient) past := by
  rintro _ (_ | e | _)
  · exact fail_patient _
  · cases e with
    | notFound => exact release_patient
    | _ => exact fail_patient _
  · exact release_patient

/-- A cycle that carries out a requested deletion never asks for the next one at once. -/
private theorem finalize_patient : (finalize kind o).Ends (fun _ => CycleResult.IsPatient) past := by
  unfold finalize
  split
  · exact delete_patient
  · rintro (_ | id)
    · rintro (_ | _ | _ | id)
      · exact fail_patient _
      · exact fail_patient _
      · simp only [releaseUnknown]
        split
        · exact fail_patient _
        · exact release_patient
      · exact delete_patient
    · exact delete_patient

private theorem validated_patient {spec : S} {next : Cycle S CycleResult}
    (goesOn : next.Ends (fun _ => CycleResult.IsPatient) past) :
    (validated kind spec next).Ends (fun _ => CycleResult.IsPatient) past := by
  unfold validated
  split
  · exact goesOn
  · exact fail_patient _

/-- Nor does one that has found its resource. -/
private theorem found_patient {r : RemoteResource} :
    (found kind o r).Ends (fun _ => CycleResult.IsPatient) past := by
  unfold found
  split
  · exact finish_patient nofun
  · exact fun _ _ => finish_patient nofun
  · split
    · exact fun _ _ => finish_patient nofun
    · refine validated_patient ?_
      rintro (_ | _ | _)
      · exact fail_patient _
      · exact fail_patient _
      · exact fun _ => finish_patient nofun

/-! ### Cycles that do not -/

/-- A cycle that is patient on every path is explained. -/
private theorem explained_of_patient {c : Cycle S CycleResult}
    (patient : c.Ends (fun _ => CycleResult.IsPatient) []) :
    c.Leads (CycleResult.Explained before) h own :=
  patient.leads fun _ _ _ => .inl

/-- An identifier is recorded, or the cycle fails. -/
private theorem record_explained {next : Cycle S CycleResult}
    (goesOn : next.Leads (CycleResult.Explained before) ⟨some id, none⟩
      (.acted .discard () :: .acted (.recordId id) (.ok ()) :: own)) :
    (record id next).Leads (CycleResult.Explained before) h own := by
  rintro (e | _) h' after
  · cases e with
    | conflict => exact explained_error ..
    | notFound => exact fun _ _ _ => explained_error ..
    | persist => exact fun _ _ _ => explained_error ..
  · cases after
    rintro _ h' after
    cases after
    exact goesOn

private theorem create_explained (unrecorded : before.recorded = none)
    (silent : Deed.operations own = []) :
    (create kind o).Leads (CycleResult.Explained before) before own := by
  rintro remembered h' ⟨rfl, rfl⟩
  obtain ⟨_, aside⟩ := h'
  cases unrecorded
  cases aside with
  | some id => exact record_explained (.inr (.recalled silent))
  | none =>
    dsimp only
    unfold validated
    split
    case h_2 => exact explained_error ..
    case h_1 =>
      rintro (_ | _ | _ | id)
      · exact explained_error ..
      · exact explained_error ..
      · rintro (_ | _ | id)
        · exact explained_error ..
        · exact explained_error ..
        · exact record_explained (explained_of_patient fun _ _ => finish_patient nofun)
      · refine record_explained (.inr ?_)
        exact .found [.acted .discard (), .acted (.recordId id) (.ok ())] rfl

private theorem absent_explained {reply : (RemoteCall.observe o id).Reply}
    (recorded : before.recorded = some id) (gone : (RemoteCall.observe o id).tellsGone reply = true)
    (silent : Deed.operations own = []) :
    (absent kind id).Leads (CycleResult.Explained before) before
      (.called (.observe o id) reply :: own) := by
  obtain ⟨_, aside⟩ := before
  cases recorded
  unfold absent
  split
  case h_1 => exact explained_error ..
  case h_2 =>
    rintro (_ | _) h' after
    · exact explained_error ..
    · cases after
      rintro published h' after
      cases after
      refine .inr ?_
      exact .recreate [.acted (.publish _) published, .acted .clearId (.ok ())] gone silent rfl

private theorem observe_explained (recorded : before.recorded = some id)
    (silent : Deed.operations own = []) :
    (observe kind o id).Leads (CycleResult.Explained before) before own := by
  rintro (_ | e | _ | r)
  · exact explained_error ..
  · cases e with
    | notFound => exact absent_explained recorded rfl silent
    | _ => exact explained_error ..
  · exact absent_explained recorded rfl silent
  · exact explained_of_patient found_patient

/-- A whole cycle is patient or explained. -/
theorem reconcile_explained (kind : Kind S) (before : Custody) :
    (reconcile kind).Leads (CycleResult.Explained before) before [] := by
  refine .bind (?_ : Cycle.Leads (CycleResult.Explained before) _ _ _) fun h own result explained => ?_
  · rintro declared h' ⟨rfl, recorded⟩
    cases declared with
    | none => exact explained_of_patient (finish_patient nofun)
    | some o =>
      dsimp only
      split
      · exact explained_of_patient finalize_patient
      · cases known : o.externalId with
        | none => exact create_explained (recorded.trans known) rfl
        | some id => exact observe_explained (recorded.trans known) rfl
  · unfold noted
    split
    · exact explained
    · exact explained
    · exact explained
    · exact fun _ _ _ => explained_error ..

end Reconcile

/-! ## Four cycles -/

theorem Deed.operations_append (later earlier : List (Deed S)) :
    Deed.operations (later ++ earlier) = Deed.operations later ++ Deed.operations earlier := by
  induction later with
  | nil => rfl
  | cons deed later ih => cases deed <;> simp [Deed.operations, ih]

/-- What the service has once said against itself stays said. -/
theorem Deed.Contradicted.within {own : List (Deed S)} (contradicted : Deed.Contradicted own)
    (more past : List (Deed S)) : Deed.Contradicted (more ++ own ++ past) := by
  obtain ⟨later, between, earlier, o, o', id, reply, rfl, gone, silent⟩ := contradicted
  refine ⟨more ++ later, between, earlier ++ past, o, o', id, reply, ?_, gone, silent⟩
  simp

namespace Hasty

variable {h h₁ h₂ h₃ h₄ : Custody} {own₁ own₂ own₃ own₄ : List (Deed S)} {id : String}

/-- A cycle that finds a recorded resource gone follows one that has found it listed. -/
private theorem contradicts (found : Hasty ⟨none, none⟩ own₁ h₁) (next : Hasty h₁ own₂ h₂) :
    Deed.Contradicted (own₂ ++ own₁) := by
  cases found with
  | @found later earlier o id last =>
    cases next with
    | @recreate _ later' earlier' o' _ reply gone first =>
      refine ⟨later', earlier' ++ later, earlier, o, o', id, reply, by simp, gone, ?_⟩
      rw [Deed.operations_append, first, last]
      rfl

/-- Once a resource is recorded with nothing else remembered, and turns out to be gone, nothing is kept. -/
private theorem empties (hasty : Hasty ⟨some id, none⟩ own₁ h₁) : h₁ = ⟨none, none⟩ := by
  cases hasty
  rfl

/-- Four cycles in a row that do not wait contain a contradiction of the service. -/
theorem four (single : h.Single) (first : Hasty h own₁ h₁) (second : Hasty h₁ own₂ h₂)
    (third : Hasty h₂ own₃ h₃) (fourth : Hasty h₃ own₄ h₄) :
    Deed.Contradicted (own₄ ++ (own₃ ++ (own₂ ++ own₁))) := by
  obtain ⟨recorded, aside⟩ := h
  cases recorded with
  | some id =>
    cases single.resolve_left nofun
    cases first.empties
    have contradicted := (second.contradicts third).within own₄ own₁
    simpa using contradicted
  | none =>
    cases aside with
    | none =>
      have contradicted := (first.contradicts second).within (own₄ ++ own₃) []
      simpa using contradicted
    | some id =>
      cases first with
      | recalled =>
        cases second.empties
        have contradicted := (third.contradicts fourth).within [] (own₂ ++ own₁)
        simpa using contradicted

end Hasty

namespace Surroundings

variable [Spec S]

/-- A cycle whose result asks for the next one at once has done one of three things. -/
theorem run_hasty (s : Surroundings S) (kind : Kind S) (key : Key) (e : Engine S) (past : List (Deed S))
    {outcome : Outcome} (ends : (s.run key (reconcile kind) e past).result = .ok outcome)
    (atOnce : outcome.requeue = .immediately) :
    let ended := s.run key (reconcile kind) e past
    ∃ own, ended.past = own ++ past ∧ Hasty (e.custody key) own (ended.engine.custody key) := by
  obtain ⟨own, split, explained⟩ := (Reconcile.reconcile_explained kind (e.custody key)).run s past
  refine ⟨own, split, explained.resolve_left fun patient => ?_⟩
  exact patient outcome ends atOnce

end Surroundings

/-! ## A stale listing -/

/-- A service that lists a resource which it says is gone whenever it is asked for it. -/
structure Stale (s : Surroundings S) (id : String) : Prop where
  running : ∀ past, s.stopped past = false
  written : ∀ past, s.write past = .written
  named : id ≠ ""
  lists : ∀ past o, s.answer past (.lookup o) = some (.ok (some id))
  gone : ∀ past o, s.answer past (.observe o id) = some (.ok .absent)

namespace Stale

variable [Spec S] {s : Surroundings S} {kind : Kind S} {id : String} {key : Key} {e : Engine S} {spec : S}

omit [Spec S] in
private theorem replies (stale : Stale s id) (past : List (Deed S)) (c : RemoteCall S) :
    s.reply past c = s.answer past c := by
  simp only [Surroundings.reply, stale.running, Bool.false_eq_true, if_false]

/-- The listed resource is recorded. -/
private theorem recovers (stale : Stale s id) (valid : kind.validate spec = .ok ())
    (wants : e.Wants key spec ⟨none, none⟩) (past : List (Deed S)) :
    let ended := s.run key (reconcile kind) e past
    ended.result = .ok .recovered ∧ ended.engine.Wants key spec ⟨some id, none⟩ := by
  obtain ⟨o, found, rfl, wanted, own⟩ := wants.declared
  rw [s.run_unrecorded kind found wanted own]
  simp only [Reconcile.create, Cycle.bind, Surroundings.run, wants.recall, Reconcile.validated, valid,
    Reconcile.calling, stale.replies, stale.lists]
  obtain ⟨after, held, records⟩ := s.run_record stale.written wants rfl stale.named
    (Reconcile.finish .recovered) _
  rw [records]
  exact ⟨rfl, held⟩

/-- It is then found to be gone, and its identifier is taken back. -/
private theorem recreates (stale : Stale s id) (recreates : kind.policy.onAbsent = .recreate)
    (wants : e.Wants key spec ⟨some id, none⟩) (past : List (Deed S)) :
    let ended := s.run key (reconcile kind) e past
    ended.result = .ok .recreate ∧ ended.engine.Wants key spec ⟨none, none⟩ := by
  obtain ⟨o, found, rfl, wanted, own⟩ := wants.declared
  rw [s.run_recorded kind found wanted own]
  obtain ⟨after, held, published, forgets⟩ := s.run_absent stale.written recreates wants
    (.called (.observe o id) (some (.ok .absent)) :: .acted .read (some o) :: past)
  simp only [Reconcile.observe, Cycle.bind, Surroundings.run, stale.replies, stale.gone]
  rw [forgets]
  exact ⟨rfl, held⟩

/-- The two outcomes that ask for the next cycle at once follow each other for ever. -/
theorem never_waits (stale : Stale s id) (recreates : kind.policy.onAbsent = .recreate)
    (valid : kind.validate spec = .ok ()) (n : Nat) {h : Custody} (wants : e.Wants key spec h)
    (kept : h = ⟨none, none⟩ ∨ h = ⟨some id, none⟩) (past : List (Deed S)) :
    ∃ outcome, (s.cycleAfter kind key n e past).result = .ok outcome ∧
      outcome.requeue = .immediately := by
  induction n generalizing e h past with
  | zero =>
    rcases kept with rfl | rfl
    · exact ⟨.recovered, (stale.recovers valid wants past).1, rfl⟩
    · exact ⟨.recreate, (stale.recreates recreates wants past).1, rfl⟩
  | succ n ih =>
    rcases kept with rfl | rfl
    · exact ih (stale.recovers valid wants past).2 (.inr rfl) _
    · exact ih (stale.recreates recreates wants past).2 (.inl rfl) _

end Stale

namespace Works

variable [Spec S]

/-- Wherever a run of cycles and authors has led, whatever the service answers and however writes turn out,
among four cycles in a row that all end well and that no author interferes with, one asks for the next after
the poll interval or forgets the key, or else the service has contradicted itself during the four: it has
found a resource, and has answered the very next call, which was to look at that resource, that it is gone. -/
theorem four_cycles_wait_or_contradict (kind : Kind S) (store : Store S) (moves : List (Move S))
    (key : Key) (s : Surroundings S) (past : List (Deed S)) (outcome : Nat → Outcome) :
    let e := (run kind { engine := { store } } moves).engine
    (run kind { engine := { store } } moves).AtRest key →
    (∀ i < 4, (s.cycleAfter kind key i e past).result = .ok (outcome i)) →
    (∃ i < 4, (outcome i).requeue = .poll ∨ (outcome i).requeue = .forget) ∨
      ∃ own, (s.cycleAfter kind key 3 e past).past = own ++ past ∧ Deed.Contradicted own := by
  intro e rests ends
  refine Classical.or_iff_not_imp_left.2 fun restless => ?_
  have atOnce : ∀ i < 4, (outcome i).requeue = .immediately := by
    intro i four
    cases asks : (outcome i).requeue with
    | immediately => rfl
    | poll => exact absurd ⟨i, four, .inl asks⟩ restless
    | forget => exact absurd ⟨i, four, .inr asks⟩ restless
  have hasty := fun i four e past ends => s.run_hasty kind key e past ends (atOnce i four)
  obtain ⟨own₁, split₁, first⟩ := hasty 0 (by decide) e past (ends 0 (by decide))
  obtain ⟨own₂, split₂, second⟩ := hasty 1 (by decide) _ _ (ends 1 (by decide))
  obtain ⟨own₃, split₃, third⟩ := hasty 2 (by decide) _ _ (ends 2 (by decide))
  obtain ⟨own₄, split₄, fourth⟩ := hasty 3 (by decide) _ _ (ends 3 (by decide))
  refine ⟨own₄ ++ (own₃ ++ (own₂ ++ own₁)), ?_, Hasty.four ?_ first second third fourth⟩
  · refine split₄.trans ?_
    rw [split₃, split₂, split₁]
    simp
  · exact single_of_rest kind store moves rests

/-- An address is created, and is then still changing whenever it is looked at. -/
theorem four_cycles_wait_or_contradict_address :
    let kind := FloatingIp.service.toKind
    let key : Key := ⟨"floating_ip", "web"⟩
    let declare : Move FloatingIpSpec :=
      .apply key { projectId := "p", isp := "BGP", bandwidth := 1 } .written
    let s : Surroundings FloatingIpSpec := .undisturbed (fun _ => .epoch) (fun _ => .written) fun _ => fun
      | .lookup _ => some (.ok none)
      | .create _ => some (.ok "ip-1")
      | .observe _ id => some (.ok (.present { id, state := "updating" }))
      | .update .. | .delete .. => none
    let w := run kind {} [declare]
    let outcome : Nat → Outcome
      | 0 => .created
      | _ => .pending
    let e := w.engine
    (w.AtRest key ∧ ∀ i < 4, (s.cycleAfter kind key i e []).result = .ok (outcome i)) ∧
      ((∃ i < 4, (outcome i).requeue = .poll ∨ (outcome i).requeue = .forget) ∨
        ∃ own, (s.cycleAfter kind key 3 e []).past = own ++ [] ∧ Deed.Contradicted own) := by
  intro kind key declare s w outcome e
  have rests : w.AtRest key := nofun
  have ends : ∀ i < 4, (s.cycleAfter kind key i e []).result = .ok (outcome i) := by decide
  exact ⟨⟨rests, ends⟩, four_cycles_wait_or_contradict kind {} [declare] key s [] outcome rests ends⟩

/-- An address whose listing is stale: it is recorded and found to be gone in turns for ever, and no cycle
ever waits. -/
theorem stale_address_never_waits :
    let kind := FloatingIp.service.toKind
    let key : Key := ⟨"floating_ip", "web"⟩
    let spec : FloatingIpSpec := { projectId := "p", isp := "BGP", bandwidth := 1 }
    let s : Surroundings FloatingIpSpec := .undisturbed (fun _ => .epoch) (fun _ => .written) fun _ => fun
      | .lookup _ => some (.ok (some "ip-1"))
      | .observe .. => some (.ok .absent)
      | .create _ | .update .. | .delete .. => none
    let w := run kind {} [.apply key spec .written]
    (w.AtRest key ∧ kind.policy.onAbsent = .recreate) ∧
      ∀ n, ∃ outcome, (s.cycleAfter kind key n w.engine []).result = .ok outcome ∧
        outcome.requeue = .immediately := by
  intro kind key spec s w
  have stale : Stale s "ip-1" :=
    ⟨fun _ => rfl, fun _ => rfl, by decide, fun _ _ => rfl, fun _ _ => rfl⟩
  have wants : w.engine.Wants key spec ⟨none, none⟩ := ⟨by decide, by decide⟩
  have valid : kind.validate spec = .ok () := by cbv
  have rests : w.AtRest key := by
    intro cycle runs
    cases runs
  exact ⟨⟨rests, rfl⟩, fun n => stale.never_waits rfl valid n wants (.inl rfl) []⟩

end Works

end CloudKeeper
