import CloudKeeper.Proofs.Object.Condition
import CloudKeeper.Time.Epoch
import Mathlib.Data.List.Nodup
/-!
What a sequence of published states leaves of the conditions of an object. The initial conditions and the
published ones are one log. Of each type the object shows the state that the log has last, since the
first condition of the run with which the log ends in that state; a state is taken up, and answered with
true, exactly if it is not the one shown. The log alone says all this, whatever was shown in between.
-/
namespace CloudKeeper

variable {S : Type} {log conditions : List Condition} {state : ConditionState} {type : ConditionType}

/-- The conditions of one type in a log, in its order. -/
def said (log : List Condition) (type : ConditionType) : List Condition :=
  log.filter fun c => c.state.type == type

/-- A history ends in conditions of one state, of which this is the earliest: those after it show its
state too, and what is right before it, if anything is, does not. -/
def BeginsLastRun (c : Condition) (history : List Condition) : Prop :=
  ∃ before run, history = before ++ c :: run ∧ (∀ later ∈ run, later.state = c.state) ∧
    ∀ earlier ∈ before.getLast?, earlier.state ≠ c.state

/-- Conditions that are what a log comes to. -/
structure Summary (log conditions : List Condition) : Prop where
  single : (conditions.map (·.state.type)).Nodup
  /-- Types stand in the order in which they first appear. -/
  order : conditions.map (·.state.type) = (log.map (·.state.type)).eraseDups
  latest : ∀ type, (conditions.find? fun c => c.state.type == type).map Condition.state =
    (said log type).getLast?.map Condition.state
  since : ∀ type, ∀ c ∈ conditions.find? fun c => c.state.type == type,
    BeginsLastRun c (said log type)

theorem said_append (log calls : List Condition) (type : ConditionType) :
    said (log ++ calls) type = said log type ++ said calls type :=
  List.filter_append log calls

theorem said_own (call : Condition) : said [call] call.state.type = [call] := by
  simp [said]

theorem said_other {call : Condition} (apart : call.state.type ≠ type) : said [call] type = [] := by
  simp [said, apart]

namespace BeginsLastRun

variable {c call : Condition} {history : List Condition}

/-- The state of the last run is the one that the history has last. -/
theorem state_eq (begins : BeginsLastRun c history) :
    history.getLast?.map Condition.state = some c.state := by
  obtain ⟨before, run, rfl, same, -⟩ := begins
  rcases List.eq_nil_or_concat run with rfl | ⟨run, last, rfl⟩
  · simp
  · rw [List.concat_eq_append, ← List.cons_append, ← List.append_assoc, List.getLast?_append,
      List.getLast?_singleton]
    exact congrArg some (same last (by simp))

/-- A condition of the same state makes the last run longer. -/
theorem extend (begins : BeginsLastRun c history) (same : call.state = c.state) :
    BeginsLastRun c (history ++ [call]) := by
  obtain ⟨before, run, rfl, all, apart⟩ := begins
  refine ⟨before, run ++ [call], by simp, fun later member => ?_, apart⟩
  rcases List.mem_append.1 member with inRun | new
  · exact all later inRun
  · rw [List.mem_singleton.1 new, same]

/-- A condition of another state than the last one begins a run. -/
theorem fresh (apart : history.getLast?.map Condition.state ≠ some call.state) :
    BeginsLastRun call (history ++ [call]) := by
  refine ⟨history, [], rfl, fun later member => absurd member List.not_mem_nil, ?_⟩
  intro earlier last same
  rw [Option.mem_def.1 last] at apart
  exact apart (congrArg some same)

end BeginsLastRun

/-- A state is taken up exactly if it is not what its type shows. -/
theorem publishChanges_iff : publishChanges state conditions = true ↔
    (conditions.find? fun c => c.state.type == state.type).map Condition.state ≠ some state := by
  induction conditions with
  | nil => simp [publishChanges]
  | cons c rest ih =>
    by_cases own : c.state.type = state.type
    · simp [publishChanges, own]
    · simpa [publishChanges, own] using ih

/-- A state that is taken up is shown since it was published. -/
theorem find_publish_changed (changes : publishChanges state conditions = true)
    (now : Time.Timestamp) :
    (publish state now conditions).find? (fun c => c.state.type == state.type) =
      some ⟨state, now⟩ := by
  induction conditions with
  | nil => simp [publish]
  | cons c rest ih =>
    simp only [publishChanges] at changes
    simp only [publish]
    split
    case isTrue own =>
      rw [if_pos own, Bool.not_eq_true', decide_eq_false_iff_not] at changes
      simp [changes]
    case isFalse apart =>
      rw [if_neg apart] at changes
      simpa [apart] using ih changes

/-- A type that is not there yet comes last. -/
theorem types_publish (state : ConditionState) (now : Time.Timestamp) (conditions : List Condition) :
    (publish state now conditions).map (·.state.type) = conditions.map (·.state.type) ++
      if state.type ∈ conditions.map (·.state.type) then [] else [state.type] := by
  induction conditions with
  | nil => simp [publish]
  | cons c rest ih =>
    simp only [publish]
    split
    case isTrue own => split <;> simp [own]
    case isFalse apart => simp [ih, Ne.symm apart]

private theorem eraseDups_of_nodup {types : List ConditionType} (single : types.Nodup) :
    types.eraseDups = types := by
  induction types with
  | nil => rfl
  | cons type rest ih =>
    obtain ⟨absent, single⟩ := List.nodup_cons.1 single
    have kept : rest.filter (fun other => !other == type) = rest :=
      List.filter_eq_self.2 fun other member => by
        have apart : other ≠ type := fun same => absent (same ▸ member)
        simp [apart]
    rw [List.eraseDups_cons, kept, ih single]

private theorem eraseDups_append_one (types : List ConditionType) (type : ConditionType) :
    (types ++ [type]).eraseDups = types.eraseDups ++ if type ∈ types.eraseDups then [] else [type] := by
  rw [List.eraseDups_append]
  by_cases there : type ∈ types
  · simp [List.removeAll, there, List.mem_eraseDups]
  · simp [List.removeAll, there, List.mem_eraseDups, List.eraseDups_cons]

namespace Summary

/-- One condition for each type is the summary of itself. -/
theorem refl (single : (conditions.map (·.state.type)).Nodup) : Summary conditions conditions := by
  have alone (type : ConditionType) : said conditions type =
      (conditions.find? fun c => c.state.type == type).toList := by
    induction conditions with
    | nil => rfl
    | cons c rest ih =>
      obtain ⟨absent, single⟩ := List.nodup_cons.1 single
      by_cases own : c.state.type = type
      · have none : said rest type = [] := List.filter_eq_nil_iff.2 fun other member same =>
          absent (List.mem_map.2 ⟨other, member, (eq_of_beq same).trans own.symm⟩)
        simpa [said, own] using none
      · simpa [said, own] using ih single
  refine ⟨single, (eraseDups_of_nodup single).symm, fun type => ?_, fun type c shown => ?_⟩
  · rw [alone]
    cases conditions.find? _ <;> rfl
  · rw [alone, Option.mem_def.1 shown]
    exact ⟨[], [], rfl, by simp, by simp⟩

/-- Whether a state is taken up is told by what the log has last of its type. -/
theorem changes_iff (summary : Summary log conditions) (state : ConditionState) :
    publishChanges state conditions = true ↔
      (said log state.type).getLast?.map Condition.state ≠ some state := by
  rw [publishChanges_iff, summary.latest]

/-- A published state belongs to the log, whether it is taken up or not. -/
theorem add (summary : Summary log conditions) (call : Condition) :
    Summary (log ++ [call]) (publish call.state call.since conditions) := by
  have types := types_publish call.state call.since conditions
  have order : (publish call.state call.since conditions).map (·.state.type) =
      ((log ++ [call]).map (·.state.type)).eraseDups := by
    rw [List.map_append, List.map_singleton, eraseDups_append_one, types, summary.order]
  refine ⟨?_, order, fun type => ?_, fun type c shown => ?_⟩
  · rw [types]
    split
    case isTrue => simpa using summary.single
    case isFalse absent =>
      exact List.nodup_append.2 ⟨summary.single, List.nodup_singleton _, fun other there new own same =>
        absent (List.mem_singleton.1 own ▸ same ▸ there)⟩
  · rw [said_append]
    by_cases own : call.state.type = type
    · subst own
      rw [find_publish_own, said_own, List.getLast?_append, List.getLast?_singleton]
      rfl
    · rw [find_publish_other own, said_other own, List.append_nil]
      exact summary.latest type
  · rw [said_append]
    by_cases own : call.state.type = type
    · subst own
      rw [said_own]
      by_cases changes : publishChanges call.state conditions = true
      case pos =>
        rw [find_publish_changed changes] at shown
        cases shown
        exact .fresh ((summary.changes_iff call.state).1 changes)
      case neg =>
        rw [publish_of_unchanged (Bool.not_eq_true _ ▸ changes)] at shown
        have begins := summary.since _ c shown
        have latest := mt (summary.changes_iff call.state).2 changes
        rw [begins.state_eq, not_not] at latest
        exact begins.extend (Option.some.inj latest).symm
    · rw [find_publish_other own] at shown
      rw [said_other own, List.append_nil]
      exact summary.since type c shown

end Summary

namespace Declared

/-- The object after some states have been published on it in order, and what each call answered. -/
def publishAll (o : Declared S) : List Condition → Declared S × List Bool
  | [] => (o, [])
  | call :: rest =>
    let later := (o.withState call.state call.since).publishAll rest
    (later.1, o.stateChanges call.state :: later.2)

/-- The calls that come first have their answers first, and leave their object to the others. -/
theorem publishAll_append (o : Declared S) (earlier later : List Condition) :
    o.publishAll (earlier ++ later) =
      (((o.publishAll earlier).1.publishAll later).1,
        (o.publishAll earlier).2 ++ ((o.publishAll earlier).1.publishAll later).2) := by
  induction earlier generalizing o with
  | nil => rfl
  | cons call rest ih => simp only [List.cons_append, publishAll, ih]

/-- Every call is answered. -/
theorem length_answers (o : Declared S) (calls : List Condition) :
    (o.publishAll calls).2.length = calls.length := by
  induction calls generalizing o with
  | nil => rfl
  | cons call rest ih => simp only [publishAll, List.length_cons, ih]

/-- Published states go on with the log. -/
theorem summary_publishAll {o : Declared S} (summary : Summary log o.conditions)
    (calls : List Condition) : Summary (log ++ calls) (o.publishAll calls).1.conditions := by
  induction calls generalizing o log with
  | nil => simpa [publishAll] using summary
  | cons call rest ih =>
    have step : Summary (log ++ [call]) (o.withState call.state call.since).conditions :=
      summary.add call
    rw [List.append_cons]
    exact ih step

/-- The last published state of a type is the one shown, since the time at which it was published first
without another in between, and exactly the calls that changed what is shown have answered so. -/
theorem conditions_summarise_the_log (o : Declared S) (calls : List Condition)
    (single : (o.conditions.map (·.state.type)).Nodup) :
    Summary (o.conditions ++ calls) (o.publishAll calls).1.conditions ∧
      (o.publishAll calls).2.length = calls.length ∧
      ∀ earlier call later, calls = earlier ++ call :: later →
        (o.publishAll calls).2[earlier.length]? = some (decide
          (((o.publishAll earlier).1.condition? call.state.type).map Condition.state ≠
            some call.state)) := by
  refine ⟨summary_publishAll (.refl single) calls, o.length_answers calls, ?_⟩
  rintro earlier call later rfl
  rw [publishAll_append, ← o.length_answers earlier, List.getElem?_append_right (Nat.le_refl _),
    Nat.sub_self]
  refine congrArg some (Bool.eq_iff_iff.2 ?_)
  rw [decide_eq_true_iff]
  exact publishChanges_iff

section

private def noon : Time.Timestamp := (Time.Timestamp.ofNanos? 43200000000000).getD .epoch

private def evening : Time.Timestamp := (Time.Timestamp.ofNanos? 64800000000000).getD .epoch

/-- A volume that has been unavailable since the start of 1970. -/
private def stale : Declared String where
  key := ⟨"volume", "data"⟩
  spec := "ten gibibytes"
  conditions := [⟨.unavailable, .epoch⟩]

/-- What two cycles publish on it. -/
private def twoCycles : List Condition :=
  [⟨.available, noon⟩, ⟨.reconcileSuccess, noon⟩, ⟨.available, evening⟩,
    ⟨.reconcileError "timeout", evening⟩]

theorem conditions_summarised_volume :
    (stale.conditions.map (·.state.type)).Nodup ∧
      Summary (stale.conditions ++ twoCycles)
        [⟨.available, noon⟩, ⟨.reconcileError "timeout", evening⟩] ∧
      (stale.publishAll twoCycles).2 = [true, true, false, true] := by
  have single : (stale.conditions.map (·.state.type)).Nodup := by decide
  exact ⟨single, (stale.conditions_summarise_the_log twoCycles single).1, rfl⟩

end

end Declared

end CloudKeeper
