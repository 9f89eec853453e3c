import CloudKeeper.CommandLine
import CloudKeeper.Kind.Volume
import CloudKeeper.Proofs.Json.Reading
import CloudKeeper.Proofs.Manifest.Names
import Mathlib.Tactic.IntervalCases
/-!
Which ownership tags are equal. A tag joins the name of a deployment, the kind and the name of an object with
slashes, which the names may have themselves. So a tag does not tell where the name of the deployment ends: a
deployment whose name goes on with what an object's name begins with has the same tag for the rest of it.
-/
namespace CloudKeeper

open Json (Value)

/-! ## Which names there are -/

/-- Any text can be the name of a deployment. -/
theorem CommandLine.takes_every_deployment (deployment : String) :
    ∃ args a, CommandLine.parse args [] = .ok a ∧ a.config.deployment = deployment := by
  have text : ("--instance=" ++ deployment).toList =
      '-' :: '-' :: 'i' :: 'n' :: 's' :: 't' :: 'a' :: 'n' :: 'c' :: 'e' :: '=' :: deployment.toList := by
    simp [String.toList_append]
  have same : String.ofList deployment.toList = deployment := by simp
  let before : Reading := { given := [(.credentials, "c"), (.manifest, "m")] }
  have option : before.step ("--instance=" ++ deployment) =
      .ok { given := (.deployment, deployment) :: before.given } := by
    unfold Reading.step
    rw [text]
    exact congrArg (fun s => before.long "instance" (some s)) same
  have read : ["--manifest=m", "--credentials=c", "--instance=" ++ deployment].foldlM Reading.step {} =
      (.ok { given := (.deployment, deployment) :: before.given } : Except Stop Reading) := by
    rw [← option]
    exact bind_pure (before.step _)
  have taken : parse ["--manifest=m", "--credentials=c", "--instance=" ++ deployment] [] =
      arguments ((.deployment, deployment) :: before.given) := by
    rw [parse, read]
    rfl
  exact ⟨_, _, taken, rfl⟩

namespace Manifest

/-- A manifest that declares one volume. -/
private def declaring (name : String) : Manifest :=
  { volumes := [⟨name, { name := "data", projectId := "p", size := 1, volumeType := "ssd" }⟩] }

private def declaration (name : String) : Value :=
  .object
    [("volumes", .array
      [.object
        [("name", .string name),
          ("spec", .object
            [("name", .string "data"), ("projectId", .string "p"), ("size", .nat 1), ("volumeType", .string "ssd")])]])]

/-- Any text but the empty one can be the name of an object. -/
theorem takes_every_name {name : String} (given : name ≠ "") :
    ∃ data m, parse data = .ok m ∧ name ∈ m.volumes.map (·.name) := by
  have one : (Value.nat 1).Exact := Value.exact_nat (by decide)
  have whole : (declaration name).Exact := by
    simp [declaration, Value.Exact, Value.MembersExact, Value.ItemsExact, one]
  have decoded : Json.decodeOctets decoder (Text.Utf8.ofString (declaration name).toPrettyText) =
      .ok (declaring name) := by
    rw [Json.decodeOctets, Json.Text.ofOctets_toPrettyText _ whole]
    rfl
  refine ⟨_, declaring name, parse_ok_iff.2 ⟨decoded, ?_⟩, List.mem_cons_self⟩
  simp only [named, declaring, List.map_cons, List.map_nil, List.forall_mem_cons]
  refine ⟨proper_cons_iff.2 ⟨given, List.not_mem_nil, .nil _⟩, .nil _, .nil _, fun kind member => ?_⟩
  exact absurd member List.not_mem_nil
end Manifest

namespace Volume

/-! ## Equal tags -/

/-- What stands between the names of the deployment and of the object. -/
private abbrev separator : List Char := ['/', 'v', 'o', 'l', 'u', 'm', 'e', '/']

/-- The name of one deployment goes on with what the name of an object of the other begins with. -/
inductive Shifted (deployment name deployment' name' : String) : Prop
  | overlapping (goesOn : deployment' = deployment ++ "/volume") (begins : name = "volume/" ++ name')
  | apart (middle : String) (goesOn : deployment' = deployment ++ "/volume/" ++ middle)
    (begins : name = middle ++ "/volume/" ++ name')

private theorem tag_toList (deployment name : String) :
    (tag deployment ⟨kindName, name⟩).toList = deployment.toList ++ (separator ++ name.toList) := by
  simp [tag, kindName, String.toList_append]

/-- The separator overlaps with itself in its slash only. -/
private theorem separator_shift {before n n' : List Char} (same : separator ++ n = before ++ (separator ++ n')) :
    (before = [] ∧ n = n') ∨ (before ++ ['/'] = separator ∧ '/' :: n = separator ++ n') ∨
      ∃ middle, before = separator ++ middle ∧ n = middle ++ (separator ++ n') := by
  rcases List.append_eq_append_iff.1 same with ⟨middle, begins, rest⟩ | ⟨left, split, rest⟩
  · exact .inr (.inr ⟨middle, begins, rest⟩)
  · have front : before = separator.take before.length := by rw [split, List.take_left]
    have back : left = separator.drop before.length := by rw [split, List.drop_left]
    have short : before.length ≤ 8 := by
      have lengths := congrArg List.length split
      simp only [List.length_append, List.length_cons, List.length_nil] at lengths
      omega
    generalize before.length = k at front back short
    subst front back
    clear same split
    -- where the second separator begins within the first one, only its first character fits, at the last slash
    interval_cases k <;> simp_all

variable {d d' n n' : String}

theorem Shifted.tag_eq (shifted : Shifted d n d' n') : tag d ⟨kindName, n⟩ = tag d' ⟨kindName, n'⟩ := by
  rw [← String.toList_inj, tag_toList, tag_toList]
  cases shifted with
  | overlapping goesOn begins => simp [goesOn, begins, String.toList_append]
  | apart middle goesOn begins => simp [goesOn, begins, String.toList_append]

/-- Names that a slash is needed to shift are not shifted without one. -/
theorem Shifted.slash (shifted : Shifted d n d' n') : '/' ∈ d'.toList ∧ '/' ∈ n.toList := by
  cases shifted with
  | overlapping goesOn begins => simp [goesOn, begins, String.toList_append]
  | apart middle goesOn begins => simp [goesOn, begins, String.toList_append]

private theorem shifted_of_tag_eq {before : List Char} (goesOn : d'.toList = d.toList ++ before)
    (same : separator ++ n.toList = before ++ (separator ++ n'.toList)) : (d = d' ∧ n = n') ∨ Shifted d n d' n' := by
  rcases separator_shift same with ⟨rfl, names⟩ | ⟨split, names⟩ | ⟨middle, rfl, names⟩
  · rw [List.append_nil] at goesOn
    exact .inl ⟨String.toList_inj.1 goesOn.symm, String.toList_inj.1 names⟩
  · have word : before = "/volume".toList := List.append_cancel_right split
    refine .inr (.overlapping (String.toList_inj.1 ?_) (String.toList_inj.1 ?_))
    · rw [String.toList_append, ← word, goesOn]
    · rw [String.toList_append]
      exact (List.cons.inj names).2
  · refine .inr (.apart (String.ofList middle) (String.toList_inj.1 ?_) (String.toList_inj.1 ?_))
    · simpa [String.toList_append] using goesOn
    · simpa [String.toList_append] using names

/-- Tags of volumes are equal for the same deployment and the same object, and for names that are shifted. -/
theorem tag_eq_iff :
    tag d ⟨kindName, n⟩ = tag d' ⟨kindName, n'⟩ ↔
      (d = d' ∧ n = n') ∨ Shifted d n d' n' ∨ Shifted d' n' d n := by
  constructor
  · intro same
    rw [← String.toList_inj, tag_toList, tag_toList] at same
    rcases List.append_eq_append_iff.1 same with ⟨before, goesOn, rest⟩ | ⟨before, goesOn, rest⟩
    · exact (shifted_of_tag_eq goesOn rest).imp_right .inl
    · refine (shifted_of_tag_eq goesOn rest).imp (fun ⟨own, name⟩ => ⟨own.symm, name.symm⟩) .inr
  · rintro (⟨rfl, rfl⟩ | shifted | shifted)
    · rfl
    · exact shifted.tag_eq
    · exact shifted.tag_eq.symm

end Volume

end CloudKeeper
