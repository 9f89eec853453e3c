import CloudKeeper.Object.Declared
import CloudKeeper.Proofs.Json.Decoding
import CloudKeeper.Proofs.Json.Reading
import CloudKeeper.Proofs.Time.Timestamp
/-!
Declared objects are read back from their JSON form. Of their parameters only this is asked: that their
own form can be printed exactly and is read back, where there is room for it in a snapshot.
-/
namespace CloudKeeper

open Json (Decoder Record Value)

/-- Parameters whose JSON form holds exact numbers only and is read back at the depth at which a snapshot
holds it. -/
class LawfulSpec (S : Type) [Spec S] : Prop where
  exact : ∀ spec : S, (Spec.toJson spec).Exact
  inverts : Decoder.Inverts (Spec.decoder : Decoder S) Spec.toJson 125

theorem Key.decoder_inverts : Decoder.Inverts Key.decoder Key.toJson 1 := by
  refine Record.inverts (fun _ => rfl) (fun _ => by simp) fun source key allows => ?_
  exact (Record.make_reads Key.mk)
    |>.present rfl (Decoder.string_inverts source key.kind allows)
    |>.present rfl (Decoder.string_inverts source key.name allows)

theorem Key.toJson_exact (key : Key) : key.toJson.Exact := ⟨trivial, trivial, trivial⟩

theorem ConditionType.lookup_name (type : ConditionType) :
    ConditionType.names.lookup type.name = some type := by
  cases type <;> rfl

theorem ConditionStatus.lookup_name (status : ConditionStatus) :
    ConditionStatus.names.lookup status.name = some status := by
  cases status <;> rfl

theorem Reason.lookup_name (reason : Reason) : Reason.names.lookup reason.name = some reason := by
  cases reason <;> rfl

/-- A condition is read back, with or without a message. -/
theorem Condition.decoder_inverts : Decoder.Inverts Condition.decoder Condition.toJson 1 := by
  refine Record.inverts (fun _ => rfl) (fun c => ?_) fun source c allows => ?_
  · cases c.state.message <;> simp
  · obtain ⟨⟨type, status, reason, message⟩, since⟩ := c
    have type_ := Decoder.enumeration_inverts ConditionType.lookup_name source type allows
    have status_ := Decoder.enumeration_inverts ConditionStatus.lookup_name source status allows
    have reason_ := Decoder.enumeration_inverts Reason.lookup_name source reason allows
    have since_ := Decoder.notation_inverts Time.Timestamp.read?_text source since allows
    exact (Record.make_reads _)
      |>.present rfl type_
      |>.present rfl status_
      |>.present rfl reason_
      |>.optional (by cases message <;> rfl) (fun m => Decoder.string_inverts source m allows)
        Decoder.string_given
      |>.present (by cases message <;> rfl) since_

theorem Condition.toJson_exact (c : Condition) : c.toJson.Exact := by
  obtain ⟨⟨type, status, reason, message⟩, since⟩ := c
  cases message <;> simp [toJson, Value.Exact, Value.MembersExact]

namespace Declared

variable {S : Type} [Spec S] [LawfulSpec S]

/-- An object is read back, with or without an identifier and a deletion time. -/
theorem decoder_inverts : Decoder.Inverts (decoder : Decoder (Declared S)) toJson 126 := by
  refine Record.inverts (fun _ => rfl) (fun o => ?_) fun source o allows => ?_
  · cases o.recordedId <;> cases o.deletionRequested <;> simp
  · obtain ⟨key, spec, recordedId, conditions, deletionRequested⟩ := o
    have key_ := Key.decoder_inverts.deeper (by decide) source key allows
    have spec_ := LawfulSpec.inverts source spec allows
    have conditions_ :=
      (Decoder.list_inverts Condition.decoder_inverts).deeper (by decide) source conditions allows
    have shallow : source.Allows 0 := allows.of_le (Nat.zero_le _)
    exact (Record.make_reads _)
      |>.present rfl key_
      |>.present rfl spec_
      |>.optional (by cases recordedId <;> cases deletionRequested <;> rfl)
        (fun id => Decoder.string_inverts source id shallow) Decoder.string_given
      |>.present (by cases recordedId <;> rfl) conditions_
      |>.optional (by cases recordedId <;> cases deletionRequested <;> rfl)
        (fun t => Decoder.notation_inverts Time.Timestamp.read?_text source t shallow)
        fun t => Decoder.string_given t.text

theorem toJson_exact (o : Declared S) : o.toJson.Exact := by
  obtain ⟨key, spec, recordedId, conditions, deletionRequested⟩ := o
  have conditions_ : Value.ItemsExact (conditions.map Condition.toJson) :=
    Value.itemsExact_iff.2 fun v member => by
      obtain ⟨c, -, rfl⟩ := List.mem_map.1 member
      exact c.toJson_exact
  have spec_ := LawfulSpec.exact spec
  cases recordedId <;> cases deletionRequested <;>
    simp [toJson, Value.Exact, Value.MembersExact, key.toJson_exact, spec_, conditions_]

end Declared

end CloudKeeper
