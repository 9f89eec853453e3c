import CloudKeeper.Kind.Family
import CloudKeeper.Proofs.Object.Format
/-!
The declared parameters of every kind are read back from their JSON form, numbers of 64 bits, optional
members, lists and maps included.
-/
namespace CloudKeeper

open Json (Decoder Record Value)

theorem FloatingIpSpec.decoder_inverts :
    Decoder.Inverts FloatingIpSpec.decoder FloatingIpSpec.toJson 1 := by
  refine Record.inverts (fun _ => rfl) (fun _ => by simp) fun source s allows => ?_
  exact (Record.make_reads FloatingIpSpec.mk)
    |>.present rfl (Decoder.string_inverts source s.name allows)
    |>.present rfl (Decoder.string_inverts source s.projectId allows)
    |>.present rfl (Decoder.string_inverts source s.cellId allows)
    |>.present rfl (Decoder.string_inverts source s.isp allows)
    |>.present rfl (Decoder.string_inverts source s.floatingNetworkId allows)
    |>.present rfl (Decoder.string_inverts source s.routeId allows)
    |>.present rfl (Decoder.string_inverts source s.description allows)
    |>.present rfl (Decoder.uint64_inverts source s.bandwidth allows)

theorem FloatingIpSpec.toJson_exact (s : FloatingIpSpec) : s.toJson.Exact := by
  simp [toJson, Value.Exact, Value.MembersExact, Value.exact_nat s.bandwidth.toNat_lt_size]

instance : LawfulSpec FloatingIpSpec where
  exact := FloatingIpSpec.toJson_exact
  inverts := FloatingIpSpec.decoder_inverts.deeper (by decide)

/-- A volume's parameters are read back, with or without a zone and hosts. -/
theorem VolumeSpec.decoder_inverts : Decoder.Inverts VolumeSpec.decoder VolumeSpec.toJson 2 := by
  refine Record.inverts (fun _ => rfl) (fun s => ?_) fun source s allows => ?_
  · cases s.availabilityZone <;> cases s.sameHost <;> simp
  · obtain ⟨name, projectId, size, volumeType, description, multiattach, cellId, zone, hosts⟩ := s
    have shallow : source.Allows 0 := allows.of_le (Nat.zero_le _)
    have hosts_ := Decoder.list_inverts Decoder.string_inverts source hosts (allows.of_le (by decide))
    exact (Record.make_reads VolumeSpec.mk)
      |>.present rfl (Decoder.string_inverts source name shallow)
      |>.present rfl (Decoder.string_inverts source projectId shallow)
      |>.present rfl (Decoder.uint64_inverts source size shallow)
      |>.present rfl (Decoder.string_inverts source volumeType shallow)
      |>.present rfl (Decoder.string_inverts source description shallow)
      |>.present rfl (Decoder.bool_inverts source multiattach shallow)
      |>.present rfl (Decoder.string_inverts source cellId shallow)
      |>.optional (by cases zone <;> cases hosts <;> rfl)
        (fun z => Decoder.string_inverts source z shallow) Decoder.string_given
      |>.listed (by cases zone <;> cases hosts <;> rfl) hosts_

theorem strings_exact (strings : List String) : Value.ItemsExact (strings.map .string) :=
  Value.itemsExact_iff.2 fun v member => by
    obtain ⟨s, -, rfl⟩ := List.mem_map.1 member
    trivial

theorem VolumeSpec.toJson_exact (s : VolumeSpec) : s.toJson.Exact := by
  obtain ⟨name, projectId, size, volumeType, description, multiattach, cellId, zone, hosts⟩ := s
  cases zone <;> cases hosts <;>
    simp [toJson, Value.Exact, Value.MembersExact, Value.ItemsExact, Value.exact_nat size.toNat_lt_size,
      strings_exact]

instance : LawfulSpec VolumeSpec where
  exact := VolumeSpec.toJson_exact
  inverts := VolumeSpec.decoder_inverts.deeper (by decide)

theorem BlockDevice.decoder_inverts : Decoder.Inverts BlockDevice.decoder BlockDevice.toJson 1 := by
  refine Record.inverts (fun _ => rfl) (fun _ => by simp) fun source d allows => ?_
  exact (Record.make_reads BlockDevice.mk)
    |>.present rfl (Decoder.int64_inverts source d.bootIndex allows)
    |>.present rfl (Decoder.bool_inverts source d.deleteOnTermination allows)
    |>.present rfl (Decoder.string_inverts source d.deviceName allows)
    |>.present rfl (Decoder.string_inverts source d.sourceType allows)
    |>.present rfl (Decoder.string_inverts source d.destinationType allows)
    |>.present rfl (Decoder.uint64_inverts source d.volumeSize allows)
    |>.present rfl (Decoder.string_inverts source d.volumeType allows)
    |>.present rfl (Decoder.string_inverts source d.uuid allows)

theorem BlockDevice.toJson_exact (d : BlockDevice) : d.toJson.Exact := by
  simp [toJson, Value.Exact, Value.MembersExact, Value.exact_nat d.volumeSize.toNat_lt_size,
    Value.exact_int64 d.bootIndex]

theorem VirtualMachineSpec.decoder_inverts :
    Decoder.Inverts VirtualMachineSpec.decoder VirtualMachineSpec.toJson 3 := by
  refine Record.inverts (fun _ => rfl) (fun _ => by simp) fun source s allows => ?_
  have shallow : source.Allows 0 := allows.of_le (Nat.zero_le _)
  have devices := Decoder.list_inverts BlockDevice.decoder_inverts source s.blockDevices allows
  exact (Record.make_reads VirtualMachineSpec.mk)
    |>.present rfl (Decoder.string_inverts source s.name shallow)
    |>.present rfl (Decoder.string_inverts source s.projectId shallow)
    |>.present rfl (Decoder.string_inverts source s.cellId shallow)
    |>.present rfl (Decoder.string_inverts source s.imageRef shallow)
    |>.present rfl (Decoder.string_inverts source s.flavorRef shallow)
    |>.present rfl (Decoder.string_inverts source s.availabilityZone shallow)
    |>.present rfl (Decoder.string_inverts source s.userData shallow)
    |>.present rfl (Decoder.map_inverts source s.metadata (allows.of_le (by decide)))
    |>.present rfl (Decoder.list_inverts Decoder.string_inverts source s.securityGroups
      (allows.of_le (by decide)))
    |>.present rfl devices

theorem textMap_exact (m : SortedMap String String) : (textMap m).Exact :=
  Value.membersExact_iff.2 fun member within => by
    obtain ⟨e, -, rfl⟩ := List.mem_map.1 within
    trivial

theorem VirtualMachineSpec.toJson_exact (s : VirtualMachineSpec) : s.toJson.Exact := by
  have devices : Value.ItemsExact (s.blockDevices.map BlockDevice.toJson) :=
    Value.itemsExact_iff.2 fun v member => by
      obtain ⟨d, -, rfl⟩ := List.mem_map.1 member
      exact d.toJson_exact
  simp [toJson, Value.Exact, Value.MembersExact, strings_exact, textMap_exact, devices]

instance : LawfulSpec VirtualMachineSpec where
  exact := VirtualMachineSpec.toJson_exact
  inverts := VirtualMachineSpec.decoder_inverts.deeper (by decide)

end CloudKeeper
