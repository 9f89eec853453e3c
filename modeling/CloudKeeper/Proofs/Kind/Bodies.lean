import CloudKeeper.Proofs.Kind.Format
/-!
The bodies of create requests as a service reads them. The declared parameters are found again in the body, those
included that are left out because they are empty, zero or false; of a volume everything but the project, which only
the path names.
-/
namespace CloudKeeper

open Json (Decoder Record Value)

/-- What a reader finds in bodies is the same if it reads the same trees of their texts. -/
theorem Json.Decoder.eq_of_text {α : Type} {decoder : Decoder α} {v w : Value} {a b : α} (one : v.Exact)
    (two : w.Exact)
    (same : Json.Text.ofOctets (Text.Utf8.ofString v.toText) = Json.Text.ofOctets (Text.Utf8.ofString w.toText))
    (first : decoder .value (.ofValue v) = .ok a) (second : decoder .value (.ofValue w) = .ok b) : a = b := by
  rw [Json.Text.ofOctets_toText v one, Json.Text.ofOctets_toText w two, Json.Text.mk.injEq] at same
  rw [same.1] at first
  exact Except.ok.inj (first.symm.trans second)

namespace FloatingIp

/-- How the body of a create request is read. -/
def createReader : Decoder FloatingIpSpec :=
  ((Record.make id).field "floatingip"
    ((Record.make FloatingIpSpec.mk)
      |>.field "name" Decoder.string
      |>.field "project_id" Decoder.string
      |>.field "cell_id" Decoder.string
      |>.field "isp" Decoder.string
      |>.field "floating_network_id" Decoder.string
      |>.field "route_id" Decoder.string
      |>.field "description" Decoder.string
      |>.field "bandwidth" Decoder.uint64).decoder).decoder

theorem createReader_inverts : Decoder.Inverts createReader createBody 2 := by
  refine Record.inverts (fun _ => rfl) (fun _ => by simp) fun source s allows => ?_
  obtain ⟨inner, enters, -⟩ := allows.enter
  refine (Record.make_reads id).present rfl (Record.Reads.decoded ?_ enters (by simp))
  have shallow := inner.allows_zero
  exact (Record.make_reads FloatingIpSpec.mk)
    |>.present rfl (Decoder.string_inverts inner s.name shallow)
    |>.present rfl (Decoder.string_inverts inner s.projectId shallow)
    |>.present rfl (Decoder.string_inverts inner s.cellId shallow)
    |>.present rfl (Decoder.string_inverts inner s.isp shallow)
    |>.present rfl (Decoder.string_inverts inner s.floatingNetworkId shallow)
    |>.present rfl (Decoder.string_inverts inner s.routeId shallow)
    |>.present rfl (Decoder.string_inverts inner s.description shallow)
    |>.present rfl (Decoder.uint64_inverts inner s.bandwidth shallow)

theorem createBody_exact (s : FloatingIpSpec) : (createBody s).Exact := by
  simp [createBody, Value.Exact, Value.MembersExact, Value.exact_nat s.bandwidth.toNat_lt_size]

end FloatingIp

namespace BlockDevice

/-- How a disk in a create request is read. -/
def createReader : Decoder BlockDevice :=
  ((Record.make BlockDevice.mk)
    |>.field "boot_index" Decoder.int64
    |>.field "delete_on_termination" Decoder.bool (some false)
    |>.field "device_name" Decoder.string (some "")
    |>.field "source_type" Decoder.string
    |>.field "destination_type" Decoder.string (some "")
    |>.field "volume_size" Decoder.uint64 (some 0)
    |>.field "volume_type" Decoder.string (some "")
    |>.field "uuid" Decoder.string (some "")).decoder

private theorem lookup_unless {omits : Prop} [Decidable omits] (name other : String) (v : Value) :
    (if omits then [] else [(name, v)]).lookup other =
      if other = name then if omits then none else some v else none := by
  by_cases same : other = name <;> split <;> simp [same]

private theorem names_unless {omits : Prop} [Decidable omits] (name : String) (v : Value) :
    List.Sublist ((if omits then [] else [(name, v)]).map Prod.fst) [name] := by
  split <;> simp

private theorem exact_unless {omits : Prop} [Decidable omits] {name : String} {v : Value} (exact_ : v.Exact) :
    ∀ m ∈ if omits then [] else [(name, v)], m.2.Exact := by
  split <;> simp [exact_]

private theorem flagMember (name : String) (flag : Bool) :
    (if flag then [(name, Value.bool true)] else []) = if flag = false then [] else [(name, .bool flag)] := by
  cases flag <;> rfl

/-- A disk is found again whichever of its members are left out. -/
theorem createReader_inverts : Decoder.Inverts createReader requestBody 1 := by
  refine Record.inverts (fun _ => rfl) (fun d => ?_) fun source d allows => ?_
  · have distinct : ["boot_index", "delete_on_termination", "device_name", "source_type", "destination_type",
        "volume_size", "volume_type", "uuid"].Nodup := by decide
    simp only [flagMember, textMember, List.map_append]
    refine distinct.sublist ?_
    exact (List.Sublist.refl ["boot_index"])
      |>.append (names_unless ..)
      |>.append (names_unless ..)
      |>.append (.refl ["source_type"])
      |>.append (names_unless ..)
      |>.append (names_unless ..)
      |>.append (names_unless ..)
      |>.append (names_unless ..)
  · simp only [flagMember, textMember]
    refine (Record.make_reads BlockDevice.mk)
      |>.present rfl (Decoder.int64_inverts source d.bootIndex allows)
      |>.omitted ?_ id (Decoder.bool_inverts source d.deleteOnTermination allows)
      |>.omitted ?_ String.isEmpty_iff.1 (Decoder.string_inverts source d.deviceName allows)
      |>.present ?_ (Decoder.string_inverts source d.sourceType allows)
      |>.omitted ?_ String.isEmpty_iff.1 (Decoder.string_inverts source d.destinationType allows)
      |>.omitted ?_ id (Decoder.uint64_inverts source d.volumeSize allows)
      |>.omitted ?_ String.isEmpty_iff.1 (Decoder.string_inverts source d.volumeType allows)
      |>.omitted ?_ String.isEmpty_iff.1 (Decoder.string_inverts source d.uuid allows)
    all_goals simp [List.lookup_append, List.lookup_cons, lookup_unless]

theorem requestBody_exact (d : BlockDevice) : (requestBody d).Exact := by
  have size : (Value.nat d.volumeSize.toNat).Exact := Value.exact_nat d.volumeSize.toNat_lt_size
  simp only [requestBody, flagMember, textMember, Value.Exact, Value.membersExact_iff, List.forall_mem_append,
    List.forall_mem_singleton]
  exact ⟨⟨⟨⟨⟨⟨⟨Value.exact_int64 d.bootIndex, exact_unless trivial⟩, exact_unless trivial⟩, trivial⟩,
    exact_unless trivial⟩, exact_unless size⟩, exact_unless trivial⟩, exact_unless trivial⟩

end BlockDevice

namespace VirtualMachine

/-- How a security group in a create request is read. -/
def groupReader : Decoder String := ((Record.make id).field "name" Decoder.string).decoder

theorem groupReader_inverts : Decoder.Inverts groupReader (fun g => .object [("name", .string g)]) 1 :=
  Record.inverts (fun _ => rfl) (fun _ => by simp) fun source g allows =>
    (Record.make_reads id).present rfl (Decoder.string_inverts source g allows)

/-- How the body of a create request is read. -/
def createReader : Decoder VirtualMachineSpec :=
  ((Record.make VirtualMachineSpec.mk)
    |>.field "name" Decoder.string
    |>.field "project_id" Decoder.string
    |>.field "cell_id" Decoder.string
    |>.field "imageRef" Decoder.string
    |>.field "flavorRef" Decoder.string
    |>.field "availability_zone" Decoder.string
    |>.field "user_data" Decoder.string
    |>.field "metadata" (Decoder.map Decoder.string)
    |>.field "security_groups" (Decoder.list groupReader)
    |>.field "block_device_mapping" (Decoder.list BlockDevice.createReader)).decoder

theorem createReader_inverts : Decoder.Inverts createReader createBody 3 := by
  refine Record.inverts (fun _ => rfl) (fun _ => by simp) fun source s allows => ?_
  have shallow : source.Allows 0 := source.allows_zero
  have metadata := Decoder.map_inverts source s.metadata (allows.of_le (by decide))
  have groups := Decoder.list_inverts groupReader_inverts source s.securityGroups allows
  have devices := Decoder.list_inverts BlockDevice.createReader_inverts source s.blockDevices allows
  exact (Record.make_reads VirtualMachineSpec.mk)
    |>.present rfl (Decoder.string_inverts source s.name shallow)
    |>.present rfl (Decoder.string_inverts source s.projectId shallow)
    |>.present rfl (Decoder.string_inverts source s.cellId shallow)
    |>.present rfl (Decoder.string_inverts source s.imageRef shallow)
    |>.present rfl (Decoder.string_inverts source s.flavorRef shallow)
    |>.present rfl (Decoder.string_inverts source s.availabilityZone shallow)
    |>.present rfl (Decoder.string_inverts source s.userData shallow)
    |>.present rfl metadata
    |>.present rfl groups
    |>.present rfl devices

theorem createBody_exact (s : VirtualMachineSpec) : (createBody s).Exact := by
  have metadata : (textMap s.metadata).Exact := textMap_exact s.metadata
  have groups : Value.ItemsExact (s.securityGroups.map fun g => .object [("name", .string g)]) :=
    Value.itemsExact_iff.2 fun v member => by
      obtain ⟨g, -, rfl⟩ := List.mem_map.1 member
      exact ⟨trivial, trivial⟩
  have devices : Value.ItemsExact (s.blockDevices.map BlockDevice.requestBody) :=
    Value.itemsExact_iff.2 fun v member => by
      obtain ⟨d, -, rfl⟩ := List.mem_map.1 member
      exact d.requestBody_exact
  simp [createBody, Value.Exact, Value.MembersExact, metadata, groups, devices]

end VirtualMachine

namespace Volume

/-- The parameters in the order in which a create request names them: those in its body, the hosts that are hinted
at, and the project in its path. -/
def requested (name : String) (size : UInt64) (volumeType description : String) (multiattach : Bool)
    (availabilityZone : Option String) (cellId : String) (sameHost : List String) (projectId : String) : VolumeSpec :=
  { name, projectId, size, volumeType, description, multiattach, cellId, availabilityZone, sameHost }

/-- How the first part of the body of a create request is read. -/
def volumeReader : Decoder (List String → String → VolumeSpec) :=
  ((Record.make requested)
    |>.field "name" Decoder.string
    |>.field "size" Decoder.uint64
    |>.field "volume_type" Decoder.string
    |>.field "description" Decoder.string
    |>.field "multiattach" Decoder.bool
    |>.field "availability_zone" (Decoder.optional Decoder.string) (some none)
    |>.field "cell_id" Decoder.string).decoder

/-- How the hints in a create request are read. -/
def hintsReader : Decoder (List String) := ((Record.make id).field "same_host" (Decoder.list Decoder.string)).decoder

/-- How the body of a create request is read; the project is not in it. -/
def createReader : Decoder (String → VolumeSpec) :=
  ((Record.make id)
    |>.field "volume" volumeReader
    |>.field "OS-SCH-HNT:scheduler_hints" hintsReader).decoder

/-- Everything but the project is found again, with or without a zone and hosts. -/
theorem createReader_reads (deployment : String) (key : Key) (s : VolumeSpec) {source : Json.Source}
    (allows : source.Allows 3) :
    createReader source (.ofValue (createBody deployment key s)) = .ok fun projectId => { s with projectId } := by
  obtain ⟨outer, enters, room⟩ := allows.enter
  obtain ⟨inner, deeper, more⟩ := room.enter
  obtain ⟨name, projectId, size, volumeType, description, multiattach, cellId, zone, hosts⟩ := s
  have shallow : inner.Allows 0 := inner.allows_zero
  have hints : hintsReader outer (.ofValue (.object [("same_host", .array (hosts.map .string))])) = .ok hosts := by
    have listed := Decoder.list_inverts Decoder.string_inverts inner hosts more
    exact Record.Reads.decoded ((Record.make_reads id).present rfl listed) deeper (by simp)
  change createReader source _ = .ok (id (requested name size volumeType description multiattach zone cellId) hosts)
  refine Record.Reads.decoded ?_ enters (by simp)
  refine (Record.make_reads id)
    |>.present rfl (Record.Reads.decoded ?_ deeper ?_)
    |>.present rfl hints
  · exact (Record.make_reads _)
      |>.present rfl (Decoder.string_inverts inner name shallow)
      |>.present rfl (Decoder.uint64_inverts inner size shallow)
      |>.present rfl (Decoder.string_inverts inner volumeType shallow)
      |>.present rfl (Decoder.string_inverts inner description shallow)
      |>.present rfl (Decoder.bool_inverts inner multiattach shallow)
      |>.optional (by cases zone <;> rfl) (fun z => Decoder.string_inverts inner z shallow) Decoder.string_given
      |>.present (by cases zone <;> rfl) (Decoder.string_inverts inner cellId shallow)
  · cases zone <;> simp

theorem createBody_exact (deployment : String) (key : Key) (s : VolumeSpec) :
    (createBody deployment key s).Exact := by
  have size : (Value.nat s.size.toNat).Exact := Value.exact_nat s.size.toNat_lt_size
  unfold createBody
  cases s.availabilityZone <;> simp [Value.Exact, Value.MembersExact, strings_exact, size]

end Volume

end CloudKeeper
