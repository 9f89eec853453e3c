import CloudKeeper.Proofs.Manifest.Alignment
import CloudKeeper.Time.Epoch
/-!
The manifest is the declared state. One that cannot be read changes nothing; one that can be read is brought
about in the stores of all kinds, and reading it again changes nothing more.
-/
namespace CloudKeeper

variable {σ : Type}

/-- Authors whose operations succeed, each on the store of its kind. -/
structure Authors.Succeed (authors : Authors σ) (view : σ → Family Store) : Prop where
  volumes : authors.volumes.Succeeds (fun s => (view s).volumes)
    fun s => ((view s).floatingIps, (view s).virtualMachines)
  floatingIps : authors.floatingIps.Succeeds (fun s => (view s).floatingIps)
    fun s => ((view s).volumes, (view s).virtualMachines)
  virtualMachines : authors.virtualMachines.Succeeds (fun s => (view s).virtualMachines)
    fun s => ((view s).volumes, (view s).floatingIps)

namespace Feeder

/-- The stores of all kinds are brought in line with a manifest, one kind after the other. To do so once more
changes nothing. -/
def BringsAbout (authors : Authors σ) (view : σ → Family Store) (path : String)
    (file : Except String (List UInt8)) (s : σ) (m : Manifest) : Prop :=
  let volumes := Sync.run authors.volumes Volume.kindName m.volumes s
  let floatingIps := Sync.run authors.floatingIps FloatingIp.kindName m.floatingIps volumes.1
  let machines := Sync.run authors.virtualMachines VirtualMachine.kindName m.virtualMachines floatingIps.1
  syncOnce authors path file s = (machines.1, .ok ()) ∧
    Sync.Aligns Volume.kindName m.volumes (view s).volumes (view machines.1).volumes volumes.2 ∧
    Sync.Aligns FloatingIp.kindName m.floatingIps (view s).floatingIps (view machines.1).floatingIps
      floatingIps.2 ∧
    Sync.Aligns VirtualMachine.kindName m.virtualMachines (view s).virtualMachines
      (view machines.1).virtualMachines machines.2 ∧
    ∃ again, syncOnce authors path file machines.1 = (again, .ok ()) ∧ view again = view machines.1

variable {authors : Authors σ} {view : σ → Family Store} {path : String}
  {file : Except String (List UInt8)} {m : Manifest}

/-- The names of a manifest that is loaded are distinct within each kind. -/
private theorem distinct_of_load (loads : Manifest.load path file = .ok m) :
    ∀ kind ∈ m.named, kind.2.Nodup := by
  cases file with
  | error why => cases loads
  | ok data => exact fun kind member => ((Manifest.parse_ok_iff.1 loads).2 kind member).distinct

/-- What a manifest says of the stores of all kinds stands in them. -/
private structure Stands (m : Manifest) (stores : Family Store) : Prop where
  volumes : Sync.Settled Volume.kindName m.volumes stores.volumes
  floatingIps : Sync.Settled FloatingIp.kindName m.floatingIps stores.floatingIps
  virtualMachines : Sync.Settled VirtualMachine.kindName m.virtualMachines stores.virtualMachines

private theorem family_eq {a b : Family Store} (volumes : a.volumes = b.volumes)
    (floatingIps : a.floatingIps = b.floatingIps) (machines : a.virtualMachines = b.virtualMachines) :
    a = b := by
  obtain ⟨_, _, _⟩ := a
  cases volumes
  cases floatingIps
  cases machines
  rfl

/-- When all stands as the manifest says, nothing is changed. -/
private theorem sync_stands (succeed : authors.Succeed view) {s : σ} (stands : Stands m (view s)) :
    view (sync authors m s) = view s := by
  have first : view (Sync.run authors.volumes Volume.kindName m.volumes s).1 = view s := by
    obtain ⟨own, others⟩ := Sync.run_settled (fun _ _ => rfl) succeed.volumes s stands.volumes
    obtain ⟨floatingIps, machines⟩ := Prod.mk.inj others
    exact family_eq own floatingIps machines
  simp only [sync]
  generalize (Sync.run authors.volumes Volume.kindName m.volumes s).1 = s₁ at first ⊢
  have second : view (Sync.run authors.floatingIps FloatingIp.kindName m.floatingIps s₁).1 = view s₁ := by
    have settled := stands.floatingIps
    rw [← first] at settled
    obtain ⟨own, others⟩ := Sync.run_settled (fun _ _ => rfl) succeed.floatingIps s₁ settled
    obtain ⟨volumes, machines⟩ := Prod.mk.inj others
    exact family_eq volumes own machines
  generalize (Sync.run authors.floatingIps FloatingIp.kindName m.floatingIps s₁).1 = s₂ at second ⊢
  have settled := stands.virtualMachines
  rw [← first, ← second] at settled
  obtain ⟨own, others⟩ := Sync.run_settled (fun _ _ => rfl) succeed.virtualMachines s₂ settled
  obtain ⟨volumes, floatingIps⟩ := Prod.mk.inj others
  exact (family_eq volumes floatingIps own).trans (second.trans first)

private theorem bringsAbout_of_load (succeed : authors.Succeed view) (s : σ)
    (loads : Manifest.load path file = .ok m) : BringsAbout authors view path file s m := by
  have distinct := distinct_of_load loads
  simp only [Manifest.named, List.forall_mem_cons] at distinct
  obtain ⟨ofVolumes, ofAddresses, ofMachines, -⟩ := distinct
  have once (s : σ) : syncOnce authors path file s = (sync authors m s, .ok ()) := by
    simp only [syncOnce, loads]
  obtain ⟨volumes, others₁⟩ := Sync.run_aligns (fun _ _ => rfl) succeed.volumes Volume.kindName s ofVolumes
  let s₁ := (Sync.run authors.volumes Volume.kindName m.volumes s).1
  obtain ⟨floatingIps, others₂⟩ :=
    Sync.run_aligns (fun _ _ => rfl) succeed.floatingIps FloatingIp.kindName s₁ ofAddresses
  let s₂ := (Sync.run authors.floatingIps FloatingIp.kindName m.floatingIps s₁).1
  obtain ⟨machines, others₃⟩ :=
    Sync.run_aligns (fun _ _ => rfl) succeed.virtualMachines VirtualMachine.kindName s₂ ofMachines
  -- the store of a kind is touched by no sync but its own
  obtain ⟨floatingIps₁, machines₁⟩ := Prod.mk.inj others₁
  obtain ⟨volumes₂, machines₂⟩ := Prod.mk.inj others₂
  obtain ⟨volumes₃, floatingIps₃⟩ := Prod.mk.inj others₃
  rw [← volumes₂, ← volumes₃] at volumes
  rw [floatingIps₁, ← floatingIps₃] at floatingIps
  rw [machines₂, machines₁] at machines
  refine ⟨once s, volumes, floatingIps, machines, _, once _, ?_⟩
  exact sync_stands succeed ⟨volumes.settled, floatingIps.settled, machines.settled⟩

/-- Octets are a manifest exactly if they decode to one and within each kind all names are given and
distinct; otherwise the first entry that offends is told, of the first kind that has one. A manifest that is
not loaded leaves all stores as they are. One that is loaded is brought about in the stores of all kinds, with
the reports and the announcements of what has changed, and brought about again it changes nothing. -/
theorem manifest_brought_about (succeed : authors.Succeed view) (path : String)
    (file : Except String (List UInt8)) (s : σ) :
    (∀ data m, Manifest.parse data = .ok m ↔
      Json.decodeOctets Manifest.decoder data = .ok m ∧ ∀ kind ∈ m.named, Manifest.Proper [] kind.2) ∧
    (∀ data e, Manifest.parse data = .error e ↔
      (∃ why, Json.decodeOctets Manifest.decoder data = .error why ∧ e = .parse why.message) ∨
        ∃ m, Json.decodeOctets Manifest.decoder data = .ok m ∧ m.Offends e) ∧
    (∀ e, Manifest.load path file = .error e → syncOnce authors path file s = (s, .error e)) ∧
    ∀ m, Manifest.load path file = .ok m → BringsAbout authors view path file s m := by
  refine ⟨fun _ _ => Manifest.parse_ok_iff, fun _ _ => Manifest.parse_error_iff, fun e fails => ?_,
    fun m loads => bringsAbout_of_load succeed s loads⟩
  simp only [syncOnce, fails]

end Feeder

section Stores

variable {τ ρ S : Type} [Spec S]

/-- An author of a part of a larger state succeeds as it does on the part. -/
theorem Author.Succeeds.within {author : Author σ S} {own : σ → Store S}
    (succeeds : author.Succeeds own fun _ => ()) (part : τ → σ) (put : τ → σ → τ) {rest : τ → ρ}
    (puts : ∀ t s, part (put t s) = s) (keeps : ∀ t s, rest (put t s) = rest t) :
    (author.within part put).Succeeds (fun t => own (part t)) rest where
  apply t key spec := by
    obtain ⟨after, does, same, -⟩ := succeeds.apply (part t) key spec
    refine ⟨put t after, ?_, (congrArg own (puts t after)).trans same, keeps t after⟩
    simp only [Author.within, does]
  keys t := succeeds.keys (part t)
  get t key := by
    obtain ⟨after, does, same, -⟩ := succeeds.get (part t) key
    refine ⟨put t after, ?_, (congrArg own (puts t after)).trans same, keeps t after⟩
    simp only [Author.within, does]
  requestDeletion t key := by
    obtain ⟨now, after, does, same, -⟩ := succeeds.requestDeletion (part t) key
    refine ⟨now, put t after, ?_, (congrArg own (puts t after)).trans same, keeps t after⟩
    simp only [Author.within, does]

/-- The author of a store whose writes succeed. -/
theorem Store.author_succeeds (now : Time.Timestamp) :
    (Store.author .written now : Author (Store S) S).Succeeds id fun _ => () where
  apply _ _ _ := ⟨_, rfl, rfl, rfl⟩
  keys _ := rfl
  get _ _ := ⟨_, rfl, rfl, rfl⟩
  requestDeletion _ _ := ⟨now, _, rfl, rfl, rfl⟩

/-- The authors of stores whose writes succeed. -/
theorem Authors.succeed_ofFamily (now : Time.Timestamp) :
    (Authors.ofFamily (Store.author .written now)).Succeed id where
  volumes := (Store.author_succeeds now).within (fun k : Family Store => k.volumes)
    (fun k s => { k with volumes := s }) (fun _ _ => rfl) fun _ _ => rfl
  floatingIps := (Store.author_succeeds now).within (fun k : Family Store => k.floatingIps)
    (fun k s => { k with floatingIps := s }) (fun _ _ => rfl) fun _ _ => rfl
  virtualMachines := (Store.author_succeeds now).within (fun k : Family Store => k.virtualMachines)
    (fun k s => { k with virtualMachines := s }) (fun _ _ => rfl) fun _ _ => rfl

end Stores

set_option maxRecDepth 10000 in
/-- A manifest lists an address and no volume, where a volume is stored. The address is declared and the
volume is to be deleted, and this is all there is to do. -/
theorem Feeder.manifest_brought_about_address :
    let text := "\x7b\"floatingIps\":[\x7b\"name\":\"web\",\"spec\":" ++
      "\x7b\"projectId\":\"p\",\"isp\":\"BGP\",\"bandwidth\":1\x7d\x7d]\x7d"
    let spec : FloatingIpSpec := { projectId := "p", isp := "BGP", bandwidth := 1 }
    let old : Declared VolumeSpec :=
      { key := ⟨"volume", "data"⟩
        spec := { name := "data", projectId := "p", size := 1, volumeType := "ssd" }
        recordedId := some "vol-1" }
    let stores : Family Store := ⟨{ objects := .ofList [(old.key, old)] }, {}, {}⟩
    let feeds := syncOnce (.ofFamily (Store.author .written .epoch)) "m.json" (.ok (Text.Utf8.ofString text))
    (feeds stores).2 = .ok () ∧
      (∃ o, (feeds stores).1.floatingIps.get? ⟨"floating_ip", "web"⟩ = some o ∧ o.spec = spec) ∧
      (∃ requested, (feeds stores).1.volumes.get? old.key =
        some { old with deletionRequested := some requested }) ∧
      (feeds (feeds stores).1).1 = (feeds stores).1 := by
  intro text spec old stores feeds
  have shown : ((Manifest.load "m.json" (.ok (Text.Utf8.ofString text))).toOption.map fun m =>
      (m.volumes.map (·.name), m.floatingIps.map fun e => (e.name, e.spec))) = some ([], [("web", spec)]) := by
    decide +kernel
  have all := manifest_brought_about (Authors.succeed_ofFamily .epoch) "m.json"
    (.ok (Text.Utf8.ofString text)) stores
  cases loads : Manifest.load "m.json" (.ok (Text.Utf8.ofString text)) with
  | error e =>
    rw [loads] at shown
    cases shown
  | ok m =>
    rw [loads] at shown
    obtain ⟨unlisted, listed⟩ := Prod.mk.inj (Option.some.inj shown)
    obtain ⟨entry, only, named⟩ := List.map_eq_singleton_iff.1 listed
    obtain ⟨name, given⟩ := Prod.mk.inj named
    obtain ⟨once, volumes, floatingIps, -, again, twice, same⟩ := all.2.2.2 m loads
    have after : feeds stores = _ := once
    rw [after]
    refine ⟨rfl, ?_, ?_, (congrArg Prod.fst twice).trans same⟩
    · have declared := floatingIps.listed entry (only ▸ List.mem_singleton_self entry)
      rw [ManifestEntry.key, name, given] at declared
      exact ⟨_, declared, rfl⟩
    · have stored : (id stores).volumes.get? old.key = some old :=
        (SortedMap.get?_insert ..).trans (if_pos rfl)
      obtain ⟨requested, marked, -⟩ := volumes.unlisted old.key (by rw [unlisted]; decide) old stored
      exact ⟨requested, marked⟩

end CloudKeeper
