import CloudKeeper.Kind.Family
import CloudKeeper.Proofs.Http.Escape
import CloudKeeper.Proofs.Kind.Bodies
/-!
What create requests tell apart. Once they are sent, the requests for objects with different parameters differ, in
the path, the header or the body: nothing that is declared gets lost, and nothing looks as if it had been left out.
Projects that a path and a header name are told apart as long as they are no more than a segment of a path.
-/
namespace CloudKeeper

open Http (IsName Request Unmarked Url)

/-- Two requests that cannot be told apart once they are sent to a base. A fragment is never sent, so a base in which
one begins keeps the paths back; then the fragments still count. -/
structure Http.Request.Alike (base : String) (r r' : Request) : Prop where
  method : r.method = r'.method
  target : ∃ url url', r.url? base = some url ∧ r'.url? base = some url' ∧ url.target = url'.target ∧
    ('#' ∈ base.toList → url.parts.fragment = url'.parts.fragment)
  scope : r.scope = r'.scope
  body : r.body.map (Json.Text.ofOctets <| Text.Utf8.ofString ·.toText) =
    r'.body.map (Json.Text.ofOctets <| Text.Utf8.ofString ·.toText)

/-- Objects of a kind can be created, and of create requests that are alike the objects have the same parameters. -/
def Service.TellsApart {S : Type} (service : Service S) (base : String) (admits : S → Prop) : Prop :=
  ∀ a b : Declared S, admits a.spec → admits b.spec → ∃ r r' : Request,
    service.ask (.create a) = .send r ∧ service.ask (.create b) = .send r' ∧ (r.Alike base r' → a.spec = b.spec)

variable {base : String}

/-- Bodies of create requests that are read alike say the same. -/
private theorem eq_of_bodies {α : Type} {decoder : Json.Decoder α} {v w : Json.Value} {a b : α} {r r' : Request}
    (alike : r.Alike base r') (one : r.body = some v) (two : r'.body = some w) (exact_ : v.Exact ∧ w.Exact)
    (first : decoder .value (.ofValue v) = .ok a) (second : decoder .value (.ofValue w) = .ok b) : a = b := by
  have same := alike.body
  rw [one, two, Option.map_some, Option.map_some, Option.some_inj] at same
  exact Json.Decoder.eq_of_text exact_.1 exact_.2 same first second

namespace Volume

/-- The collections of projects are told apart. -/
private theorem eq_of_collections {p q : String} (one : Unmarked p.toList) (two : Unmarked q.toList) {r r' : Request}
    (alike : r.Alike base r') (first : r.path = collection p) (second : r'.path = collection q)
    (bare : r.query = none ∧ r'.query = none) : p = q := by
  obtain ⟨url, url', parsed, parsed', sent, kept⟩ := alike.target
  have volume : IsName ('v' :: "olume".toList) := by decide
  have version : IsName "v3".toList := by decide
  have volumes : IsName "volumes".toList := by decide
  have joined (projectId : String) : Http.join base (collection projectId) = String.ofList (Http.stem base ++
      '/' :: 'v' :: ("olume".toList ++ '/' :: ("v3".toList ++ Http.between "volumes".toList projectId.toList))) := by
    simp [Http.join_eq, collection, Http.between, String.toList_append]
  simp only [Request.url?, bare.1, Option.map_id', first, joined] at parsed
  simp only [Request.url?, bare.2, Option.map_id', second, joined] at parsed'
  refine String.toList_inj.1 (Url.segment_told volume version volumes one two parsed parsed' sent fun begins => ?_)
  exact kept (Http.mem_of_mem_stem begins)

/-- The path tells the project of a volume, the body everything else. -/
theorem tellsApart (deployment base : String) :
    (service deployment).TellsApart base (Unmarked ·.projectId.toList) := by
  intro a b one two
  refine ⟨_, _, rfl, rfl, fun alike => ?_⟩
  have project : a.spec.projectId = b.spec.projectId := eq_of_collections one two alike rfl rfl ⟨rfl, rfl⟩
  have others := eq_of_bodies alike rfl rfl ⟨createBody_exact .., createBody_exact ..⟩
    (createReader_reads deployment a.key a.spec trivial) (createReader_reads deployment b.key b.spec trivial)
  exact (congrFun others a.spec.projectId).trans (congrArg (fun projectId => { b.spec with projectId }) project)

end Volume

/-- The body tells everything of a floating IP; a project that no header can name has none. -/
theorem FloatingIp.tellsApart (base : String) : service.TellsApart base (Unmarked ·.projectId.toList) := by
  intro a b one two
  have sendable {s : FloatingIpSpec} (unmarked : Unmarked s.projectId.toList) :
      Http.isHeaderValue s.projectId = true := by
    refine List.all_eq_true.2 fun c member => ?_
    have visible := (unmarked c member).2
    simp [visible]
  refine ⟨_, _, if_pos (sendable one), if_pos (sendable two), fun alike => ?_⟩
  exact eq_of_bodies alike rfl rfl ⟨createBody_exact _, createBody_exact _⟩
    (createReader_inverts .value a.spec trivial) (createReader_inverts .value b.spec trivial)

/-- The body tells everything of a virtual machine. -/
theorem VirtualMachine.tellsApart (base : String) : service.TellsApart base fun _ => True := by
  intro a b _ _
  refine ⟨_, _, rfl, rfl, fun alike => ?_⟩
  exact eq_of_bodies alike rfl rfl ⟨createBody_exact _, createBody_exact _⟩
    (createReader_inverts .value a.spec trivial) (createReader_inverts .value b.spec trivial)

/-- Create requests carry all that is declared: of any two objects of a kind, be their parameters empty, zero or
false, the requests are alike only if the parameters are the same. The projects of volumes and of floating IPs must
be fit for a path and a header. -/
theorem create_requests_tell_specs_apart (deployment base : String) :
    (services deployment).volumes.TellsApart base (Unmarked ·.projectId.toList) ∧
    (services deployment).floatingIps.TellsApart base (Unmarked ·.projectId.toList) ∧
    (services deployment).virtualMachines.TellsApart base fun _ => True :=
  ⟨Volume.tellsApart deployment base, FloatingIp.tellsApart base, VirtualMachine.tellsApart base⟩

section Blanks

/-- A volume of a project with a blank in its name, on any host. -/
private def spaced : Declared VolumeSpec where
  key := ⟨"volume", "data"⟩
  spec := { name := "data", projectId := "a b", size := 1, volumeType := "ssd" }

/-- The same volume, once it is known to the service. -/
private def recorded : Declared VolumeSpec := { spaced with recordedId := some "v-1" }

/-- A volume that differs in an empty zone only. -/
private def zoned : Declared VolumeSpec :=
  { spaced with spec := { spaced.spec with availabilityZone := some "" } }

/-- The requests for one volume are alike, whatever is known of it, and those for two that differ in an empty zone
are not. -/
theorem create_requests_tell_specs_apart_zone :
    (∃ r r' : Request, Volume.ask "eu" (.create spaced) = .send r ∧ Volume.ask "eu" (.create recorded) = .send r' ∧
      r.Alike "http://cloud" r' ∧ spaced.spec = recorded.spec) ∧
    ∃ r r' : Request, Volume.ask "eu" (.create spaced) = .send r ∧ Volume.ask "eu" (.create zoned) = .send r' ∧
      ¬r.Alike "http://cloud" r' := by
  have fit : Unmarked spaced.spec.projectId.toList := by decide
  have tells := (create_requests_tell_specs_apart "eu" "http://cloud").1
  constructor
  · obtain ⟨r, r', asks, asks', apart⟩ := tells spaced recorded fit fit
    have alike : r.Alike "http://cloud" r' := by
      cases asks
      cases asks'
      exact ⟨rfl, ⟨_, _, rfl, rfl, rfl, fun _ => rfl⟩, rfl, rfl⟩
    exact ⟨r, r', asks, asks', alike, apart alike⟩
  · obtain ⟨r, r', asks, asks', apart⟩ := tells spaced zoned fit fit
    exact ⟨r, r', asks, asks', fun alike => absurd (apart alike) (by decide)⟩

end Blanks

end CloudKeeper
