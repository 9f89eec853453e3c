import CloudKeeper.Proofs.Http.Form
import CloudKeeper.Proofs.Kind.Bodies
import CloudKeeper.Proofs.Volume.Site
/-!
What a lookup asks for and what a create request carries. The ownership tag goes through two encodings, once as
JSON in a body and once as JSON in a form-encoded parameter, and whatever stands in it, a service that takes both
back finds the same tag. The path of a project is sent as it was declared, so a project, or an endpoint, in which a
query or a fragment begins leads both requests astray.
-/
namespace CloudKeeper.Volume

open Http (IsName PathOnly Request Url stem)
open Json (Value)

/-- A text that is read as a value and nothing else. -/
def Says (text : String) (v : Value) : Prop := Json.Text.ofOctets (Text.Utf8.ofString text) = ⟨.ofValue v, true⟩

variable {base deployment : String} {o : Declared VolumeSpec}

private theorem stem_pathOnly (only : PathOnly base.toList) : PathOnly (stem base) :=
  ⟨fun member => only.1 (Http.mem_of_mem_stem member), fun member => only.2 (Http.mem_of_mem_stem member)⟩

/-- The text of a project's volumes, by segments. -/
private def segments (base projectId : String) : List Char :=
  stem base ++
    '/' :: 'v' :: ("olume".toList ++ '/' :: (("v3/".toList ++ projectId.toList) ++ '/' :: "volumes".toList))

private theorem join_collection (base projectId : String) :
    Http.join base (collection projectId) = String.ofList (segments base projectId) ∧
      Http.join base (collection projectId ++ "/detail") =
        String.ofList (segments base projectId ++ '/' :: "detail".toList) := by
  constructor <;>
    · rw [← String.toList_inj]
      simp [Http.join_eq, collection, segments, String.toList_append]

private theorem parse?_collection (base projectId : String) :
    (Url.parse? (Http.join base (collection projectId))).isSome =
        (Url.parse? (Http.join base (collection projectId ++ "/detail"))).isSome ∧
      (PathOnly base.toList → PathOnly projectId.toList →
        ∀ url, Url.parse? (Http.join base (collection projectId)) = some url →
          ∃ path, url.parts = ⟨path, none, none⟩ ∧
            Url.parse? (Http.join base (collection projectId ++ "/detail")) =
              some { url with parts := ⟨path ++ "/detail".toList, none, none⟩ }) := by
  have volume : IsName ('v' :: "olume".toList) := by decide
  have volumes : IsName "volumes".toList := by decide
  have detail : IsName "detail".toList := by decide
  obtain ⟨together, differ⟩ := Url.parse?_part (stem base) ("v3/".toList ++ projectId.toList) volume volumes detail
  rw [(join_collection base projectId).1, (join_collection base projectId).2]
  refine ⟨together, fun baseOnly projectOnly url parsed => ?_⟩
  exact differ (stem_pathOnly baseOnly) (Http.pathOnly_append.2 ⟨⟨by decide, by decide⟩, projectOnly⟩) url parsed

/-- Create requests and lookups agree on the tag. The body of the one and the last parameter of the other are read as
the same tag, and one can be sent if the other can. If neither a query nor a fragment begins in the endpoint or in
the project, the parameter is the only one, and the lookup goes to the details of the collection that the create
request goes to. -/
theorem lookup_asks_for_what_create_carries (deployment base : String) (o : Declared VolumeSpec) :
    let carried := tag deployment o.key
    ∃ create lookup : Request, ∃ body filter,
      ask deployment (.create o) = .send create ∧ ask deployment (.lookup o) = .send lookup ∧
      create.path = collection o.spec.projectId ∧ lookup.path = create.path ++ "/detail" ∧
      create.body = some body ∧ Says body.toText body ∧
      (body.get? "volume").bind (·.get? "metadata") = some (.object [(tagKey, .string carried)]) ∧
      Says filter (.object [(tagKey, .string carried)]) ∧
      (create.url? base).isSome = (lookup.url? base).isSome ∧
      ∀ url, lookup.url? base = some url →
        (∃ earlier, url.parameters = earlier ++ [("metadata", filter)]) ∧
        (PathOnly base.toList → PathOnly o.spec.projectId.toList →
          url.parameters = [("metadata", filter)] ∧ url.parts.fragment = none ∧
            ∃ home path, create.url? base = some home ∧ home.origin = url.origin ∧
              home.parts = ⟨path, none, none⟩ ∧ url.parts.path = path ++ "/detail".toList) := by
  intro carried
  obtain ⟨together, differ⟩ := parse?_collection base o.spec.projectId
  refine ⟨_, _, _, tagFilter deployment o.key, rfl, rfl, rfl, rfl, rfl,
    Json.Text.ofOctets_toText _ (createBody_exact ..),
    createBody_metadata .., Json.Text.ofOctets_member .., ?_, fun url sent => ?_⟩
  · simp only [Request.url?, Option.isSome_map, together]
  · obtain ⟨bare, parsed, rfl⟩ := Option.map_eq_some_iff.1 sent
    refine ⟨⟨_, Http.Parts.addParameter_read ..⟩, fun baseOnly projectOnly => ?_⟩
    obtain ⟨home, located⟩ := Option.isSome_iff_exists.1 (together.trans (by rw [parsed, Option.isSome_some]))
    obtain ⟨path, parts, detail⟩ := differ baseOnly projectOnly home located
    cases parsed.symm.trans detail
    refine ⟨Http.Parts.addParameter_read .., rfl, home, path, ?_, rfl, parts, rfl⟩
    rw [Request.url?, located]
    rfl

section Names

/-- A volume whose name is full of marks. -/
private def marked : Declared VolumeSpec where
  key := ⟨"volume", "a\"\\&+%=é\n"⟩
  spec := { name := "data", projectId := "p", size := 1, volumeType := "ssd" }

/-- Whatever stands in a name, the lookup asks for it. -/
theorem lookup_asks_for_what_create_carries_marked :
    ∃ lookup url filter, ask "eu" (.lookup marked) = .send lookup ∧ lookup.url? "http://cloud" = some url ∧
      url.parameters = [("metadata", filter)] ∧
      Says filter (.object [(tagKey, .string "eu/volume/a\"\\&+%=é\n")]) := by
  obtain ⟨create, lookup, body, filter, -, asks, -, -, -, -, -, asked, -, reads⟩ :=
    lookup_asks_for_what_create_carries "eu" "http://cloud" marked
  have sendable : (lookup.url? "http://cloud").isSome = true := by
    cases asks
    decide
  obtain ⟨url, sent⟩ := Option.isSome_iff_exists.1 sendable
  have alone := (reads url sent).2 ⟨by decide, by decide⟩ ⟨by decide, by decide⟩
  exact ⟨lookup, url, filter, asks, sent, alone.1, asked⟩

/-- A volume of a project in whose identifier a query begins. -/
private def astray : Declared VolumeSpec :=
  { marked with spec := { marked.spec with projectId := "p?metadata=x" } }

/-- A project in whose identifier a query begins leads both requests astray: neither goes to the collection, and the
lookup has a second parameter. -/
theorem lookup_of_project_with_query :
    ∃ create lookup home url, ask "eu" (.create astray) = .send create ∧ ask "eu" (.lookup astray) = .send lookup ∧
      create.url? "http://cloud" = some home ∧ lookup.url? "http://cloud" = some url ∧
      url.parameters = [("metadata", "x/volumes/detail"), ("metadata", tagFilter "eu" astray.key)] ∧
      home.parts.path = "/volume/v3/p".toList ∧ url.parts.path = home.parts.path := by
  refine ⟨_, _, _, _, rfl, rfl, rfl, rfl, ?_, ?_, ?_⟩ <;> decide +kernel

end Names

end CloudKeeper.Volume
