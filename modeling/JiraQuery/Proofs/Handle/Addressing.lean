import JiraQuery.Proofs.Handle.PageSizes
import JiraQuery.Proofs.Net.Paths

/-!
# Where requests for fields go

A request for the fields of a scope, or of a tab, goes to an address from which the scope, or the tab, can
be read back. So what callers give changes nothing but its own place in the address. Main statement:
`Handle.addresses_read_back`.
-/

namespace JiraQuery

/-- The parameters of a request for the fields of a scope. -/
def FieldScope.parameters (scope : FieldScope) : List (String × String) :=
  [("expand", "projects.issuetypes.fields"), ("projectKeys", scope.projectKey)] ++
    scope.issueTypeId.toList.map ("issuetypeIds", ·) ++ scope.issueTypeName.toList.map ("issuetypeNames", ·)

/-- A scope is known from the values of its parameters. -/
theorem FieldScope.parameters_injective : Function.Injective FieldScope.parameters := by
  intro a b h
  have hlookup : ∀ name, a.parameters.lookup name = b.parameters.lookup name := fun name => by rw [h]
  have hvalues : ∀ s : FieldScope, s.parameters.lookup "projectKeys" = some s.projectKey ∧
      s.parameters.lookup "issuetypeIds" = s.issueTypeId ∧
      s.parameters.lookup "issuetypeNames" = s.issueTypeName := by
    rintro ⟨key, id, name⟩
    cases id <;> cases name <;> simp [parameters, List.lookup_cons]
  obtain ⟨hkey, hid, hname⟩ := hvalues a
  obtain ⟨hkey', hid', hname'⟩ := hvalues b
  rw [hlookup] at hkey hid hname
  exact FieldScope.ext (Option.some.inj (hkey.symm.trans hkey')) (hid.symm.trans hid') (hname.symm.trans hname')

theorem FieldScope.isName_parameters (scope : FieldScope) : ∀ p ∈ scope.parameters, Path.IsName p.1 := by
  intro p hp
  have hnames : ∀ name ∈ ["expand", "projectKeys", "issuetypeIds", "issuetypeNames"], Path.IsName name := by
    decide
  simp only [parameters, List.mem_append, List.mem_cons, List.not_mem_nil, or_false, List.mem_map] at hp
  rcases hp with ((rfl | rfl) | ⟨id, -, rfl⟩) | ⟨name, -, rfl⟩
  · exact hnames "expand" (by simp)
  · exact hnames "projectKeys" (by simp)
  · exact hnames "issuetypeIds" (by simp)
  · exact hnames "issuetypeNames" (by simp)

theorem CreateMeta.read?_path (scope : FieldScope) :
    Path.read? (path scope) = some ("issue/createmeta", scope.parameters) := by
  have hpath : path scope = Path.withParameters "issue/createmeta" scope.parameters := by
    simp [path, FieldScope.parameters]
  rw [hpath, Path.read?_withParameters (by decide) scope.isName_parameters]

namespace Handle

variable {h : Handle} {α : Type}

/-- The address of something in the interface of the server. -/
def address (h : Handle) (path : String) : String :=
  ServerUrl.join h.client.baseUrl ("rest/api/2/" ++ path)

theorem address_injective (h : Handle) : Function.Injective h.address := by
  have haddress : ∀ path, (h.address path).toList =
      h.client.baseUrl.toList ++ "/rest/api/2/".toList ++ path.toList := by
    intro path
    simp [address, ServerUrl.join]
  intro a b hab
  have hlist := congrArg String.toList hab
  rw [haddress, haddress] at hlist
  exact String.toList_injective (List.append_cancel_left hlist)

theorem sends_fetchWith_address (h : Handle) (read? : Json → Option α) (path : String) :
    Remote.Sends (fun r => r.url = h.address path) (fun _ => True) (h.fetchWith read? path) :=
  .viaLink (Client.adds_executeRaw rfl) fun _ => trivial

theorem sends_customFieldsFor (h : Handle) (scope : FieldScope) :
    Remote.Sends (fun r => r.url = h.address (CreateMeta.path scope)) (fun _ => True)
      (h.customFieldsFor scope) := by
  refine Slot.sends_collection ((h.sends_fetchWith_address _ _).bind fun info _ => ?_)
  rcases info.projects with _ | ⟨p, ps⟩
  · exact .throw _
  · exact .pure trivial

theorem isName_projectParameter (project : Option String) :
    ∀ p ∈ projectParameter project, Path.IsName p.1 := by
  intro p hp
  obtain ⟨key, -, rfl⟩ := List.mem_map.1 hp
  show Path.IsName "projectKey"
  decide

/-- The path to the fields of a tab is read back with the screen and the tab in it. -/
theorem read?_screenTabFieldsPath (screen tab : String) (project : Option String) :
    Path.read? (screenTabFieldsPath screen tab project) =
      some (Path.ofSegments ["screens", screen, "tabs", tab, "fields"], projectParameter project) := by
  refine Path.read?_withParameters (fun hmem => ?_) (isName_projectParameter project)
  rcases Text.eq_or_exists_mem_of_mem_joined (c := '/') hmem with heq | ⟨s, hs, hmem⟩
  · exact absurd heq (by decide)
  · obtain ⟨segment, -, rfl⟩ := List.mem_map.1 hs
    exact Text.Percent.not_mem_encode (by decide) segment hmem

/-- Whatever a scope is, its request goes to an address with one parameter for each of its parts, and other
scopes have other addresses; and whatever a screen and its tab are called, the request for the fields of
the tab goes to an address with these two segments among the others, and with no parameter but that of the
project. -/
theorem addresses_read_back (h : Handle) :
    (∀ scope : FieldScope,
      Remote.Sends (fun r => r.url = h.address (CreateMeta.path scope)) (fun _ => True)
        (h.customFieldsFor scope) ∧
      Path.read? (CreateMeta.path scope) = some ("issue/createmeta",
        [("expand", "projects.issuetypes.fields"), ("projectKeys", scope.projectKey)] ++
          scope.issueTypeId.toList.map ("issuetypeIds", ·) ++
          scope.issueTypeName.toList.map ("issuetypeNames", ·))) ∧
    (∀ a b : FieldScope, h.address (CreateMeta.path a) = h.address (CreateMeta.path b) → a = b) ∧
    ∀ (screen tab : String) (project : Option String),
      Remote.Sends (fun r => r.url = h.address (screenTabFieldsPath screen tab project)) (fun _ => True)
        (h.screenTabFields screen tab project) ∧
      ∃ front, Path.read? (screenTabFieldsPath screen tab project) =
          some (front, projectParameter project) ∧
        Path.segments? front = some ["screens", screen, "tabs", tab, "fields"] := by
  refine ⟨fun scope => ⟨h.sends_customFieldsFor scope, CreateMeta.read?_path scope⟩, fun a b hab => ?_,
    fun screen tab project => ⟨h.sends_fetchWith_address _ _, _,
      read?_screenTabFieldsPath screen tab project, Path.segments?_ofSegments (by simp)⟩⟩
  have hpath := h.address_injective hab
  have hread := CreateMeta.read?_path a
  rw [hpath, CreateMeta.read?_path b] at hread
  exact (FieldScope.parameters_injective (Prod.mk.inj (Option.some.inj hread)).2).symm

/-- A project key that looks like a parameter is not the scope with that parameter. -/
theorem addresses_read_back_smuggled :
    let smuggling : FieldScope := { projectKey := "TST&issuetypeIds=1" }
    let honest : FieldScope := { projectKey := "TST", issueTypeId := some "1" }
    smuggling ≠ honest ∧
      sampleHandle.address (CreateMeta.path smuggling) ≠ sampleHandle.address (CreateMeta.path honest) := by
  intro smuggling honest
  have hne : smuggling ≠ honest := by decide
  obtain ⟨-, hdistinct, -⟩ := addresses_read_back sampleHandle
  exact ⟨hne, fun heq => hne (hdistinct smuggling honest heq)⟩

end Handle

end JiraQuery
