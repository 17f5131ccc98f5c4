import JiraQuery.Proofs.Handle.Memory
import JiraQuery.Proofs.Json.Readable
import JiraQuery.Proofs.Metadata.Offered

/-!
# The fields of a scope

The store of a scope is filled at once or not at all, whatever was called before. So the first answer for
a scope is what the server tells of it: the custom fields of the first project, or that there is none. Main
statement: `Handle.customFieldsFor_offers`.
-/

namespace JiraQuery

/-! ## Scopes that were not loaded -/

/-- Sites that a fresh one becomes by calls through handles; all other calls change the link only. -/
inductive Site.Visited : Site → Prop
  | fresh (l : Link) : Visited { link := l }
  | called {s : Site} (h : Handle) (c : Call) : Visited s → Visited (h.perform c s).2
  | moved {s : Site} (l : Link) : Visited s → Visited { s with link := l }

/-- A scope has all its fields or none. -/
def MetadataCache.ScopesWhole (c : MetadataCache) : Prop :=
  ∀ scope, (c.projectFields.get scope).complete = false → (c.projectFields.get scope).entries = []

namespace Handle

variable {h : Handle} {scope : FieldScope} {s m : Site} {j : Json} {l : Link}

/-- A call fills the store of a scope at once, or leaves it. -/
theorem Turn.scopesWhole {c : Call} {p : Except Error c.Answer × Site} (hturn : Turn c s p)
    (hs : s.cache.ScopesWhole) : p.2.cache.ScopesWhole := by
  intro scope hpart
  have hleft : (Kind.collection (.projectFields scope)).stock p.2.cache =
      (Kind.collection (.projectFields scope)).stock s.cache →
        (p.2.cache.projectFields.get scope).entries = [] := by
    intro hstock
    have hstore : p.2.cache.projectFields.get scope = s.cache.projectFields.get scope := hstock
    rw [hstore] at hpart ⊢
    exact hs scope hpart
  cases hturn with
  | known _ => exact hs scope hpart
  | failed _ hstock => exact hleft (hstock _)
  | fetched _ _ hkept hothers =>
    by_cases hk : Kind.collection (.projectFields scope) = c.kind
    · cases c with
      | status key | project key => cases hk
      | all k =>
        obtain rfl : Kind.collection (.projectFields scope) = k := hk
        obtain ⟨fields, hstore, -⟩ := hkept
        have hall : (_ : Store CustomField).complete = true := congrArg Store.complete hstore
        cases hpart.symm.trans hall
    · exact hleft (hothers _ hk)

end Handle

theorem Site.Visited.scopesWhole {s : Site} (h : s.Visited) : s.cache.ScopesWhole := by
  induction h with
  | fresh l => exact fun scope _ => rfl
  | called h c _ ih => exact (h.turn c _).scopesWhole ih
  | moved l _ ih => exact ih

/-- A scope that was not loaded has an empty store, be it that the server was asked in vain. -/
theorem Site.Visited.get_projectFields {s : Site} {scope : FieldScope} (h : s.Visited)
    (hnew : (s.cache.projectFields.get scope).complete = false) :
    s.cache.projectFields.get scope = {} := by
  have hentries := h.scopesWhole scope hnew
  rcases hstore : s.cache.projectFields.get scope with ⟨entries, complete⟩
  rw [hstore] at hnew hentries
  obtain rfl : complete = false := hnew
  obtain rfl : entries = [] := hentries
  rfl

/-! ## The first answer for a scope -/

namespace Handle

variable {h : Handle} {scope : FieldScope} {s m : Site} {j : Json} {l : Link}

/-- What a document on new issues says about the fields of a scope. -/
def scopeAnswer (scope : FieldScope) (j : Json) : Except Error (List CustomField) :=
  match CreateMeta.ofJson? j with
  | none => .error (.api .invalidResponse)
  | some info =>
    match info.projects with
    | [] => .error (.notFound (noProject scope.projectKey))
    | p :: _ => .ok p.customFields

theorem customFieldsFor_eq (hnew : (s.cache.projectFields.get scope).complete = false)
    (hraw : h.client.executeRaw h.token "GET" ("rest/api/2/" ++ CreateMeta.path scope) none s.link =
      (.ok j, l)) :
    h.customFieldsFor scope s =
      let taken := (s.cache.projectFields.get scope).populate (scopeAnswer scope j)
      (taken.1, ⟨(Slot.projectFields scope).write s.cache taken.2, l⟩) := by
  unfold customFieldsFor
  rw [Slot.collection_eq]
  show (if (s.cache.projectFields.get scope).complete then _ else _) = _
  rw [hnew, if_neg Bool.false_ne_true, Remote.bind_eq, fetchWith_eq hraw]
  unfold scopeAnswer
  simp only [Except.bind]
  cases CreateMeta.ofJson? j with
  | none => rfl
  | some info =>
    rcases hprojects : info.projects with _ | ⟨p, ps⟩
    · simp only [Option.elim_some, Except.mapError, hprojects]
      rfl
    · simp only [Option.elim_some, Except.mapError, hprojects]
      rfl

section
variable (hnew : (s.cache.projectFields.get scope).complete = false)
  (hraw : h.client.executeRaw h.token "GET" ("rest/api/2/" ++ CreateMeta.path scope) none s.link =
    (.ok j, l))

include hnew hraw

/-- After a failure the scope is as it was. -/
theorem customFieldsFor_of_error {e : Error} (hanswer : scopeAnswer scope j = .error e) :
    ∃ m, h.customFieldsFor scope s = (.error e, m) ∧
      (m.cache.projectFields.get scope).complete = false := by
  refine ⟨_, (customFieldsFor_eq hnew hraw).trans (by rw [hanswer]; rfl), ?_⟩
  exact (congrArg Store.complete (Collection.read_write (.projectFields scope) _ _)).trans hnew

theorem customFieldsFor_of_ok {fields : List CustomField} (hs : s.Visited)
    (hanswer : scopeAnswer scope j = .ok fields) (hnodup : (Entity.ids fields).Nodup) :
    ∃ m, h.customFieldsFor scope s = (.ok fields, m) ∧
      m.cache.projectFields.get scope = { entries := fields, complete := true } := by
  have hseed : (s.cache.projectFields.get scope).populate (ε := Error) (.ok fields) =
      (.ok fields, { entries := fields, complete := true }) := by
    rw [hs.get_projectFields hnew]
    show (Except.ok (Entity.distinct fields), Store.mk (Entity.distinct fields) true) = _
    rw [Entity.distinct_of_nodup hnodup]
  refine ⟨_, (customFieldsFor_eq hnew hraw).trans (by rw [hanswer, hseed]), ?_⟩
  exact Collection.read_write (.projectFields scope) _ _

end

/-- Whatever document the server has for the fields of a scope that was not loaded: it is refused if it does
not tell of projects. If it has no project, there is none, and the scope stays as it was. Otherwise the
answer is the custom fields that the issue types of the first project offer together, and the scope has
them from then on. -/
theorem customFieldsFor_offers (h : Handle) (scope : FieldScope) (s : Site) (j : Json) (l : Link)
    (hs : s.Visited) (hnew : (s.cache.projectFields.get scope).complete = false)
    (hraw : h.client.executeRaw h.token "GET" ("rest/api/2/" ++ CreateMeta.path scope) none s.link =
      (.ok j, l)) :
    (CreateMeta.ofJson? j = none →
      ∃ m, h.customFieldsFor scope s = (.error (.api .invalidResponse), m) ∧
        (m.cache.projectFields.get scope).complete = false) ∧
    ∀ info, CreateMeta.ofJson? j = some info →
      (CreateMeta.projectsIn j = [] →
        ∃ m, h.customFieldsFor scope s = (.error (.notFound (noProject scope.projectKey)), m) ∧
          (m.cache.projectFields.get scope).complete = false) ∧
      ∀ d ds, CreateMeta.projectsIn j = d :: ds →
        ∃ fields m, h.customFieldsFor scope s = (.ok fields, m) ∧
          CreateMeta.Offers (CreateMeta.tablesIn d) fields ∧
          m.cache.projectFields.get scope = { entries := fields, complete := true } := by
  refine ⟨fun hnone => ?_, fun info hinfo => ⟨fun hprojects => ?_, fun d ds hprojects => ?_⟩⟩
  · exact customFieldsFor_of_error hnew hraw (by rw [scopeAnswer, hnone])
  · have hread := CreateMeta.forall₂_projectsIn hinfo
    rw [hprojects] at hread
    have hempty : info.projects = [] := List.forall₂_nil_left_iff.1 hread
    exact customFieldsFor_of_error hnew hraw (by simp only [scopeAnswer, hinfo, hempty])
  · have hread := CreateMeta.forall₂_projectsIn hinfo
    rw [hprojects] at hread
    obtain ⟨p, ps, hp, -, hfirst⟩ := List.forall₂_cons_left_iff.1 hread
    have hoffers := CreateMeta.offers_of_ofJson? hp
    have hanswer : scopeAnswer scope j = .ok p.customFields := by simp only [scopeAnswer, hinfo, hfirst]
    obtain ⟨m, hrun, hstore⟩ := customFieldsFor_of_ok hnew hraw hs hanswer hoffers.nodup
    exact ⟨_, m, hrun, hoffers, hstore⟩

end Handle

/-! ## A server with two issue types -/

def metaField (name : String) : Json := .obj [("name", .str name)]

def metaType (id name : String) (fields : List (String × String)) : Json :=
  .obj [("fields", .obj (fields.map fun f => (f.1, metaField f.2))), ("id", .str id), ("name", .str name)]

/-- Both issue types list the points, under different names. -/
def metaProject : Json := .obj [
  ("issuetypes", .arr [
    metaType "1" "Bug" [("customfield_10001", "Points"), ("summary", "Summary")],
    metaType "2" "Task" [("CUSTOMFIELD_10002", "Team"), ("customfield_10000", "Notes"),
      ("customfield_10001", "Story Points")]]),
  ("key", .str "TST")]

/-- The points are named by the first issue type, and the fields of the second one are behind them. -/
def metaFields : List CustomField := [
  { id := "customfield_10001", name := "Points", custom := true },
  { id := "CUSTOMFIELD_10002", name := "Team", custom := true },
  { id := "customfield_10000", name := "Notes", custom := true }]

theorem offers_metaProject : CreateMeta.Offers (CreateMeta.tablesIn metaProject) metaFields := by
  obtain ⟨p, hp, hfields⟩ : ∃ p, CreateMeta.Project.ofJson? metaProject = some p ∧ p.customFields = metaFields :=
    ⟨_, rfl, rfl⟩
  exact hfields ▸ CreateMeta.offers_of_ofJson? hp

def metaDocument (projects : List Json) : Json := .obj [("projects", .arr projects)]

/-- A site whose server has one document. -/
def metaSite (projects : List Json) : Site where
  link := { server := some fun _ _ => { outcome := .answered 200 (some (metaDocument projects).render) } }

theorem fits_metaType (id name : String) (fields : List (String × String)) :
    (metaType id name fields).Fits 3 := by
  have hfields : (Json.obj (fields.map fun f => (f.1, metaField f.2))).Fits 2 :=
    .obj (List.forall_mem_map.2 fun f _ => .obj (List.forall_mem_singleton.2 (.str _)))
  exact .obj (by simpa using ⟨hfields, .str id, .str name⟩)

theorem fits_metaProject : metaProject.Fits 5 := by
  refine .obj (List.forall_mem_cons.2 ⟨.arr ?_, List.forall_mem_singleton.2 (.str _)⟩)
  simpa using ⟨fits_metaType _ _ _, fits_metaType _ _ _⟩

theorem executeRaw_metaSite {projects : List Json} (path : String) (hfits : ∀ d ∈ projects, d.Fits 5)
    (hagain : (metaDocument projects).again = some (metaDocument projects)) :
    ∃ l, sampleHandle.client.executeRaw sampleHandle.token "GET" path none (metaSite projects).link =
      (.ok (metaDocument projects), l) := by
  have hfits' : (metaDocument projects).Fits 7 := .obj (List.forall_mem_singleton.2 (.arr hfits))
  have hparse := (Json.parse?_render (hfits'.mono (by decide))).trans hagain
  have htext := Json.toList_render_obj [("projects", .arr projects)]
  have hopening : Text.isBlank '\x7b' = false := by decide
  have hread := fun url => Response.read_text url
    (by simp [metaDocument, htext]) (by simp [metaDocument, htext, hopening]) hparse
  exact ⟨_, Client.executeRaw_eq ⟨rfl, rfl, rfl⟩ rfl (hread _)⟩

theorem customFieldsFor_offers_metaSite :
    (∃ m, sampleHandle.customFieldsFor ⟨"TST", none, none⟩ (metaSite [metaProject]) = (.ok metaFields, m) ∧
      CreateMeta.Offers (CreateMeta.tablesIn metaProject) metaFields ∧
      m.cache.projectFields.get ⟨"TST", none, none⟩ = { entries := metaFields, complete := true }) ∧
    ∃ m, sampleHandle.customFieldsFor ⟨"NONE", none, none⟩ (metaSite []) =
        (.error (.notFound "Project with key 'NONE' was not found on the Jira server."), m) ∧
      (m.cache.projectFields.get ⟨"NONE", none, none⟩).complete = false := by
  obtain ⟨l, hraw⟩ := executeRaw_metaSite ("rest/api/2/" ++ CreateMeta.path ⟨"TST", none, none⟩)
    (List.forall_mem_singleton.2 fits_metaProject) rfl
  obtain ⟨n, hempty⟩ := executeRaw_metaSite ("rest/api/2/" ++ CreateMeta.path ⟨"NONE", none, none⟩)
    (List.forall_mem_nil _) rfl
  obtain ⟨-, hoffers⟩ := Handle.customFieldsFor_offers _ _ _ _ _ (.fresh _) rfl hraw
  obtain ⟨-, hmissing⟩ := Handle.customFieldsFor_offers _ _ _ _ _ (.fresh _) rfl hempty
  obtain ⟨fields, m, hrun, hfields, hstore⟩ := (hoffers _ rfl).2 metaProject [] rfl
  obtain rfl := hfields.unique offers_metaProject
  exact ⟨⟨m, hrun, hfields, hstore⟩, (hmissing _ rfl).1 rfl⟩

end JiraQuery
