import JiraQuery.Proofs.Net.Asking
import JiraQuery.Proofs.Query.Kinds

/-!
# Translating with the fields of a server

A query is translated by the fields of its scope, which are fetched only for a query that calls a field
by its name. Any other query comes out as it would with all these fields, as long as it does not ask for
the kind of a field that it calls by its id. Main statement: `Handle.translate_eq_fullCatalog`.
-/

namespace JiraQuery

namespace Handle

/-- All custom fields of a scope. -/
def fullCatalog (h : Handle) : NameScope → Remote Catalog
  | .server => h.customFields
  | .within scope => h.customFieldsFor scope

variable {h : Handle} {q : Query} {catalog : Catalog} {s m : Site}

theorem catalogFor_eq_fullCatalog (hq : q.needsCatalog = true) :
    h.catalogFor q = h.fullCatalog q.scope := by
  unfold catalogFor fullCatalog
  refine (if_pos hq).trans ?_
  cases q.scope with
  | server => rfl
  | within scope => rfl

theorem catalogFor_eq_nil (hq : q.needsCatalog = false) : h.catalogFor q s = (.ok [], s) := by
  unfold catalogFor
  rw [if_neg (Bool.not_eq_true _ ▸ hq)]
  rfl

/-- What becomes of a query once its fields are there. -/
theorem translate_of_catalogFor (hcatalog : h.catalogFor q s = (.ok catalog, m)) :
    h.translate q s =
      ((JiraQuery.translate catalog h.settings.serverMaxResults q.operators).mapError .translation,
        m) := by
  unfold translate
  rw [Remote.bind_of_ok hcatalog]
  cases JiraQuery.translate catalog h.settings.serverMaxResults q.operators with
  | error e => rfl
  | ok t => rfl

/-- A query is translated, or refused, by all custom fields of its scope. They are fetched only if it
calls one by its name; otherwise it must not ask for the kind of a field that it calls by its id. -/
theorem translate_eq_fullCatalog (h : Handle) (q : Query) (catalog : Catalog) (s m : Site)
    (hfull : h.fullCatalog q.scope s = (.ok catalog, m))
    (hkinds : q.needsCatalog = false → ∀ e ∈ conditions q.operators, e.asksKind catalog = false) :
    h.translate q s =
      ((JiraQuery.translate catalog h.settings.serverMaxResults q.operators).mapError .translation,
        if q.needsCatalog then m else s) := by
  cases hq : q.needsCatalog with
  | true => exact translate_of_catalogFor (catalogFor_eq_fullCatalog hq ▸ hfull)
  | false =>
    have hnamed : ∀ op ∈ q.operators, ∀ f ∈ op.fields, f.needsCatalog = false := by
      simpa [Query.needsCatalog] using hq
    rw [translate_eq_nil hnamed (hkinds hq)]
    exact translate_of_catalogFor (catalogFor_eq_nil hq)

end Handle

/-! ## A server with a text field -/

/-- A field that is searched by its words. -/
def teamField : CustomField where
  id := "customfield_10000"
  name := "Team"
  custom := true
  schema := some
    { type := "string", custom := some "com.atlassian.jira.plugin.system.customfieldtypes:textfield" }

def teamText : String :=
  "[\x7b\"id\":\"customfield_10000\",\"name\":\"Team\",\"custom\":true,\"schema\":\x7b\"type\":\"string\",\"custom\":\"com.atlassian.jira.plugin.system.customfieldtypes:textfield\"\x7d\x7d]"

/-- A site whose server tells of one field. -/
def teamSite : Site where
  link := { server := some fun _ _ => { outcome := .answered 200 (some teamText) } }

theorem customFields_teamSite : ∃ m, sampleHandle.customFields teamSite = (.ok [teamField], m) := by
  have hopening : Text.isBlank '[' = false := by decide
  have hfetch : ∃ m, sampleHandle.fetch "field" teamSite = (.ok [teamField], m) ∧ m.cache = teamSite.cache :=
    Handle.fetch_of_text "field" ⟨rfl, rfl, rfl⟩ (by simp [teamText]) (by simp [teamText, hopening]) (by cbv)
  obtain ⟨m, hfetch, -⟩ := hfetch
  have hcustom := Remote.bind_of_ok hfetch fun fields =>
    (pure (fields.filter (·.custom)) : Remote (List CustomField))
  exact ⟨_, Slot.collection_of_ok rfl hcustom⟩

/-- Comparisons of a text field that do not depend on its kind. -/
def plainQuery : Query where
  operators := [
    .filter (.and (.exactMatch (.customId "10000") (.text "x")) (.isNotEmpty (.customId "10000"))),
    .filter (.isIn (.customId "customfield_10000") [.text "x", .text "y"]),
    .orderBy (.customId "10000") .ascending]

theorem translate_plainQuery : ∃ m,
    sampleHandle.fullCatalog plainQuery.scope teamSite = (.ok [teamField], m) ∧
      (plainQuery.needsCatalog = false ∧
        ∀ e ∈ conditions plainQuery.operators, e.asksKind [teamField] = false) ∧
      sampleHandle.translate plainQuery teamSite =
        ((JiraQuery.translate [teamField] 100 plainQuery.operators).mapError .translation,
          teamSite) := by
  obtain ⟨m, hfull⟩ := customFields_teamSite
  have hkinds : ∀ e ∈ conditions plainQuery.operators, e.asksKind [teamField] = false := by
    simp [conditions, plainQuery, Operator.condition?, Expr.asksKind, Comparison.asksKind,
      Expr.exactMatch, Expr.isNotEmpty, Expr.isIn, Expr.compareWith, Literal.isEmpty]
  exact ⟨m, hfull, ⟨rfl, hkinds⟩,
    Handle.translate_eq_fullCatalog sampleHandle plainQuery [teamField] teamSite m hfull
      fun _ => hkinds⟩

/-- Equality on a text field that is called by its id. -/
def teamQuery : Query where
  operators := [.filter (.eq (.customId "10000") (.text "x"))]

/-- Without the catalog it is looked up as a whole, and with it by its words. -/
theorem translate_teamQuery : ∃ m,
    sampleHandle.fullCatalog teamQuery.scope teamSite = (.ok [teamField], m) ∧
      (∃ t, sampleHandle.translate teamQuery teamSite = (.ok t, teamSite) ∧
        t.predicate = "cf[10000] = \"x\"") ∧
      ∃ t, JiraQuery.translate [teamField] sampleHandle.settings.serverMaxResults
          teamQuery.operators = .ok t ∧
        t.predicate = "cf[10000] ~ \"x\"" := by
  obtain ⟨m, hfull⟩ := customFields_teamSite
  exact ⟨m, hfull, ⟨_, rfl, by cbv⟩, ⟨_, rfl, by cbv⟩⟩

end JiraQuery
