import JiraQuery.Proofs.Query.Resolving

/-!
# Catalogs within catalogs

A query may be understood by a part of a catalog, such as the fields of one project. If no two entries of
the catalog have the same id, a name is in the part either what it is in the whole, or unknown, or it tells
apart what is ambiguous in the whole. So a query that has a translation keeps it, unless the part lacks one
of its names. Main statement: `Catalog.translate_within`.
-/

namespace JiraQuery

/-- Whether a query refers to a field. -/
def RefersTo (ops : List Operator) (f : Field) : Prop :=
  ∃ op ∈ ops, f ∈ op.fields

/-- The same results, but where one of certain names is unknown. -/
def Likeness.unlessUnknown (missing : String → Prop) : Likeness where
  rel {α} x y :=
    ∀ a : α, x = .ok a → y = .ok a ∨ ∃ name, missing name ∧ y = .error (.unknownField name)
  refl x a h := .inl h
  bind {_ _ x y f g} hxy hfg b h := by
    obtain ⟨a, hx, hf⟩ := bind_eq_ok_iff.1 h
    rcases hxy a hx with rfl | ⟨name, hmissing, rfl⟩
    · exact hfg a b hf
    · exact .inr ⟨name, hmissing, rfl⟩

namespace Catalog

variable {part whole : Catalog} {name : String}

theorem called_subset (h : part ⊆ whole) (name : String) : part.called name ⊆ whole.called name :=
  List.filter_subset _ h

/-- A part has the entry of a name, if there is one, or it has none with this name. -/
theorem called_eq_nil_or_singleton {f : CustomField} (hpart : (part.map (·.id)).Nodup)
    (hsub : part ⊆ whole) (hf : whole.called name = [f]) :
    part.called name = [] ∨ part.called name = [f] := by
  have hcalled : part.called name ⊆ [f] := hf ▸ called_subset hsub name
  have hnodup : (part.called name).Nodup := hpart.of_map.filter _
  match h : part.called name with
  | [] => exact .inl rfl
  | g :: gs =>
    rw [h] at hcalled hnodup
    obtain rfl : g = f := by simpa using hcalled List.mem_cons_self
    have hnone : gs = [] := by
      apply List.eq_nil_iff_forall_not_mem.2
      intro x hx
      obtain rfl : x = g := by simpa using hcalled (List.mem_cons_of_mem _ hx)
      exact (List.nodup_cons.1 hnodup).1 hx
    exact .inr (by rw [hnone])

section
variable (hpart : (part.map (·.id)).Nodup) (hwhole : (whole.map (·.id)).Nodup)
include hpart hwhole

/-- A name is resolved in a part as in the whole, if the part has it. -/
theorem resolveName_within (hsub : part ⊆ whole) {missing : String → Prop}
    (hmissing : part.called name = [] → missing name) :
    (Likeness.unlessUnknown missing).rel (whole.resolveName name) (part.resolveName name) := by
  intro ref h
  rw [resolveName_of_nodup hwhole] at h
  split at h
  · cases h
  · next f hf =>
    rw [resolveName_of_nodup hpart]
    rcases called_eq_nil_or_singleton hpart hsub hf with hnone | hone
    · exact .inr ⟨name, hmissing hnone, by rw [hnone]⟩
    · exact .inl (by rw [hone]; exact h)
  · cases h

/-- A name that no further entry of the whole has is resolved as in the part. -/
theorem resolveName_eq_within (hsub : part ⊆ whole) (hkept : whole.called name ⊆ part) :
    Likeness.reordering.rel (part.resolveName name) (whole.resolveName name) := by
  have hperm : (part.called name).Perm (whole.called name) := by
    apply (List.perm_ext_iff_of_nodup (hpart.of_map.filter _) (hwhole.of_map.filter _)).2
    intro f
    constructor
    · intro hf
      exact called_subset hsub name hf
    · intro hf
      exact List.mem_filter.2 ⟨hkept hf, (List.mem_filter.1 hf).2⟩
  have hids : ((part.called name).map (·.id)).Nodup := hpart.sublist (List.filter_sublist.map _)
  have hcalled : ∀ catalog, resolveName (called catalog name) name = resolveName catalog name := by
    intro catalog
    simp only [resolveName, named, called, List.filter_filter, Bool.and_self]
  rw [← hcalled part, ← hcalled whole]
  exact resolveName_perm hids hperm name

/-- What the fields of a project tell of a query which calls no field by its id. If it has a translation
with all fields of the server, it has the same one with those of the project, unless one of its names is
unknown there. If a name is ambiguous even in the project, the query has no translation with all fields.
And if none of its names is that of a further field, the two are the same, up to the order of ids in an
error. -/
theorem translate_within (hsub : part ⊆ whole) {ops : List Operator}
    (hnamed : ∀ id, ¬RefersTo ops (.customId id)) (serverMax : UInt32) :
    (∀ t, translate whole serverMax ops = .ok t →
      translate part serverMax ops = .ok t ∨
        ∃ name, (RefersTo ops (.custom name) ∧ part.called name = []) ∧
          translate part serverMax ops = .error (.unknownField name)) ∧
    (∀ name ids, translate part serverMax ops = .error (.ambiguousField name ids) →
      ∃ error, translate whole serverMax ops = .error error) ∧
    ((∀ name, RefersTo ops (.custom name) → whole.called name ⊆ part) →
      (∀ t, translate part serverMax ops = .ok t → translate whole serverMax ops = .ok t) ∧
      (∀ error, translate part serverMax ops = .error error →
        ∃ error', translate whole serverMax ops = .error error' ∧ error.Reorders error')) := by
  have hkeeps : (Likeness.unlessUnknown fun name =>
      RefersTo ops (.custom name) ∧ part.called name = []).rel
      (translate whole serverMax ops) (translate part serverMax ops) := by
    apply Likeness.translate
    intro op hop f hf
    cases f with
    | system f => exact Likeness.refl _ _
    | custom name => exact resolveName_within hpart hwhole hsub fun hnone => ⟨⟨op, hop, hf⟩, hnone⟩
    | customId id => exact absurd ⟨op, hop, hf⟩ (hnamed id)
  refine ⟨hkeeps, ?_, ?_⟩
  · intro name ids herror
    cases htranslate : translate whole serverMax ops with
    | error error => exact ⟨error, rfl⟩
    | ok t =>
      rcases hkeeps t htranslate with hok | ⟨_, -, hunknown⟩
      · cases herror.symm.trans hok
      · cases herror.symm.trans hunknown
  · intro hkept
    apply Likeness.reordering.translate serverMax
    intro op hop f hf
    cases f with
    | system f => exact Likeness.reordering.refl _
    | custom name => exact resolveName_eq_within hpart hwhole hsub (hkept name ⟨op, hop, hf⟩)
    | customId id => exact absurd ⟨op, hop, hf⟩ (hnamed id)

end

/-- The fields of a project in which a name stays ambiguous. -/
def squadFields : Catalog := [
  { id := "customfield_2", name := "Squad" },
  { id := "customfield_3", name := "squad" }]

def teamOrder : List Operator := [
  .filter (.eq (.custom "TEAM") (.text "A")), .orderBy (.custom "Team") .descending]

theorem refersTo_teamOrder {f : Field} (h : RefersTo teamOrder f) : ∃ name, f = .custom name := by
  obtain ⟨op, hop, hf⟩ := h
  simp only [teamOrder, List.mem_cons, List.not_mem_nil, or_false] at hop
  rcases hop with rfl | rfl
  · exact ⟨"TEAM", List.mem_singleton.1 hf⟩
  · exact ⟨"Team", List.mem_singleton.1 hf⟩

theorem refersTo_squadQuery {f : Field} (h : RefersTo squadQuery f) : f = .custom "SQUAD" := by
  obtain ⟨op, hop, hf⟩ := h
  obtain rfl := List.mem_singleton.1 hop
  exact List.mem_singleton.1 hf

/-- The project does not know the team, and its squads are as ambiguous as those of the server. -/
theorem translate_within_squadFields :
    (squadFields.map (·.id)).Nodup ∧ (squads.map (·.id)).Nodup ∧ squadFields ⊆ squads ∧
    (∀ id, ¬RefersTo teamOrder (.customId id)) ∧ (∀ id, ¬RefersTo squadQuery (.customId id)) ∧
    (∃ t, translate squads 100 teamOrder = .ok t ∧ t.jql = "cf[1] = \"A\" ORDER BY cf[1] DESC" ∧
      (translate squadFields 100 teamOrder = .ok t ∨
        ∃ name, (RefersTo teamOrder (.custom name) ∧ squadFields.called name = []) ∧
          translate squadFields 100 teamOrder = .error (.unknownField name))) ∧
    translate squadFields 100 squadQuery =
      .error (.ambiguousField "SQUAD" ["customfield_2", "customfield_3"]) ∧
    (∃ error, translate squads 100 squadQuery = .error error) ∧
    (∀ name, RefersTo squadQuery (.custom name) → squads.called name ⊆ squadFields) ∧
    ∃ error, translate squads 100 squadQuery = .error error ∧
      TranslationError.Reorders (.ambiguousField "SQUAD" ["customfield_2", "customfield_3"]) error := by
  have hpart : (squadFields.map (·.id)).Nodup := by decide
  have hwhole : (squads.map (·.id)).Nodup := by decide
  have hsub : squadFields ⊆ squads := by decide
  have hteam : ∀ id, ¬RefersTo teamOrder (.customId id) := by
    intro id h
    obtain ⟨name, hname⟩ := refersTo_teamOrder h
    cases hname
  have hsquad : ∀ id, ¬RefersTo squadQuery (.customId id) := by
    intro id h
    cases refersTo_squadQuery h
  have hkept : ∀ name, RefersTo squadQuery (.custom name) → squads.called name ⊆ squadFields := by
    intro name h
    obtain rfl : name = "SQUAD" := by simpa using refersTo_squadQuery h
    decide
  obtain ⟨hkeeps, -, -⟩ := translate_within hpart hwhole hsub hteam 100
  obtain ⟨-, hambiguous, hsame⟩ := translate_within hpart hwhole hsub hsquad 100
  exact ⟨hpart, hwhole, hsub, hteam, hsquad, ⟨_, by rfl, by decide, hkeeps _ rfl⟩, rfl,
    hambiguous "SQUAD" _ rfl, hkept, (hsame hkept).2 _ rfl⟩

end Catalog

end JiraQuery
