import JiraQuery.Proofs.Query.Resolving

/-!
# Names and ids of fields

A custom field may be called by its name, by its id or by the number in the id. A name that only one entry of
the catalog has is resolved as the id of this entry is (`Catalog.resolve_eq_of_renames`), though errors call
a field by what the query calls it. So a query may call its fields either way. Main statement:
`Catalog.translate_renamed`.
-/

namespace JiraQuery

/-- The same results, and errors at the same time. -/
def Likeness.success : Likeness where
  rel {α} x y := ∀ a : α, x = .ok a ↔ y = .ok a
  refl x a := Iff.rfl
  bind {_ _ x y f g} hxy hfg b := by
    rw [bind_eq_ok_iff, bind_eq_ok_iff]
    constructor
    · rintro ⟨a, hx, hf⟩
      exact ⟨a, (hxy a).1 hx, (hfg a b).1 hf⟩
    · rintro ⟨a, hy, hg⟩
      exact ⟨a, (hxy a).2 hy, (hfg a b).2 hg⟩

/-- Both computations fail, or neither does. -/
theorem Likeness.success_error_iff {α : Type} {x y : Except TranslationError α}
    (h : Likeness.success.rel x y) : (∃ error, x = .error error) ↔ ∃ error, y = .error error := by
  cases x with
  | error e =>
    cases y with
    | error e' => exact iff_of_true ⟨e, rfl⟩ ⟨e', rfl⟩
    | ok a => cases (h a).2 rfl
  | ok a =>
    rw [(h a).1 rfl]

/-! ## Numbers in ids -/

/-- Whether a text is a decimal number. -/
def IsNumber (s : String) : Prop :=
  s ≠ "" ∧ ∀ c ∈ s.toList, c.isDigit = true

theorem customFieldNumber?_append {number : String} (h : IsNumber number) :
    customFieldNumber? ("customfield_" ++ number) = some number := by
  have hstripped : "customfield_".toList.isPrefixOf? ("customfield_" ++ number).toList =
      some number.toList := by
    rw [List.isPrefixOf?_eq_some_iff_append_eq, String.toList_append]
  have hne : number.toList.isEmpty = false := by
    simpa using h.1
  have hdigits : number.toList.all Char.isDigit = true := List.all_eq_true.2 h.2
  unfold customFieldNumber?
  rw [hstripped, Option.bind_some]
  simp [hne, hdigits]

/-- A number is no id by itself, and stands for one. -/
theorem fieldNumber?_number {number : String} (h : IsNumber number) :
    fieldNumber? number = some number := by
  have hdigits : number.toList.all Char.isDigit = true := List.all_eq_true.2 h.2
  have hnone : customFieldNumber? number = none := by
    by_contra hsome
    obtain ⟨rest, hrest⟩ := Option.ne_none_iff_exists'.1 hsome
    have hc : 'c' ∈ number.toList := by
      rw [eq_of_customFieldNumber? hrest, String.toList_append]
      exact List.mem_append_left _ (by decide)
    exact absurd (h.2 'c' hc) (by decide)
  unfold fieldNumber?
  rw [hnone, Option.none_or]
  simp [h.1, hdigits]

theorem fieldNumber?_append {number : String} (h : IsNumber number) :
    fieldNumber? ("customfield_" ++ number) = some number := by
  unfold fieldNumber?
  rw [customFieldNumber?_append h]
  rfl

/-! ## Fields -/

namespace Catalog

variable {catalog : Catalog}

/-- Whether a field may stand in the place of another one: it is the same, or it calls the only entry with
the name of the other by its number or its id. -/
inductive Renames (catalog : Catalog) : Field → Field → Prop
  | refl (f : Field) : Renames catalog f f
  | number {name number : String} {f : CustomField} (hcalled : catalog.called name = [f])
      (hid : f.id = "customfield_" ++ number) (hnumber : IsNumber number) :
      Renames catalog (.custom name) (.customId number)
  | id {name number : String} {f : CustomField} (hcalled : catalog.called name = [f])
      (hid : f.id = "customfield_" ++ number) (hnumber : IsNumber number) :
      Renames catalog (.custom name) (.customId ("customfield_" ++ number))

section
variable (hnodup : (catalog.map (·.id)).Nodup)
include hnodup

/-- The entry that a name finds is the one that its number finds. -/
theorem resolveName_eq_resolveId {name number id : String} {f : CustomField}
    (hcalled : catalog.called name = [f]) (hid : f.id = "customfield_" ++ number)
    (hnumber : IsNumber number) (hread : fieldNumber? id = some number) :
    catalog.resolveName name = catalog.resolveId id := by
  have hf : f ∈ catalog := List.mem_of_mem_filter (hcalled ▸ List.mem_singleton_self f)
  have hfn : f.number? = some number := by
    rw [CustomField.number?, hid, customFieldNumber?_append hnumber]
  have hfound : catalog.numbered? number = some f := by
    apply Entity.find?_of_unique hf (decide_eq_true hfn)
    intro g hg hgn
    have hgid : g.id = f.id := (eq_of_customFieldNumber? (of_decide_eq_true hgn)).trans hid.symm
    exact List.inj_on_of_nodup_map hnodup hg hf hgid
  rw [resolveName_of_nodup hnodup, hcalled]
  simp [resolveId, hread, hfound, FieldRef.ofCustom, hfn]

theorem resolve_eq_of_renames {f g : Field} (h : catalog.Renames f g) :
    catalog.resolve f = catalog.resolve g := by
  cases h with
  | refl => rfl
  | number hcalled hid hnumber =>
    exact resolveName_eq_resolveId hnodup hcalled hid hnumber (fieldNumber?_number hnumber)
  | id hcalled hid hnumber =>
    exact resolveName_eq_resolveId hnodup hcalled hid hnumber (fieldNumber?_append hnumber)

/-- A query may call a field by the name that only this field has, or by its number or its id, at any of
its places. It has the same translation or none. -/
theorem translate_renamed {ops ops' : List Operator}
    (h : List.Forall₂ (Operator.Alike catalog.Renames) ops ops') (serverMax : UInt32) :
    (∀ t, translate catalog serverMax ops = .ok t ↔ translate catalog serverMax ops' = .ok t) ∧
      ((∃ error, translate catalog serverMax ops = .error error) ↔
        ∃ error, translate catalog serverMax ops' = .error error) := by
  have hsame : Likeness.success.rel (translate catalog serverMax ops)
      (translate catalog serverMax ops') := by
    apply Likeness.translate_alike ?_ serverMax h
    intro f g hfg
    constructor
    · rw [resolve_eq_of_renames hnodup hfg]
      exact Likeness.success.refl _
    · right
      intro α e e' a
      constructor <;> intro herror <;> cases herror
  exact ⟨hsame, Likeness.success_error_iff hsame⟩

end

/-- A field of free text, and one that is none. -/
def noteFields : Catalog := [
  { id := "customfield_6", name := "Team" },
  { id := "customfield_7", name := "Notes"
    schema := some { type := "string", custom := some "com.atlassian.jira:textarea" } }]

/-- A query for notes, for which there are two ways to call them. -/
def notesQuery (f g : Field) : List Operator := [
  .filter (.not (.eq f (.text "A"))), .filter (.contains g (.text "B")), .orderBy (.custom "notes") .ascending]

theorem alike_notesQuery {R : Field → Field → Prop} {f f' g g' : Field} (hf : R f f') (hg : R g g')
    (hsame : ∀ f, R f f) :
    List.Forall₂ (Operator.Alike R) (notesQuery f g) (notesQuery f' g') :=
  .cons (.filter (.not (.compare hf _ _ _))) (.cons (.filter (.call hg _ _))
    (.cons (.orderBy (hsame _) _) .nil))

/-- The notes are searched by their words, whatever they are called. -/
theorem translate_renamed_notes :
    (noteFields.map (·.id)).Nodup ∧
    List.Forall₂ (Operator.Alike noteFields.Renames) (notesQuery (.custom "NOTES") (.custom "Notes"))
      (notesQuery (.customId "7") (.customId "customfield_7")) ∧
    (∃ t, translate noteFields 100 (notesQuery (.custom "NOTES") (.custom "Notes")) = .ok t ∧
      translate noteFields 100 (notesQuery (.customId "7") (.customId "customfield_7")) = .ok t ∧
      t.jql = "NOT cf[7] ~ \"A\" AND cf[7] ~ \"B\" ORDER BY cf[7] ASC") := by
  have hnodup : (noteFields.map (·.id)).Nodup := by decide
  have hnumber : IsNumber "7" := ⟨by decide, by simp⟩
  have hfirst : noteFields.Renames (.custom "NOTES") (.customId "7") :=
    .number (f := noteFields[1]) (by decide) rfl hnumber
  have hsecond : noteFields.Renames (.custom "Notes") (.customId ("customfield_" ++ "7")) :=
    .id (f := noteFields[1]) (by decide) rfl hnumber
  have halike := alike_notesQuery hfirst hsecond .refl
  obtain ⟨hresult, -⟩ := translate_renamed hnodup halike 100
  exact ⟨hnodup, halike, _, by rfl, (hresult _).1 rfl, by decide⟩

end Catalog

end JiraQuery
