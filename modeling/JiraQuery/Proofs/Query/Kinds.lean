import JiraQuery.Proofs.Query.Drafting

/-!
# Translating without a catalog

A query that calls no custom field by its name can be written without the catalog of custom fields. All
that the catalog knows beyond that is the kind of a field that is called by its id (`resolve_eq_withKind`),
which few clauses ask for. Main statement: `translate_eq_nil`.
-/

namespace JiraQuery

/-! ## Fields -/

/-- What the catalog holds of a field that is called by its id. -/
def Catalog.byId? (catalog : Catalog) : Field → Option CustomField
  | .customId id => (fieldNumber? id).bind catalog.numbered?
  | _ => none

/-- A reference to a field of which more is known. -/
def FieldRef.withKind (ref : FieldRef) (known : Option CustomField) : FieldRef :=
  { ref with
    text := ref.text || known.any (·.isText)
    multi := ref.multi || known.any (·.isMultiValued) }

/-- Unless it is called by its name, the catalog adds its kind to a field and nothing else. -/
theorem Catalog.resolve_eq_withKind {f : Field} (catalog : Catalog) (hf : f.needsCatalog = false) :
    catalog.resolve f = (Catalog.resolve [] f).map (·.withKind (catalog.byId? f)) := by
  cases f with
  | system f =>
    simp [resolve, byId?, FieldRef.withKind, Except.map]
  | custom name => cases hf
  | customId id =>
    cases hid : fieldNumber? id with
    | none => simp [resolve, resolveId, hid, Except.map]
    | some number =>
      simp [resolve, resolveId, byId?, hid, FieldRef.withKind, numbered?, Except.map]

@[simp] theorem FieldRef.withKind_none (ref : FieldRef) : ref.withKind none = ref := by
  simp [withKind]

/-- Without the catalog nothing is known of a field that is called by its id. -/
theorem Catalog.text_of_resolve_nil {catalog : Catalog} {f : Field} {ref : FieldRef} {known : CustomField}
    (h : Catalog.resolve [] f = .ok ref) (hknown : catalog.byId? f = some known) :
    ref.text = false ∧ ref.multi = false := by
  cases f with
  | system f => cases hknown
  | custom name => cases hknown
  | customId id =>
    cases hid : fieldNumber? id with
    | none => simp [byId?, hid] at hknown
    | some number =>
      simp only [resolve, resolveId, hid] at h
      obtain rfl := Except.ok.inj h
      exact ⟨rfl, rfl⟩

/-! ## Clauses -/

/-- Whether a comparison asks for the kind of a field that is called by its id: it is looked up as a
whole, or by its words if it is free text. -/
def Comparison.asksKind (catalog : Catalog) (x : Comparison) : Bool :=
  (x.op = .eq || x.op = .ne) && !x.exact && !x.value.isEmpty &&
    (catalog.byId? x.field).any (·.isText)

/-- Whether a call asks for the kind of a field that is called by its id. -/
def MethodCall.asksKind (catalog : Catalog) (x : MethodCall) : Bool :=
  (catalog.byId? x.field).any fun f => f.isText && !f.isMultiValued

theorem Comparison.operatorOn_withKind {catalog : Catalog} {x : Comparison} {ref : FieldRef}
    (hempty : x.value.isEmpty = false) (hx : x.asksKind catalog = false) :
    x.operatorOn (ref.withKind (catalog.byId? x.field)) = x.operatorOn ref := by
  have hkind : x.op = .eq ∨ x.op = .ne → x.exact = true ∨
      (catalog.byId? x.field).any (·.isText) = false := by
    intro hop
    by_contra hnone
    obtain ⟨hexact, htext⟩ := not_or.1 hnone
    rcases hop with hop | hop <;> simp_all [asksKind]
  unfold operatorOn FieldRef.withKind
  split
  · next hop => rcases hkind (.inl hop) with h | h <;> simp [h]
  · next hop => rcases hkind (.inr hop) with h | h <;> simp [h]
  · rfl

theorem Comparison.render_eq_nil {catalog : Catalog} {x : Comparison}
    (hf : x.field.needsCatalog = false) (hx : x.asksKind catalog = false) :
    x.render catalog = x.render [] := by
  unfold render
  rw [catalog.resolve_eq_withKind hf]
  cases Catalog.resolve [] x.field with
  | error e => rfl
  | ok ref =>
    cases hempty : x.value.isEmpty with
    | true => rfl
    | false =>
      simp only [Except.map, bind, Except.bind, operatorOn_withKind hempty hx]
      rfl

theorem MethodCall.searchesWords_withKind {catalog : Catalog} {x : MethodCall} {ref : FieldRef}
    (href : Catalog.resolve [] x.field = .ok ref) (hx : x.asksKind catalog = false) :
    ((ref.withKind (catalog.byId? x.field)).text && !(ref.withKind (catalog.byId? x.field)).multi) =
      (ref.text && !ref.multi) := by
  unfold asksKind at hx
  cases hknown : catalog.byId? x.field with
  | none => rw [FieldRef.withKind_none]
  | some f =>
    obtain ⟨htext, hmulti⟩ := Catalog.text_of_resolve_nil href hknown
    rw [hknown] at hx
    simpa [FieldRef.withKind, htext, hmulti] using hx

theorem MethodCall.render_eq_nil {catalog : Catalog} {x : MethodCall}
    (hf : x.field.needsCatalog = false) (hx : x.asksKind catalog = false) :
    x.render catalog = x.render [] := by
  unfold render
  rw [catalog.resolve_eq_withKind hf]
  cases href : Catalog.resolve [] x.field with
  | error e => rfl
  | ok ref =>
    simp only [Except.map, bind, Except.bind, searchesWords_withKind href hx]
    rfl

/-! ## Queries -/

namespace Expr

/-- Whether a clause of a condition asks for the kind of a field that is called by its id. -/
def asksKind (catalog : Catalog) : Expr → Bool
  | compare x => x.asksKind catalog
  | call x => x.asksKind catalog
  | and l r => l.asksKind catalog || r.asksKind catalog
  | or l r => l.asksKind catalog || r.asksKind catalog
  | not e => e.asksKind catalog
  | client _ => false

/-- Whether a condition is written without the catalog as it is with it. -/
structure Plainly (catalog : Catalog) (e : Expr) : Prop where
  named : ∀ f ∈ e.fields, f.needsCatalog = false
  kinds : e.asksKind catalog = false

variable {catalog : Catalog} {e : Expr}

theorem Plainly.conjunct (h : e.Plainly catalog) : ∀ c ∈ e.conjuncts, c.Plainly catalog := by
  induction e with
  | and l r ihl ihr =>
    obtain ⟨hl, hr⟩ := List.forall_mem_append.1 h.named
    obtain ⟨hkl, hkr⟩ := Bool.or_eq_false_iff.1 h.kinds
    exact List.forall_mem_append.2 ⟨ihl ⟨hl, hkl⟩, ihr ⟨hr, hkr⟩⟩
  | compare | call | or | not | client => exact List.forall_mem_singleton.2 h

theorem Plainly.render_eq_nil (h : e.Plainly catalog) (s : Surrounding) :
    e.render catalog s = e.render [] s := by
  induction e generalizing s with
  | compare x => exact Comparison.render_eq_nil (h.named _ (List.mem_singleton_self _)) h.kinds
  | call x => exact MethodCall.render_eq_nil (h.named _ (List.mem_singleton_self _)) h.kinds
  | and l r ihl ihr | or l r ihl ihr =>
    obtain ⟨hl, hr⟩ := List.forall_mem_append.1 h.named
    obtain ⟨hkl, hkr⟩ := Bool.or_eq_false_iff.1 h.kinds
    rw [render, render, ihl ⟨hl, hkl⟩, ihr ⟨hr, hkr⟩]
  | not e ih => rw [render, render, ih ⟨h.named, h.kinds⟩]
  | client f => rfl

end Expr

namespace Translation

variable {catalog : Catalog}

theorem renderConjuncts_eq_nil {es : List Expr} (h : ∀ e ∈ es, e.Plainly catalog) :
    renderConjuncts catalog es = renderConjuncts [] es := by
  unfold renderConjuncts
  split
  · next e => exact (h e (List.mem_singleton_self e)).render_eq_nil .nothing
  · rw [mapM_congr_of_mem fun e he => (h e he).render_eq_nil .conjunction]

theorem renderOrdering_eq_nil {o : Field × Direction} (ho : o.1.needsCatalog = false) :
    renderOrdering catalog o = renderOrdering [] o := by
  unfold renderOrdering
  rw [catalog.resolve_eq_withKind ho]
  cases Catalog.resolve [] o.1 with
  | error e => rfl
  | ok ref => rfl

end Translation

/-- A query that calls no custom field by its name is translated without the catalog as with it, if no
clause asks for the kind of a field that it calls by its id. -/
theorem translate_eq_nil {catalog : Catalog} {serverMax : UInt32} {ops : List Operator}
    (hnamed : ∀ op ∈ ops, ∀ f ∈ op.fields, f.needsCatalog = false)
    (hkinds : ∀ e ∈ conditions ops, e.asksKind catalog = false) :
    translate catalog serverMax ops = translate [] serverMax ops := by
  unfold translate
  cases hd : Draft.ofOperators ops with
  | error e => rfl
  | ok d =>
    have hremote : ∀ c ∈ d.remote, c.Plainly catalog := by
      intro c hc
      have hmem : c ∈ (conditions ops).flatMap Expr.conjuncts :=
        Draft.conjuncts_ofOperators hd ▸ List.mem_of_mem_filter hc
      obtain ⟨e, he, hce⟩ := List.mem_flatMap.1 hmem
      have hplain : e.Plainly catalog := ⟨hnamed _ (mem_conditions.1 he), hkinds e he⟩
      exact hplain.conjunct c hce
    have horderings := Draft.orderings_of_foldlM hd hnamed (by simp)
    have hconjuncts := Translation.renderConjuncts_eq_nil hremote
    have hordered : d.orderings.mapM (Translation.renderOrdering catalog) =
        d.orderings.mapM (Translation.renderOrdering []) :=
      mapM_congr_of_mem fun o ho => Translation.renderOrdering_eq_nil (horderings o ho)
    show Translation.ofDraft catalog serverMax d = Translation.ofDraft [] serverMax d
    unfold Translation.ofDraft
    rw [hconjuncts, hordered]

end JiraQuery
