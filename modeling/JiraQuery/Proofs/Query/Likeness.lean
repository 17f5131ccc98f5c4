import JiraQuery.Proofs.Query.Drafting

/-!
# What a translation takes from the catalog

The catalog is asked for the fields of a query and for nothing else. Two queries that differ in their
fields only (`Operator.Alike`), each with a catalog of its own, are therefore translated alike if the
catalogs resolve these fields alike, for any notion of being alike that goes along with computing step by
step (`Likeness`). Main statements: `Likeness.translate_alike`, and `Likeness.translate` on one query with
two catalogs.
-/

namespace JiraQuery

/-- A relation of computations with the same results or errors that are alike. It holds of two sequences
of steps if it holds of their first steps and of what follows each result. -/
structure Likeness where
  rel : ∀ {α : Type}, Except TranslationError α → Except TranslationError α → Prop
  refl : ∀ {α : Type} (x : Except TranslationError α), rel x x
  bind : ∀ {α β : Type} {x y : Except TranslationError α} {f g : α → Except TranslationError β},
    rel x y → (∀ a, rel (f a) (g a)) → rel (x >>= f) (y >>= g)

/-! ## Queries that differ in their fields -/

section
variable {R : Field → Field → Prop}

/-- Conditions that are the same but for their fields, which are related one by one. -/
inductive Expr.Alike (R : Field → Field → Prop) : Expr → Expr → Prop
  | compare {f g : Field} (h : R f g) (op : CompareOp) (value : Literal) (exact : Bool) :
      Alike R (.compare ⟨f, op, value, exact⟩) (.compare ⟨g, op, value, exact⟩)
  | call {f g : Field} (h : R f g) (method : Method) (args : List Literal) :
      Alike R (.call ⟨method, f, args⟩) (.call ⟨method, g, args⟩)
  | and {l l' r r' : Expr} : Alike R l l' → Alike R r r' → Alike R (.and l r) (.and l' r')
  | or {l l' r r' : Expr} : Alike R l l' → Alike R r r' → Alike R (.or l r) (.or l' r')
  | not {e e' : Expr} : Alike R e e' → Alike R (.not e) (.not e')
  | client (filter : ClientFilter) : Alike R (.client filter) (.client filter)

/-- Operators that are the same but for their fields. -/
inductive Operator.Alike (R : Field → Field → Prop) : Operator → Operator → Prop
  | filter {e e' : Expr} (h : e.Alike R e') : Alike R (.filter e) (.filter e')
  | orderBy {f g : Field} (h : R f g) (direction : Direction) :
      Alike R (.orderBy f direction) (.orderBy g direction)
  | thenBy {f g : Field} (h : R f g) (direction : Direction) :
      Alike R (.thenBy f direction) (.thenBy g direction)
  | take (count : UInt32) : Alike R (.take count) (.take count)
  | skip (count : UInt32) : Alike R (.skip count) (.skip count)

/-- Drafts that are the same but for their fields. -/
structure Draft.Alike (R : Field → Field → Prop) (d d' : Draft) : Prop where
  conjuncts : List.Forall₂ (Expr.Alike R) d.conjuncts d'.conjuncts
  orderings : List.Forall₂ (fun o o' => R o.1 o'.1 ∧ o.2 = o'.2) d.orderings d'.orderings
  limit_eq : d.limit = d'.limit
  skip_eq : d.skip = d'.skip

theorem Expr.alike_self {e : Expr} (h : ∀ f ∈ e.fields, R f f) : e.Alike R e := by
  induction e with
  | compare x => exact .compare (h _ (List.mem_singleton_self _)) x.op x.value x.exact
  | call x => exact .call (h _ (List.mem_singleton_self _)) x.method x.args
  | and l r ihl ihr =>
    obtain ⟨hl, hr⟩ := List.forall_mem_append.1 h
    exact .and (ihl hl) (ihr hr)
  | or l r ihl ihr =>
    obtain ⟨hl, hr⟩ := List.forall_mem_append.1 h
    exact .or (ihl hl) (ihr hr)
  | not e ih => exact .not (ih h)
  | client f => exact .client f

theorem Operator.alike_self {op : Operator} (h : ∀ f ∈ op.fields, R f f) : op.Alike R op := by
  cases op with
  | filter e => exact .filter (Expr.alike_self h)
  | orderBy f dir => exact .orderBy (h f (List.mem_singleton_self f)) dir
  | thenBy f dir => exact .thenBy (h f (List.mem_singleton_self f)) dir
  | take n => exact .take n
  | skip n => exact .skip n

theorem Expr.Alike.conjuncts {e e' : Expr} (h : e.Alike R e') :
    List.Forall₂ (Expr.Alike R) e.conjuncts e'.conjuncts := by
  induction h with
  | and _ _ ihl ihr => exact List.rel_append ihl ihr
  | compare h op value exact => exact .cons (.compare h op value exact) .nil
  | call h method args => exact .cons (.call h method args) .nil
  | or hl hr => exact .cons (.or hl hr) .nil
  | not h => exact .cons (.not h) .nil
  | client f => exact .cons (.client f) .nil

theorem Expr.filter_isRemote_of_alike {es es' : List Expr} (h : List.Forall₂ (Expr.Alike R) es es') :
    List.Forall₂ (Expr.Alike R) (es.filter isRemote) (es'.filter isRemote) := by
  induction h with
  | nil => exact .nil
  | @cons e e' _ _ he _ ih =>
    have hremote : e.isRemote = e'.isRemote := by cases he <;> rfl
    rw [List.filter_cons, List.filter_cons, hremote]
    split
    · exact .cons he ih
    · exact ih

/-- Filters of the client name no fields. -/
theorem Expr.filterMap_clientFilter?_of_alike {es es' : List Expr}
    (h : List.Forall₂ (Expr.Alike R) es es') :
    es.filterMap clientFilter? = es'.filterMap clientFilter? := by
  induction h with
  | nil => rfl
  | @cons e e' _ _ he _ ih =>
    have hfilter : e.clientFilter? = e'.clientFilter? := by cases he <;> rfl
    rw [List.filterMap_cons, List.filterMap_cons, hfilter, ih]

namespace Draft.Alike

variable {d d' : Draft}

theorem empty : Draft.Alike R {} {} := ⟨.nil, .nil, rfl, rfl⟩

theorem paged_eq (h : d.Alike R d') : d.paged = d'.paged := by
  unfold paged
  rw [h.limit_eq, h.skip_eq]

theorem unpaged (h : d.Alike R d') (operator : String) :
    Together (fun _ _ => True) (d.unpaged operator) (d'.unpaged operator) := by
  unfold Draft.unpaged
  rw [h.paged_eq]
  split
  · exact .error _
  · exact .ok trivial

/-- Operators that differ in their fields are refused alike. -/
theorem step {op op' : Operator} (h : d.Alike R d') (hop : op.Alike R op') :
    Together (Draft.Alike R) (d.step op) (d'.step op') := by
  cases hop with
  | filter he =>
    apply (h.unpaged "Where").bind
    intro _ _ _
    exact .ok ⟨List.rel_append h.conjuncts he.conjuncts, h.orderings, h.limit_eq, h.skip_eq⟩
  | orderBy hf dir =>
    apply (h.unpaged "OrderBy").bind
    intro _ _ _
    exact .ok ⟨h.conjuncts, .cons ⟨hf, rfl⟩ .nil, h.limit_eq, h.skip_eq⟩
  | thenBy hf dir =>
    apply (h.unpaged "ThenBy").bind
    intro _ _ _
    have hempty : d.orderings.isEmpty = d'.orderings.isEmpty := by
      rw [Bool.eq_iff_iff, List.isEmpty_iff_length_eq_zero, List.isEmpty_iff_length_eq_zero,
        h.orderings.length_eq]
    dsimp only
    rw [hempty]
    split
    · exact .error _
    · exact .ok ⟨h.conjuncts, List.rel_append h.orderings (.cons ⟨hf, rfl⟩ .nil), h.limit_eq, h.skip_eq⟩
  | take n => exact .ok ⟨h.conjuncts, h.orderings, by rw [h.limit_eq], h.skip_eq⟩
  | skip n => exact .ok ⟨h.conjuncts, h.orderings, by rw [h.limit_eq], by rw [h.skip_eq]⟩

theorem foldlM {ops ops' : List Operator} (h : d.Alike R d')
    (hops : List.Forall₂ (Operator.Alike R) ops ops') :
    Together (Draft.Alike R) (ops.foldlM Draft.step d) (ops'.foldlM Draft.step d') := by
  induction hops generalizing d d' with
  | nil => exact .ok h
  | cons hop _ ih =>
    rw [List.foldlM_cons, List.foldlM_cons]
    apply (h.step hop).bind
    intro b b' hb
    exact ih hb

theorem residual_eq (h : d.Alike R d') : d.residual = d'.residual := by
  rw [Draft.residual_eq, Draft.residual_eq]
  exact Expr.filterMap_clientFilter?_of_alike h.conjuncts

theorem remote (h : d.Alike R d') : List.Forall₂ (Expr.Alike R) d.remote d'.remote := by
  rw [Draft.remote_eq, Draft.remote_eq]
  exact Expr.filter_isRemote_of_alike h.conjuncts

end Draft.Alike

end

namespace Likeness

variable (L : Likeness) {c c' : Catalog} {R : Field → Field → Prop}

theorem mapM_forall₂ {α β γ : Type} {r : α → β → Prop} {f : α → Except TranslationError γ}
    {g : β → Except TranslationError γ} {xs : List α} {ys : List β} (h : List.Forall₂ r xs ys)
    (hfg : ∀ x y, r x y → L.rel (f x) (g y)) : L.rel (xs.mapM f) (ys.mapM g) := by
  induction h with
  | nil => exact L.refl _
  | cons hxy _ ih =>
    rw [List.mapM_cons, List.mapM_cons]
    exact L.bind (hfg _ _ hxy) fun _ => L.bind ih fun _ => L.refl _

theorem bind_together {α β γ : Type} {r : α → β → Prop} {x : Except TranslationError α}
    {y : Except TranslationError β} {f : α → Except TranslationError γ}
    {g : β → Except TranslationError γ} (h : Together r x y)
    (hfg : ∀ a b, r a b → L.rel (f a) (g b)) : L.rel (x >>= f) (y >>= g) := by
  cases h with
  | error e => exact L.refl _
  | ok hab => exact hfg _ _ hab

/-! ## Conditions -/

/-- Whether two catalogs resolve a field each alike. Errors may name the field, so it is the same one
unless all errors are alike. -/
structure Matches (c c' : Catalog) (f g : Field) : Prop where
  resolve : L.rel (c.resolve f) (c'.resolve g)
  errors : f = g ∨ ∀ {α : Type} (e e' : TranslationError), L.rel (α := α) (.error e) (.error e')

/-- Whether two catalogs resolve a field alike. -/
def Resolves (c c' : Catalog) (f : Field) : Prop :=
  L.rel (c.resolve f) (c'.resolve f)

variable {L}

theorem Matches.operand {f g : Field} (h : L.Matches c c' f g) (op : CompareOp) (value : Literal) :
    L.rel (value.operand f op) (value.operand g op) := by
  rcases h.errors with rfl | herrors
  · exact L.refl _
  · unfold Literal.operand
    split
    · exact herrors _ _
    · exact herrors _ _
    all_goals exact L.refl _

theorem Matches.render_comparison {f g : Field} (h : L.Matches c c' f g) (op : CompareOp)
    (value : Literal) (exact : Bool) :
    L.rel ((Comparison.mk f op value exact).render c) ((Comparison.mk g op value exact).render c') := by
  apply L.bind h.resolve
  intro ref
  apply L.bind (L.refl _)
  intro _
  dsimp only
  split
  · exact L.refl _
  · exact L.bind (h.operand _ value) fun _ => L.refl _

theorem Matches.renderText {f g : Field} (h : L.Matches c c' f g) (method : Method)
    (args : List Literal) (ref : FieldRef) :
    L.rel ((MethodCall.mk method f args).renderText ref) ((MethodCall.mk method g args).renderText ref) := by
  rcases h.errors with rfl | herrors
  · exact L.refl _
  · have hvalues : (MethodCall.mk method f args).values = (MethodCall.mk method g args).values := rfl
    unfold MethodCall.renderText
    rw [hvalues]
    split
    · exact herrors _ _
    · exact L.refl _
    · exact herrors _ _

theorem Matches.render_call {f g : Field} (h : L.Matches c c' f g) (method : Method)
    (args : List Literal) :
    L.rel ((MethodCall.mk method f args).render c) ((MethodCall.mk method g args).render c') := by
  have herror : ∀ {α : Type} (e : Field → TranslationError),
      L.rel (α := α) (.error (e f)) (.error (e g)) := by
    intro α e
    rcases h.errors with rfl | herrors
    · exact L.refl _
    · exact herrors _ _
  have hvalues : (MethodCall.mk method f args).values = (MethodCall.mk method g args).values := rfl
  unfold MethodCall.render
  rw [hvalues]
  split
  · exact herror fun field => .unsupported (.call field method)
  · apply L.bind h.resolve
    intro ref
    dsimp only
    split
    · exact herror fun field => .invalidArgument (.containsNothing field)
    · apply L.bind (L.refl _)
      intro _
      split
      · exact h.renderText method args ref
      · exact L.refl _

theorem Matches.renderOrdering {f g : Field} (h : L.Matches c c' f g) (dir : Direction) :
    L.rel (Translation.renderOrdering c (f, dir)) (Translation.renderOrdering c' (g, dir)) :=
  L.bind h.resolve fun _ => L.refl _

section
variable (hR : ∀ f g, R f g → L.Matches c c' f g)
include hR

theorem render_alike {e e' : Expr} (h : e.Alike R e') (s : Surrounding) :
    L.rel (e.render c s) (e'.render c' s) := by
  induction h generalizing s with
  | compare h op value exact => exact (hR _ _ h).render_comparison op value exact
  | call h method args => exact (hR _ _ h).render_call method args
  | and _ _ ihl ihr => exact L.bind (ihl _) fun _ => L.bind (ihr _) fun _ => L.refl _
  | or _ _ ihl ihr => exact L.bind (ihl _) fun _ => L.bind (ihr _) fun _ => L.refl _
  | not _ ih => exact L.bind (ih _) fun _ => L.refl _
  | client f => exact L.refl _

/-! ## Queries -/

theorem renderConjuncts_alike {es es' : List Expr} (h : List.Forall₂ (Expr.Alike R) es es') :
    L.rel (Translation.renderConjuncts c es) (Translation.renderConjuncts c' es') := by
  have hchain : L.rel (es.mapM (·.render c .conjunction)) (es'.mapM (·.render c' .conjunction)) :=
    L.mapM_forall₂ h fun e e' he => render_alike hR he .conjunction
  have hjoined := L.bind hchain fun texts => L.refl (pure (Text.joined " AND " texts))
  cases h with
  | nil => exact hjoined
  | cons he hrest =>
    cases hrest with
    | nil => exact render_alike hR he .nothing
    | cons _ _ => exact hjoined

/-- Queries that differ in their fields are translated alike with catalogs that resolve the fields
alike. -/
theorem translate_alike {ops ops' : List Operator} (serverMax : UInt32)
    (h : List.Forall₂ (Operator.Alike R) ops ops') :
    L.rel (translate c serverMax ops) (translate c' serverMax ops') := by
  apply L.bind_together (Draft.Alike.empty.foldlM h)
  intro d d' hd
  unfold Translation.ofDraft
  rw [hd.limit_eq, hd.skip_eq, hd.residual_eq]
  apply L.bind (renderConjuncts_alike hR hd.remote)
  intro predicate
  refine L.bind ?_ fun _ => L.refl _
  apply L.mapM_forall₂ hd.orderings
  rintro ⟨f, dir⟩ ⟨g, _⟩ ⟨hfg, rfl⟩
  exact (hR f g hfg).renderOrdering dir

end

variable (L)

/-- A query is translated alike with two catalogs that resolve its fields alike. -/
theorem translate {ops : List Operator} (serverMax : UInt32)
    (h : ∀ op ∈ ops, ∀ f ∈ op.fields, L.Resolves c c' f) :
    L.rel (translate c serverMax ops) (translate c' serverMax ops) := by
  have hself : List.Forall₂ (Operator.Alike fun f g => f = g ∧ L.Resolves c c' f) ops ops := by
    apply List.forall₂_same.2
    intro op hop
    exact Operator.alike_self fun f hf => ⟨rfl, h op hop f hf⟩
  apply translate_alike (L := L) ?_ serverMax hself
  rintro f _ ⟨rfl, hf⟩
  exact ⟨hf, .inl rfl⟩

end Likeness

end JiraQuery
