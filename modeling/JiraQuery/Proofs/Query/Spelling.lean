import JiraQuery.Proofs.Query.Clause
import JiraQuery.Proofs.Query.Grouping

/-!
# Spellings of one search

A condition may be written as a comparison or as a call. On a field that is searched by words, equality,
likeness and containment of one value are one search; on any other field, so are membership in a list and
containment of its values, however the arguments of the call are grouped. Each of the two is written by
its own path, which resolves, checks and joins by itself. Main statement: `spellings_alike`.
-/

namespace JiraQuery

/-! ## Fields and values -/

/-- Whether a field is found, and is free text that holds a single value. -/
def Catalog.searchesWords (catalog : Catalog) (f : Field) : Bool :=
  match catalog.resolve f with
  | .ok ref => ref.text && !ref.multi
  | .error _ => false

namespace Literal

def isList : Literal → Bool
  | list _ => true
  | _ => false

/-- Arguments that stand for values in their order: a value is an argument of its own, or it is in a list
with those next to it. -/
inductive Groups : List Literal → List Literal → Prop
  | nil : Groups [] []
  | alone {v : Literal} {args vs : List Literal} (hv : v.isList = false) (h : Groups args vs) :
      Groups (v :: args) (v :: vs)
  | together (items : List Literal) {args vs : List Literal} (h : Groups args vs) :
      Groups (.list items :: args) (items ++ vs)

/-- Values that are not grouped. -/
theorem Groups.refl {vs : List Literal} (h : ∀ v ∈ vs, v.isList = false) : Groups vs vs := by
  induction vs with
  | nil => exact .nil
  | cons v vs ih =>
    exact .alone (h v List.mem_cons_self) (ih fun w hw => h w (List.mem_cons_of_mem v hw))

theorem spread_of_not_isList {v : Literal} (h : v.isList = false) : v.spread = [v] := by
  cases v with
  | list items => cases h
  | _ => rfl

theorem Groups.flatMap_spread {args vs : List Literal} (h : Groups args vs) :
    args.flatMap spread = vs := by
  induction h with
  | nil => rfl
  | alone hv _ ih => rw [List.flatMap_cons, spread_of_not_isList hv, ih, List.singleton_append]
  | together items _ ih => rw [List.flatMap_cons, spread, ih]

/-- A single value is checked by itself as it is in a list. -/
theorem checkFinite_singleton (v : Literal) : (list [v]).checkFinite = v.checkFinite := by
  have hitem : (list [v]).notFinite? = v.notFinite? := by
    rw [notFinite?, notFiniteItem?, notFiniteItem?, Option.or_none]
  rw [checkFinite, checkFinite, hitem]

end Literal

/-! ## Searches by words -/

section Words
variable {catalog : Catalog} {f : Field} {v : Literal}

theorem Catalog.resolve_of_searchesWords (h : catalog.searchesWords f) :
    ∃ ref, catalog.resolve f = .ok ref ∧ ref.text = true ∧ ref.multi = false := by
  unfold searchesWords at h
  split at h
  · next ref href => exact ⟨ref, href, by simpa using h⟩
  · cases h

/-- What all spellings of a search by words come to. -/
def wordsClause (catalog : Catalog) (f : Field) (v : Literal) : Except TranslationError String := do
  let ref ← catalog.resolve f
  v.checkFinite
  return ref.name ++ " " ++ CompareOp.like.token ++ " " ++ v.render

theorem render_compare_words {op : CompareOp} (hop : op = .eq ∨ op = .like)
    (hf : catalog.searchesWords f) (hlist : v.isList = false) (hempty : v.isEmpty = false) :
    Comparison.render catalog { field := f, op, value := v } = wordsClause catalog f v := by
  obtain ⟨ref, href, htext, -⟩ := Catalog.resolve_of_searchesWords hf
  have hoperator : Comparison.operatorOn { field := f, op, value := v } ref = .like := by
    obtain rfl | rfl := hop
    · exact if_pos (by rw [htext]; rfl)
    · rfl
  have hoperand : v.operand f .like = .ok v.render := by
    cases v with
    | list items => cases hlist
    | _ => rfl
  unfold Comparison.render wordsClause
  rw [href]
  show (v.checkFinite >>= fun _ => if v.isEmpty then _ else v.operand f _ >>= fun text => .ok (_ ++ text)) = _
  rw [hempty, hoperator, hoperand]
  rfl

theorem render_contains_words (hf : catalog.searchesWords f) (hlist : v.isList = false)
    (hempty : v.isEmpty = false) :
    MethodCall.render catalog ⟨.contains, f, [v]⟩ = wordsClause catalog f v := by
  obtain ⟨ref, href, htext, hmulti⟩ := Catalog.resolve_of_searchesWords hf
  have hvalues : MethodCall.values ⟨.contains, f, [v]⟩ = [v] :=
    (Literal.Groups.alone hlist .nil).flatMap_spread
  have hrender : MethodCall.renderText ⟨.contains, f, [v]⟩ ref =
      .ok (ref.name ++ " " ++ CompareOp.like.token ++ " " ++ v.render) := by
    rw [← spaced_like]
    unfold MethodCall.renderText
    rw [hvalues]
    cases v with
    | empty => cases hempty
    | _ => rfl
  unfold MethodCall.render wordsClause
  rw [if_neg (not_not_intro rfl), href, hvalues]
  show ((Literal.list [v]).checkFinite >>= fun _ =>
    if ref.text && !ref.multi then MethodCall.renderText ⟨.contains, f, [v]⟩ ref else _) = _
  rw [Literal.checkFinite_singleton, htext, hmulti, hrender]
  rfl

end Words

/-! ## Searches for members -/

section Members
variable {catalog : Catalog} {f : Field} {args vs : List Literal}

/-- What all spellings of a search for one of several values come to. -/
def membersClause (catalog : Catalog) (f : Field) (vs : List Literal) : Except TranslationError String := do
  let ref ← catalog.resolve f
  (Literal.list vs).checkFinite
  return ref.name ++ " " ++ CompareOp.isIn.token ++ " " ++
    ("(" ++ Text.joined ", " (vs.map Literal.render) ++ ")")

theorem render_isIn (hne : vs ≠ []) :
    Comparison.render catalog { field := f, op := .isIn, value := .list vs } =
      membersClause catalog f vs := by
  have hoperand : (Literal.list vs).operand f .isIn =
      .ok ("(" ++ Text.joined ", " (vs.map Literal.render) ++ ")") := by
    cases vs with
    | nil => exact absurd rfl hne
    | cons v vs => rw [← Literal.renderItems_eq_map]; rfl
  unfold Comparison.render membersClause
  cases catalog.resolve f with
  | error e => rfl
  | ok ref =>
    show ((Literal.list vs).checkFinite >>= fun _ => (Literal.list vs).operand f .isIn >>= _) = _
    rw [hoperand]
    rfl

theorem render_contains_members (hf : catalog.searchesWords f = false) (hne : vs ≠ [])
    (h : Literal.Groups args vs) :
    MethodCall.render catalog ⟨.contains, f, args⟩ = membersClause catalog f vs := by
  have hvalues : MethodCall.values ⟨.contains, f, args⟩ = vs := h.flatMap_spread
  have hsome : vs.isEmpty = false := by simpa using hne
  unfold MethodCall.render membersClause
  rw [if_neg (not_not_intro rfl), hvalues]
  cases href : catalog.resolve f with
  | error e => rfl
  | ok ref =>
    have hmembers : (ref.text && !ref.multi) = false := by
      simpa only [Catalog.searchesWords, href] using hf
    show (if vs.isEmpty then _ else (Literal.list vs).checkFinite >>= fun _ =>
      if ref.text && !ref.multi then _ else _) = _
    rw [hsome, hmembers]
    show ((Literal.list vs).checkFinite >>= fun _ => Except.ok (ref.name ++ " in (" ++ _ ++ ")")) = _
    simp only [spaced_isIn]
    rfl

end Members

/-! ## Conditions -/

namespace Expr

/-- Conditions in which some searches are spelled in another way. -/
inductive Respells (catalog : Catalog) : Expr → Expr → Prop
  | refl (e : Expr) : Respells catalog e e
  | symm {e e' : Expr} : Respells catalog e e' → Respells catalog e' e
  | trans {e e' e'' : Expr} : Respells catalog e e' → Respells catalog e' e'' → Respells catalog e e''
  | and {l l' r r' : Expr} :
      Respells catalog l l' → Respells catalog r r' → Respells catalog (.and l r) (.and l' r')
  | or {l l' r r' : Expr} :
      Respells catalog l l' → Respells catalog r r' → Respells catalog (.or l r) (.or l' r')
  | not {e e' : Expr} : Respells catalog e e' → Respells catalog (.not e) (.not e')
  | like_eq {f : Field} {v : Literal} (hf : catalog.searchesWords f) (hlist : v.isList = false)
      (hempty : v.isEmpty = false) : Respells catalog (.like f v) (.eq f v)
  | contains_eq {f : Field} {v : Literal} (hf : catalog.searchesWords f) (hlist : v.isList = false)
      (hempty : v.isEmpty = false) : Respells catalog (.contains f v) (.eq f v)
  | contains_isIn {f : Field} {args vs : List Literal} (hf : catalog.searchesWords f = false)
      (hne : vs ≠ []) (h : Literal.Groups args vs) :
      Respells catalog (.call ⟨.contains, f, args⟩) (.isIn f vs)

variable {catalog : Catalog} {e e' : Expr}

theorem Respells.render_eq (h : e.Respells catalog e') (s : Surrounding) :
    e.render catalog s = e'.render catalog s := by
  induction h generalizing s with
  | refl => rfl
  | symm _ ih => exact (ih s).symm
  | trans _ _ ih ih' => exact (ih s).trans (ih' s)
  | and _ _ ihl ihr | or _ _ ihl ihr => rw [render, render, ihl, ihr]
  | not _ ih => rw [render, render, ih]
  | like_eq hf hlist hempty =>
    exact (render_compare_words (.inr rfl) hf hlist hempty).trans
      (render_compare_words (.inl rfl) hf hlist hempty).symm
  | contains_eq hf hlist hempty =>
    exact (render_contains_words hf hlist hempty).trans
      (render_compare_words (.inl rfl) hf hlist hempty).symm
  | contains_isIn hf hne h => exact (render_contains_members hf hne h).trans (render_isIn hne).symm

theorem Respells.shown_conjuncts (h : e.Respells catalog e') :
    e.conjuncts.map (shown catalog) = e'.conjuncts.map (shown catalog) := by
  induction h with
  | refl => rfl
  | symm _ ih => exact ih.symm
  | trans _ _ ih ih' => exact ih.trans ih'
  | and _ _ ihl ihr => rw [conjuncts, conjuncts, List.map_append, List.map_append, ihl, ihr]
  -- any other condition is one conjunct, which the server evaluates
  | or hl hr => exact congrArg (fun text => [(none, text)]) (funext (Respells.or hl hr).render_eq)
  | not h => exact congrArg (fun text => [(none, text)]) (funext (Respells.not h).render_eq)
  | like_eq hf hlist hempty =>
    exact congrArg (fun text => [(none, text)]) (funext (Respells.like_eq hf hlist hempty).render_eq)
  | contains_eq hf hlist hempty =>
    exact congrArg (fun text => [(none, text)]) (funext (Respells.contains_eq hf hlist hempty).render_eq)
  | contains_isIn hf hne h =>
    exact congrArg (fun text => [(none, text)]) (funext (Respells.contains_isIn hf hne h).render_eq)

end Expr

/-- For every catalog: where a field is searched by words, containment and likeness of a value are written
as its equality is, or refused with the same error. For every other field, known or not, containment of
values is written as membership in their list is, or refused with the same error, in whatever way the
values are grouped into arguments. A query may spell its searches in either way, at any depth of a
condition and at any place of the query. -/
theorem spellings_alike (catalog : Catalog) :
    (∀ (f : Field) (v : Literal), catalog.searchesWords f → v.isList = false → v.isEmpty = false →
      (Expr.contains f v).predicate catalog = (Expr.eq f v).predicate catalog ∧
      (Expr.like f v).predicate catalog = (Expr.eq f v).predicate catalog) ∧
    (∀ (f : Field) (vs : List Literal), catalog.searchesWords f = false → vs ≠ [] →
      (∀ v ∈ vs, v.isList = false) →
      (Expr.containsAny f vs).predicate catalog = (Expr.isIn f vs).predicate catalog ∧
      ∀ args, Literal.Groups args vs →
        (Expr.containsAny f args).predicate catalog = (Expr.isIn f vs).predicate catalog) ∧
    ∀ e e' : Expr, e.Respells catalog e' →
      (∀ s, e.render catalog s = e'.render catalog s) ∧
      ∀ (serverMax : UInt32) (before after : List Operator),
        translate catalog serverMax (before ++ .filter e :: after) =
          translate catalog serverMax (before ++ .filter e' :: after) := by
  refine ⟨fun f v hf hlist hempty => ⟨?_, ?_⟩, fun f vs hf hne hsingle => ⟨?_, fun args h => ?_⟩,
    fun e e' h => ⟨h.render_eq, fun serverMax before after => ?_⟩⟩
  · exact (Expr.Respells.contains_eq hf hlist hempty).render_eq .nothing
  · exact (Expr.Respells.like_eq hf hlist hempty).render_eq .nothing
  · exact (Expr.Respells.contains_isIn hf hne (.refl hsingle)).render_eq .nothing
  · exact (Expr.Respells.contains_isIn hf hne h).render_eq .nothing
  · exact translate_congr_filter before after h.shown_conjuncts

/-- A field of free text, and one that holds a list. -/
def labelledFields : Catalog := [
  { id := "customfield_10001", name := "Notes"
    schema := some { type := "string", custom := some "com.atlassian.jira:textarea" } },
  { id := "customfield_10002", name := "Custom Labels"
    schema := some { type := "array", items := some "string" } }]

def labelValues : List Literal := [.text "a", .text "b", .integer 3]

/-- The same values, of which the last two are grouped. -/
def labelArguments : List Literal := [.text "a", .list [.text "b", .integer 3]]

theorem groups_labelArguments : Literal.Groups labelArguments labelValues :=
  .alone rfl (.together [.text "b", .integer 3] .nil)

/-- The notes are searched by words and the labels are not; there is no field for teams. -/
theorem spellings_alike_labelled :
    labelledFields.searchesWords (.custom "notes") = true ∧
    (Expr.eq (.custom "notes") (.text "x")).predicate labelledFields = .ok "cf[10001] ~ \"x\"" ∧
    (Expr.contains (.custom "notes") (.text "x")).predicate labelledFields = .ok "cf[10001] ~ \"x\"" ∧
    (Expr.like (.custom "notes") (.text "x")).predicate labelledFields = .ok "cf[10001] ~ \"x\"" ∧
    labelledFields.searchesWords (.custom "Custom Labels") = false ∧
    labelledFields.searchesWords (.custom "Team") = false ∧
    labelValues ≠ [] ∧ (∀ v ∈ labelValues, v.isList = false) ∧
    Literal.Groups labelArguments labelValues ∧
    (Expr.isIn (.custom "Custom Labels") labelValues).predicate labelledFields =
      .ok "cf[10002] in (\"a\", \"b\", 3)" ∧
    (Expr.containsAny (.custom "Custom Labels") labelArguments).predicate labelledFields =
      .ok "cf[10002] in (\"a\", \"b\", 3)" ∧
    (Expr.containsAny (.custom "Team") labelValues).predicate labelledFields =
      .error (.unknownField "Team") ∧
    translate labelledFields 100
        [.filter (.not (.containsAny (.custom "Custom Labels") labelArguments)), .take 5] =
      translate labelledFields 100
        [.filter (.not (.isIn (.custom "Custom Labels") labelValues)), .take 5] := by
  have hnotes : labelledFields.searchesWords (.custom "notes") = true := by decide
  have hlabels : labelledFields.searchesWords (.custom "Custom Labels") = false := by decide
  have hteam : labelledFields.searchesWords (.custom "Team") = false := by decide
  have hne : labelValues ≠ [] := by simp [labelValues]
  have hsingle : ∀ v ∈ labelValues, v.isList = false := by simp [labelValues, Literal.isList]
  obtain ⟨hwords, hmembers, hanywhere⟩ := spellings_alike labelledFields
  obtain ⟨hcontains, hlike⟩ := hwords _ (.text "x") hnotes rfl rfl
  obtain ⟨-, hgrouped⟩ := hmembers _ _ hlabels hne hsingle
  obtain ⟨hunknown, -⟩ := hmembers _ _ hteam hne hsingle
  obtain ⟨-, hquery⟩ := hanywhere _ _ (.not (.contains_isIn hlabels hne groups_labelArguments))
  have heq : (Expr.eq (.custom "notes") (.text "x")).predicate labelledFields =
      .ok "cf[10001] ~ \"x\"" := by rfl
  have hisIn : (Expr.isIn (.custom "Custom Labels") labelValues).predicate labelledFields =
      .ok "cf[10002] in (\"a\", \"b\", 3)" := by rfl
  exact ⟨hnotes, heq, hcontains.trans heq, hlike.trans heq, hlabels, hteam, hne, hsingle,
    groups_labelArguments, hisIn, (hgrouped _ groups_labelArguments).trans hisIn, hunknown.trans rfl,
    hquery 100 [] [.take 5]⟩

end JiraQuery
