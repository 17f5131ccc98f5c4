import JiraQuery.Proofs.Query.Cutting
import JiraQuery.Proofs.Query.Splitting

/-!
# How conditions are grouped

A conjunction is written part by part, whether it stands in one filter or in several and however it is
grouped, and so is a chain of alternatives. What a query makes of a condition is only what it makes of
the conjuncts (`Expr.shown`), of which a different grouping has the same. Main statement:
`translate_grouping`.
-/

namespace JiraQuery

namespace Expr

/-- Conditions that differ in the grouping of chains of one connective only. -/
inductive Regroups : Expr → Expr → Prop
  | refl (e : Expr) : Regroups e e
  | symm {e e' : Expr} : Regroups e e' → Regroups e' e
  | trans {e e' e'' : Expr} : Regroups e e' → Regroups e' e'' → Regroups e e''
  | and {l l' r r' : Expr} : Regroups l l' → Regroups r r' → Regroups (.and l r) (.and l' r')
  | or {l l' r r' : Expr} : Regroups l l' → Regroups r r' → Regroups (.or l r) (.or l' r')
  | not {e e' : Expr} : Regroups e e' → Regroups (.not e) (.not e')
  | and_assoc (a b c : Expr) : Regroups (.and (.and a b) c) (.and a (.and b c))
  | or_assoc (a b c : Expr) : Regroups (.or (.or a b) c) (.or a (.or b c))

variable {catalog : Catalog} {e e' : Expr} {es es' : List Expr}

/-! ## Texts -/

theorem render_and_assoc (catalog : Catalog) (a b c : Expr) (s : Surrounding) :
    (and (and a b) c).render catalog s = (and a (and b c)).render catalog s := by
  simp only [render, Surrounding.enclose, or_true, if_true, bind_assoc, pure_bind, String.append_assoc]

theorem render_or_assoc (catalog : Catalog) (a b c : Expr) (s : Surrounding) :
    (or (or a b) c).render catalog s = (or a (or b c)).render catalog s := by
  simp only [render, Surrounding.enclose, or_true, if_true, bind_assoc, pure_bind, String.append_assoc]

/-- Conditions that are grouped differently have the same text, or the same error. -/
theorem Regroups.render_eq (h : e.Regroups e') (s : Surrounding) :
    e.render catalog s = e'.render catalog s := by
  induction h generalizing s with
  | refl => rfl
  | symm _ ih => exact (ih s).symm
  | trans _ _ ih ih' => exact (ih s).trans (ih' s)
  | and _ _ ihl ihr | or _ _ ihl ihr => rw [render, render, ihl, ihr]
  | not _ ih => rw [render, render, ih]
  | and_assoc a b c => exact render_and_assoc catalog a b c s
  | or_assoc a b c => exact render_or_assoc catalog a b c s

/-! ## Conjuncts -/

/-- All that is made of a conjunct: it is a filter of the client, or it has a text in its surrounding. -/
def shown (catalog : Catalog) (e : Expr) :
    Option ClientFilter × (Surrounding → Except TranslationError String) :=
  (e.clientFilter?, fun s => e.render catalog s)

theorem Regroups.shown_conjuncts (h : e.Regroups e') :
    e.conjuncts.map (shown catalog) = e'.conjuncts.map (shown catalog) := by
  induction h with
  | refl => rfl
  | symm _ ih => exact ih.symm
  | trans _ _ ih ih' => exact ih.trans ih'
  | and _ _ ihl ihr => rw [conjuncts, conjuncts, List.map_append, List.map_append, ihl, ihr]
  | and_assoc a b c => simp only [conjuncts, List.append_assoc]
  -- any other condition is one conjunct, which the server evaluates
  | or hl hr => exact congrArg (fun text => [(none, text)]) (funext (Regroups.or hl hr).render_eq)
  | not h => exact congrArg (fun text => [(none, text)]) (funext (Regroups.not h).render_eq)
  | or_assoc a b c => exact congrArg (fun text => [(none, text)]) (funext (render_or_assoc catalog a b c))

theorem Regroups.foldl_and (h : e.Regroups e') (es : List Expr) :
    (es.foldl Expr.and e).Regroups (es.foldl Expr.and e') := by
  induction es generalizing e e' with
  | nil => exact h
  | cons x es ih => exact ih (h.and (.refl x))

theorem regroups_foldl_and (a e : Expr) (es : List Expr) :
    (es.foldl Expr.and (.and a e)).Regroups (.and a (es.foldl Expr.and e)) := by
  induction es generalizing e with
  | nil => exact .refl _
  | cons x es ih => exact ((Regroups.and_assoc a e x).foldl_and es).trans (ih (.and e x))

/-- A condition is the conjunction of its conjuncts, grouped in another way. -/
theorem exists_conjunction_conjuncts (e : Expr) :
    ∃ e', conjunction? e.conjuncts = some e' ∧ e'.Regroups e := by
  induction e with
  | and l r ihl ihr =>
    obtain ⟨l', hl, hll⟩ := ihl
    obtain ⟨r', hr, hrr⟩ := ihr
    cases hls : l.conjuncts with
    | nil => simp [hls, conjunction?] at hl
    | cons a as =>
      cases hrs : r.conjuncts with
      | nil => simp [hrs, conjunction?] at hr
      | cons b bs =>
        obtain rfl : as.foldl Expr.and a = l' := by simpa [hls, conjunction?] using hl
        obtain rfl : bs.foldl Expr.and b = r' := by simpa [hrs, conjunction?] using hr
        refine ⟨bs.foldl Expr.and (.and (as.foldl Expr.and a) b), ?_, ?_⟩
        · rw [conjuncts, hls, hrs, List.cons_append, conjunction?, List.foldl_append, List.foldl_cons]
        · exact (regroups_foldl_and _ b bs).trans (hll.and hrr)
  | compare | call | or | not | client => exact ⟨_, rfl, .refl _⟩

/-- Conjuncts without filters of the client are all evaluated by the server. -/
theorem filter_isRemote_conjuncts (h : e.clientFilters = []) :
    e.conjuncts.filter isRemote = e.conjuncts := by
  refine List.filter_eq_self.2 fun c hc => ?_
  rw [← flatMap_clientFilters_conjuncts] at h
  have hnone := List.flatMap_eq_nil_iff.1 h c hc
  cases c with
  | client f => cases hnone
  | compare | call | and | or | not => rfl

/-! ## What is made of conjuncts -/

theorem filterMap_clientFilter?_eq (catalog : Catalog) (es : List Expr) :
    es.filterMap clientFilter? = (es.map (shown catalog)).filterMap Prod.fst := by
  rw [List.filterMap_map]
  rfl

theorem map_render_remote (catalog : Catalog) (es : List Expr) :
    (es.filter isRemote).map (fun e s => e.render catalog s) =
      ((es.map (shown catalog)).filter (·.1.isNone)).map Prod.snd := by
  have hremote : isRemote = fun e => (shown catalog e).1.isNone := by
    funext e
    cases e <;> rfl
  rw [List.filter_map, List.map_map, hremote]
  rfl

end Expr

/-- The text of a conjunction depends on the texts of its parts only. -/
theorem Translation.renderConjuncts_congr {catalog : Catalog} {es es' : List Expr}
    (h : es.map (fun e s => e.render catalog s) = es'.map (fun e s => e.render catalog s)) :
    renderConjuncts catalog es = renderConjuncts catalog es' := by
  have hchain : es.mapM (·.render catalog .conjunction) = es'.mapM (·.render catalog .conjunction) := by
    have hmap := congrArg (List.mapM fun text => text Surrounding.conjunction) h
    simpa only [List.mapM_map, Function.comp_def] using hmap
  match es, es', h with
  | [], [], _ => rfl
  | [e], [e'], h => exact congrFun (List.cons.inj h).1 .nothing
  | [e], e' :: f' :: es', h | e :: f :: es, [e'], h => simp at h
  | e :: f :: es, e' :: f' :: es', _ =>
    show (do return Text.joined " AND " (← (e :: f :: es).mapM _) : Except TranslationError String) =
      do return Text.joined " AND " (← (e' :: f' :: es').mapM _)
    rw [hchain]

/-- A draft is written alike if the same is made of its conjuncts. -/
theorem Translation.ofDraft_congr {catalog : Catalog} {es es' : List Expr} (serverMax : UInt32)
    (d : Draft) (h : es.map (Expr.shown catalog) = es'.map (Expr.shown catalog)) :
    ofDraft catalog serverMax { d with conjuncts := es } =
      ofDraft catalog serverMax { d with conjuncts := es' } := by
  have hresidual : Draft.residual { d with conjuncts := es } =
      Draft.residual { d with conjuncts := es' } := by
    rw [Draft.residual_eq, Draft.residual_eq, Expr.filterMap_clientFilter?_eq catalog,
      Expr.filterMap_clientFilter?_eq catalog, h]
  have hremote : renderConjuncts catalog (Draft.remote { d with conjuncts := es }) =
      renderConjuncts catalog (Draft.remote { d with conjuncts := es' }) := by
    apply renderConjuncts_congr
    rw [Draft.remote_eq, Draft.remote_eq, Expr.map_render_remote, Expr.map_render_remote, h]
  unfold ofDraft
  rw [hremote, hresidual]

/-! ## Drafts -/

namespace Draft

/-- Operators append to the conjuncts and do not read them. -/
theorem step_prefix (cs : List Expr) (d : Draft) (op : Operator) :
    step { d with conjuncts := cs ++ d.conjuncts } op =
      (d.step op).map fun d' => { d' with conjuncts := cs ++ d'.conjuncts } := by
  cases op with
  | filter e =>
    show (d.unpaged "Where" >>= fun _ => _) = (d.unpaged "Where" >>= fun _ => _).map _
    cases d.unpaged "Where" with
    | error error => rfl
    | ok => exact congrArg (fun es => Except.ok { d with conjuncts := es }) (List.append_assoc cs _ _)
  | orderBy f dir =>
    show (d.unpaged "OrderBy" >>= fun _ => _) = (d.unpaged "OrderBy" >>= fun _ => _).map _
    cases d.unpaged "OrderBy" <;> rfl
  | thenBy f dir =>
    show (d.unpaged "ThenBy" >>= fun _ => _) = (d.unpaged "ThenBy" >>= fun _ => _).map _
    cases d.unpaged "ThenBy" with
    | error error => rfl
    | ok =>
      show (if d.orderings.isEmpty then _ else _) = (if d.orderings.isEmpty then _ else _ : Except _ _).map _
      split <;> rfl
  | take n | skip n => rfl

theorem foldlM_prefix (cs : List Expr) (d : Draft) (ops : List Operator) :
    ops.foldlM step { d with conjuncts := cs ++ d.conjuncts } =
      (ops.foldlM step d).map fun d' => { d' with conjuncts := cs ++ d'.conjuncts } := by
  induction ops generalizing d with
  | nil => rfl
  | cons op ops ih =>
    rw [List.foldlM_cons, List.foldlM_cons, step_prefix]
    cases d.step op with
    | error e => rfl
    | ok d' => exact ih d'

/-- A conjunction may be filtered by at once or part by part. -/
theorem step_and (d : Draft) (a b : Expr) :
    d.step (.filter (.and a b)) = d.step (.filter a) >>= fun d' => d'.step (.filter b) := by
  show (d.unpaged "Where" >>= fun _ => _) = (d.unpaged "Where" >>= fun _ => _) >>= fun d' => _
  cases h : d.unpaged "Where" with
  | error error => rfl
  | ok =>
    show _ = unpaged { d with conjuncts := d.conjuncts ++ a.conjuncts } "Where" >>= fun _ => _
    have hagain : unpaged { d with conjuncts := d.conjuncts ++ a.conjuncts } "Where" = .ok () := h
    rw [hagain]
    exact congrArg (fun es => Except.ok { d with conjuncts := es })
      (List.append_assoc d.conjuncts a.conjuncts b.conjuncts).symm

/-- The conjuncts of a draft come first, and then those of the operators that follow. -/
theorem foldlM_filter (d : Draft) (e : Expr) (after : List Operator) :
    (.filter e :: after).foldlM step d = d.unpaged "Where" >>= fun _ =>
      (after.foldlM step { d with conjuncts := [] }).map fun d' =>
        { d' with conjuncts := d.conjuncts ++ e.conjuncts ++ d'.conjuncts } := by
  have hprefix := foldlM_prefix (d.conjuncts ++ e.conjuncts) { d with conjuncts := [] } after
  rw [List.append_nil] at hprefix
  rw [List.foldlM_cons, ← hprefix]
  show (d.unpaged "Where" >>= fun _ => _) >>= _ = _
  cases d.unpaged "Where" <;> rfl

end Draft

/-! ## Queries -/

section
variable {catalog : Catalog} {serverMax : UInt32} {e e' : Expr}

/-- A single condition is written as it is by itself. -/
theorem predicate_translate_filter (h : e.clientFilters = []) :
    (translate catalog serverMax [.filter e]).map (·.predicate) = e.predicate catalog := by
  have hremote : Draft.remote { conjuncts := e.conjuncts } = e.conjuncts :=
    Expr.filter_isRemote_conjuncts h
  obtain ⟨e', hconjunction, hregroups⟩ := e.exists_conjunction_conjuncts
  have hpredicate : e'.predicate catalog = e.predicate catalog := hregroups.render_eq .nothing
  show (Translation.ofDraft catalog serverMax { conjuncts := e.conjuncts }).map (·.predicate) = _
  unfold Translation.ofDraft
  rw [hremote, Translation.renderConjuncts_eq, hconjunction, Option.elim_some, hpredicate]
  cases e.predicate catalog <;> rfl

/-- Conditions of which the same is made may stand for each other. -/
theorem translate_congr_filter (before after : List Operator)
    (h : e.conjuncts.map (Expr.shown catalog) = e'.conjuncts.map (Expr.shown catalog)) :
    translate catalog serverMax (before ++ .filter e :: after) =
      translate catalog serverMax (before ++ .filter e' :: after) := by
  unfold translate
  rw [Draft.ofOperators_append, Draft.ofOperators_append]
  cases Draft.ofOperators before with
  | error error => rfl
  | ok d =>
    show (.filter e :: after).foldlM Draft.step d >>= _ = (.filter e' :: after).foldlM Draft.step d >>= _
    rw [Draft.foldlM_filter, Draft.foldlM_filter]
    cases d.unpaged "Where" with
    | error error => rfl
    | ok =>
      show (after.foldlM Draft.step { d with conjuncts := [] }).map _ >>= _ =
        (after.foldlM Draft.step { d with conjuncts := [] }).map _ >>= _
      cases after.foldlM Draft.step { d with conjuncts := [] } with
      | error error => rfl
      | ok d' =>
        refine Translation.ofDraft_congr serverMax d' ?_
        simp only [List.map_append, h]

end

/-- A condition that the server evaluates as a whole is written alike in a query and by itself, or refused
with the same error. A filter by a conjunction is the same as two filters by its parts, wherever it stands
in a query. Conditions that differ in the grouping of chains only have the same text, or the same error,
and a query may have one in place of the other. -/
theorem translate_grouping (catalog : Catalog) (serverMax : UInt32) :
    (∀ e : Expr, e.clientFilters = [] →
      (translate catalog serverMax [.filter e]).map (·.predicate) = e.predicate catalog) ∧
    (∀ (a b : Expr) (before after : List Operator),
      translate catalog serverMax (before ++ .filter (.and a b) :: after) =
        translate catalog serverMax (before ++ .filter a :: .filter b :: after)) ∧
    (∀ e e' : Expr, e.Regroups e' → e.predicate catalog = e'.predicate catalog ∧
      ∀ before after : List Operator,
        translate catalog serverMax (before ++ .filter e :: after) =
          translate catalog serverMax (before ++ .filter e' :: after)) := by
  refine ⟨fun e => predicate_translate_filter, fun a b before after => ?_, fun e e' h => ⟨?_, ?_⟩⟩
  · unfold translate
    rw [Draft.ofOperators_append, Draft.ofOperators_append]
    simp only [List.foldlM_cons, Draft.step_and, bind_assoc]
  · exact h.render_eq .nothing
  · exact fun before after => translate_congr_filter before after h.shown_conjuncts

/-- Chains of both connectives, grouped to the left. -/
def leftChains : Expr :=
  .and (.and (.eq (.system .project) (.text "A"))
      (.not (.or (.or (.isEmpty (.system .labels)) (.isEmpty (.system .dueDate)))
        (.isEmpty (.system .component)))))
    (.eq (.system .votes) (.integer 3))

/-- The same chains, grouped to the right. -/
def rightChains : Expr :=
  .and (.eq (.system .project) (.text "A"))
    (.and (.not (.or (.isEmpty (.system .labels))
        (.or (.isEmpty (.system .dueDate)) (.isEmpty (.system .component)))))
      (.eq (.system .votes) (.integer 3)))

def chainsText : String :=
  "project = \"A\" AND NOT (labels is EMPTY OR due is EMPTY OR component is EMPTY) AND votes = 3"

theorem translate_grouping_chains :
    leftChains.clientFilters = [] ∧ leftChains.Regroups rightChains ∧
      (translate [] 100 [.filter leftChains]).map (·.predicate) = .ok chainsText ∧
      rightChains.predicate [] = .ok chainsText ∧
      translate [] 100 (uncutQuery ++ .filter leftChains :: mixedCuts) =
        translate [] 100 (uncutQuery ++ .filter rightChains :: mixedCuts) := by
  have htext : leftChains.predicate [] = .ok chainsText := by rfl
  have hregroups : leftChains.Regroups rightChains :=
    .trans (.and (.and (.refl _) (.not (.or_assoc _ _ _))) (.refl _)) (.and_assoc _ _ _)
  obtain ⟨halone, -, hgroups⟩ := translate_grouping [] 100
  obtain ⟨hpredicate, hquery⟩ := hgroups leftChains rightChains hregroups
  exact ⟨rfl, hregroups, (halone leftChains rfl).trans htext, hpredicate.symm.trans htext,
    hquery uncutQuery mixedCuts⟩

end JiraQuery
