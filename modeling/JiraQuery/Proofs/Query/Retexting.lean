import JiraQuery.Proofs.Query.Wording

/-!
# Texts stay within their quotes

The texts of values and the names of custom fields are written between quotes, and a reader finds the end of
each of them whatever is in it. So queries that differ in such texts only are read alike. Calls of functions
are written as they are, and a quote that one of them leaves open takes in what follows it, so that for the
reading of a whole query the quotes in them have to be closed. Main statement: `texts_stay_within_quotes`.
-/

namespace JiraQuery

open Text.Quoted (quote)

variable {raw : List String}

/-! ## Queries -/

theorem Expr.conjuncts_masked (e : Expr) : e.masked.conjuncts = e.conjuncts.map masked := by
  induction e with
  | and l r ihl ihr => rw [masked, conjuncts, conjuncts, List.map_append, ihl, ihr]
  | compare | call | or | not | client => rfl

theorem Expr.isRemote_masked (e : Expr) : e.masked.isRemote = e.isRemote := by
  cases e <;> rfl

theorem Expr.clientFilter?_masked (e : Expr) : e.masked.clientFilter? = e.clientFilter? := by
  cases e <;> rfl

/-- The calls of a condition are those of its conjuncts. -/
theorem Expr.flatMap_calls_conjuncts (e : Expr) : e.conjuncts.flatMap calls = e.calls := by
  induction e with
  | and l r ihl ihr => rw [conjuncts, List.flatMap_append, ihl, ihr, calls]
  | compare | call | or | not | client => exact List.append_nil _

/-- The operator without the texts of its values. -/
def Operator.masked : Operator → Operator
  | filter e => filter e.masked
  | op => op

/-- The draft without the texts of its values. -/
def Draft.masked (d : Draft) : Draft :=
  { d with conjuncts := d.conjuncts.map Expr.masked }

namespace Draft

/-- What an operator does to a draft does not depend on texts. -/
theorem step_masked (d : Draft) (op : Operator) : d.masked.step op.masked = (d.step op).map masked := by
  cases op with
  | filter e =>
    show (d.unpaged "Where" >>= _) = (d.unpaged "Where" >>= _).map _
    cases d.unpaged "Where" with
    | error error => rfl
    | ok _ =>
      show Except.ok { d.masked with conjuncts := d.masked.conjuncts ++ e.masked.conjuncts } =
        Except.ok (masked { d with conjuncts := d.conjuncts ++ e.conjuncts })
      simp only [masked, List.map_append, Expr.conjuncts_masked]
  | orderBy f dir =>
    show (d.unpaged "OrderBy" >>= _) = (d.unpaged "OrderBy" >>= _).map _
    cases d.unpaged "OrderBy" <;> rfl
  | thenBy f dir =>
    show (d.unpaged "ThenBy" >>= _) = (d.unpaged "ThenBy" >>= _).map _
    cases d.unpaged "ThenBy" with
    | error error => rfl
    | ok _ =>
      show (if d.orderings.isEmpty then _ else _) = Except.map _ (if d.orderings.isEmpty then _ else _)
      split <;> rfl
  | take n | skip n => rfl

theorem foldlM_masked (ops : List Operator) (d : Draft) :
    (ops.map Operator.masked).foldlM step d.masked = (ops.foldlM step d).map masked := by
  induction ops generalizing d with
  | nil => rfl
  | cons op ops ih =>
    rw [List.map_cons, List.foldlM_cons, List.foldlM_cons, step_masked]
    cases d.step op with
    | error error => rfl
    | ok d' => exact ih d'

theorem ofOperators_masked (ops : List Operator) :
    ofOperators (ops.map Operator.masked) = (ofOperators ops).map masked :=
  foldlM_masked ops {}

theorem remote_masked (d : Draft) : d.masked.remote = d.remote.map Expr.masked := by
  rw [remote_eq, remote_eq, masked, List.filter_map]
  congr 1
  exact List.filter_congr fun e _ => e.isRemote_masked

theorem residual_masked (d : Draft) : d.masked.residual = d.residual := by
  rw [residual_eq, residual_eq, masked, List.filterMap_map]
  exact List.filterMap_congr fun e _ => e.clientFilter?_masked

theorem abreast_ofOperators {R : Field → Field → Prop} {ops ops' : List Operator}
    (h : List.Forall₂ (Operator.Alike R) (ops.map Operator.masked) (ops'.map Operator.masked)) :
    Abreast (fun d d' => d.masked.Alike R d'.masked) (ofOperators ops) (ofOperators ops') := by
  have hmasked : Together (Draft.Alike R) ((ofOperators ops).map masked) ((ofOperators ops').map masked) := by
    rw [← ofOperators_masked, ← ofOperators_masked]
    exact Draft.Alike.empty.foldlM h
  generalize ofOperators ops = x at hmasked ⊢
  generalize ofOperators ops' = y at hmasked ⊢
  cases x with
  | error e =>
    cases y with
    | error e' => exact .error e e'
    | ok d' => cases hmasked
  | ok d =>
    cases y with
    | error e' => cases hmasked
    | ok d' =>
      cases hmasked with
      | ok halike => exact .ok halike

end Draft

/-- The function calls in a query, which are written as they are. -/
def queryCalls (ops : List Operator) : List String :=
  (conditions ops).flatMap Expr.calls

/-- The calls in what the server is asked to evaluate are calls of the query. -/
theorem mem_queryCalls_of_remote {ops : List Operator} {d : Draft} (hd : Draft.ofOperators ops = .ok d)
    {e : Expr} (he : e ∈ d.remote) : ∀ call ∈ e.calls, call ∈ queryCalls ops := by
  intro call hcall
  rw [Draft.remote_eq] at he
  have he : e ∈ (conditions ops).flatMap Expr.conjuncts :=
    Draft.conjuncts_ofOperators hd ▸ List.mem_of_mem_filter he
  obtain ⟨x, hx, hex⟩ := List.mem_flatMap.1 he
  refine List.mem_flatMap.2 ⟨x, hx, ?_⟩
  rw [← x.flatMap_calls_conjuncts]
  exact List.mem_flatMap.2 ⟨e, hex, hcall⟩

/-- Translations that are the same but for quoted texts in what they write. -/
structure Translation.Retexted (raw : List String) (t t' : Translation) : Prop where
  predicate : Jql.Retexted raw t.predicate t'.predicate
  orderings : List.Forall₂ (fun o o' => Jql.Retexted raw o.1 o'.1 ∧ o.2 = o'.2) t.orderings t'.orderings
  limit_eq : t.limit = t'.limit
  skip_eq : t.skip = t'.skip
  residual_eq : t.residual = t'.residual

theorem bare_direction (dir : Direction) : '"' ∉ dir.token.toList := by
  cases dir <;> decide

namespace Translation

/-- The query texts are the same text, but for quoted texts. -/
theorem Retexted.jql {t t' : Translation} (h : t.Retexted raw t') : Jql.Retexted raw t.jql t'.jql := by
  have hpredicate : t.predicate.isEmpty = t'.predicate.isEmpty := by
    rw [Bool.eq_iff_iff, String.isEmpty_iff, String.isEmpty_iff, h.predicate.eq_empty_iff]
  have hempty : t.orderings.isEmpty = t'.orderings.isEmpty := by
    rw [Bool.eq_iff_iff, List.isEmpty_iff_length_eq_zero, List.isEmpty_iff_length_eq_zero,
      h.orderings.length_eq]
  have horder : Jql.Retexted raw t.orderText t'.orderText := by
    apply Jql.Retexted.joined (by decide)
    rw [List.forall₂_map_left_iff, List.forall₂_map_right_iff]
    apply h.orderings.imp
    rintro ⟨name, dir⟩ ⟨name', _⟩ ⟨hname, rfl⟩
    exact (hname.append (.bare (by decide))).append (.bare (bare_direction dir))
  unfold Translation.jql
  rw [hpredicate, hempty]
  split
  · exact h.predicate
  · have hgap : Jql.Retexted raw (if t'.predicate.isEmpty then "" else " ")
        (if t'.predicate.isEmpty then "" else " ") := by
      split
      · exact .bare (by decide)
      · exact .bare (by decide)
    exact ((h.predicate.append hgap).append (.bare (by decide))).append horder

variable {c c' : Catalog}

theorem abreast_renderConjuncts {es es' : List Expr}
    (h : List.Forall₂ (fun e e' => (∀ call ∈ e.calls, call ∈ raw) ∧ e.masked.Alike (c.Retitles c') e'.masked)
      es es') : Abreast (Jql.Retexted raw) (renderConjuncts c es) (renderConjuncts c' es') := by
  have hchain := Abreast.mapM h fun e e' he => Expr.abreast_render he.2 he.1 .conjunction
  have hjoined : Abreast (Jql.Retexted raw)
      (es.mapM (·.render c .conjunction) >>= fun texts => pure (Text.joined " AND " texts))
      (es'.mapM (·.render c' .conjunction) >>= fun texts => pure (Text.joined " AND " texts)) := by
    apply hchain.bind
    intro texts texts' htexts
    exact .ok (Jql.Retexted.joined (by decide) htexts)
  cases h with
  | nil => exact hjoined
  | cons he hrest =>
    cases hrest with
    | nil => exact Expr.abreast_render he.2 he.1 .nothing
    | cons _ _ => exact hjoined

theorem abreast_renderOrdering {o o' : Field × Direction} (h : c.Retitles c' o.1 o'.1 ∧ o.2 = o'.2) :
    Abreast (fun o o' => Jql.Retexted raw o.1 o'.1 ∧ o.2 = o'.2) (renderOrdering c o)
      (renderOrdering c' o') := by
  apply h.1.retexted.bind
  intro r r' hr
  exact .ok ⟨hr.name, h.2⟩

end Translation

/-- Two queries that are the same but for texts and for fields that are the same but for their quoted names
are translated to the same translation, but for quoted texts, or both are refused. -/
theorem abreast_translate {c c' : Catalog} {ops ops' : List Operator} (serverMax : UInt32)
    (h : List.Forall₂ (Operator.Alike (c.Retitles c')) (ops.map Operator.masked) (ops'.map Operator.masked)) :
    Abreast (Translation.Retexted (queryCalls ops)) (translate c serverMax ops)
      (translate c' serverMax ops') := by
  have hdrafts : Abreast (fun d d' => Draft.ofOperators ops = .ok d ∧ d.masked.Alike (c.Retitles c') d'.masked)
      (Draft.ofOperators ops) (Draft.ofOperators ops') :=
    (Draft.abreast_ofOperators h).imp fun d d' hd _ halike => ⟨hd, halike⟩
  apply hdrafts.bind
  rintro d d' ⟨hd, halike⟩
  have hremote := halike.remote
  rw [Draft.remote_masked, Draft.remote_masked, List.forall₂_map_left_iff,
    List.forall₂_map_right_iff] at hremote
  have hcalls : ∀ e ∈ d.remote, ∀ call ∈ e.calls, call ∈ queryCalls ops := fun e => mem_queryCalls_of_remote hd
  have hresidual := halike.residual_eq
  rw [Draft.residual_masked, Draft.residual_masked] at hresidual
  have hlimit : d.limit = d'.limit := halike.limit_eq
  apply (Translation.abreast_renderConjuncts ((List.forall₂_and_left _ _).2 ⟨hcalls, hremote⟩)).bind
  intro predicate predicate' hpredicate
  apply (Abreast.mapM halike.orderings fun o o' => Translation.abreast_renderOrdering).bind
  intro orderings orderings' horderings
  exact .ok ⟨hpredicate, horderings, by rw [hlimit], halike.skip_eq, hresidual⟩

/-! ## Every text, every name -/

theorem Catalog.retitles_of_resolve_eq {c c' : Catalog} {f g : Field} (h : c.resolve f = c'.resolve g) :
    c.Retitles c' f g := by
  apply (Abreast.of_eq h).imp
  rintro r _ - - rfl
  exact ⟨.inl rfl, rfl, rfl⟩

/-- A custom field without a number is written with its quoted name, so that it may have another one. -/
theorem Catalog.retitles_custom {c c' : Catalog} {name name' : String} {f f' : CustomField}
    (hf : c.named name = [f]) (hf' : c'.named name' = [f']) (hn : f.number? = none) (hn' : f'.number? = none)
    (htext : f.isText = f'.isText) (hmulti : f.isMultiValued = f'.isMultiValued) :
    c.Retitles c' (.custom name) (.custom name') := by
  have hresolve : c.resolve (.custom name) = .ok (.ofCustom f) := by simp [resolve, resolveName, hf]
  have hresolve' : c'.resolve (.custom name') = .ok (.ofCustom f') := by simp [resolve, resolveName, hf']
  unfold Retitles
  rw [hresolve, hresolve']
  refine .ok ⟨.inr ⟨f.name, f'.name, ?_, ?_⟩, htext, hmulti⟩
  · simp [FieldRef.ofCustom, hn]
  · simp [FieldRef.ofCustom, hn']

/-- A quoted text is a quote, the text with a backslash in front of each of its backslashes and then in front of
each of its quotes, and a quote. Whatever follows it, it is read as that text and all that follows is left. So a
quoted text and what follows it are told from any other ones, and quoting is injective. Behind a text that is
cut into lexemes a quoted text is one lexeme, and what follows is cut as it is by itself. Two queries that are
the same but for the texts of their values, and for fields that are written with a quoted name, are both
refused, or they are translated to the same text but for quoted texts. Then they are read alike but for what is
in the quotes: the text by its characters and by its lexemes, and the predicate as a condition. Calls of
functions are written as they are, so that all this reading is for calls that close the quotes in them. -/
theorem texts_stay_within_quotes :
    (∀ t, quote t = "\"" ++ String.ofList (Text.Quoted.marked '"' (Text.Quoted.marked '\\' t.toList)) ++ "\"") ∧
    (∀ (t : String) (s : List Char), Text.Quoted.unquote ((quote t).toList ++ s) = some (t.toList, s)) ∧
    (Function.Injective fun r : String × List Char => (quote r.1).toList ++ r.2) ∧
    Function.Injective quote ∧
    (∀ before ls, Jql.Spells before ls → ∀ t after,
      Jql.lexemes? (before.toList ++ ((quote t).toList ++ after)) =
        (Jql.lexemes? after).map (ls ++ .quoted t :: ·)) ∧
    ∀ (c c' : Catalog) (serverMax : UInt32) (ops ops' : List Operator),
      List.Forall₂ (Operator.Alike (c.Retitles c')) (ops.map Operator.masked) (ops'.map Operator.masked) →
      Abreast (fun t t' =>
          Jql.Retexted (queryCalls ops) t.predicate t'.predicate ∧
          Jql.Retexted (queryCalls ops) t.jql t'.jql ∧
          ((∀ call ∈ queryCalls ops, Jql.ClosesQuotes call) →
            Jql.InStep t.jql.toList t'.jql.toList ∧
            (Jql.lexemes? t.jql.toList).map (List.map Jql.Lexeme.masked) =
              (Jql.lexemes? t'.jql.toList).map (List.map Jql.Lexeme.masked) ∧
            (Jql.read? t.predicate).map Jql.Condition.masked =
              (Jql.read? t'.predicate).map Jql.Condition.masked))
        (translate c serverMax ops) (translate c' serverMax ops') := by
  refine ⟨?_, ?_, ?_, Text.Quoted.quote_injective, ?_, ?_⟩
  · intro t
    unfold quote Text.Quoted.quoteChars
    rw [Text.Quoted.escape_eq_marked]
    apply String.toList_inj.1
    simp
  · intro t s
    unfold quote
    rw [String.toList_ofList, Text.Quoted.unquote_quote]
  · rintro ⟨t, s⟩ ⟨t', s'⟩ h
    obtain ⟨rfl, rfl⟩ := Text.Quoted.quote_append_inj h
    rfl
  · intro before ls h t after
    exact Jql.lexemes?_quote_append h t after
  · intro c c' serverMax ops ops' h
    apply (abreast_translate serverMax h).imp
    intro t t' _ _ ht
    refine ⟨ht.predicate, ht.jql, fun hcalls => ?_⟩
    have hstep := ht.jql.inStep hcalls
    exact ⟨hstep, hstep.lexemes?_eq, (ht.predicate.inStep hcalls).read?_eq⟩

/-- A field that is written with its quoted name. -/
def severities (name : String) : Catalog := [{ id := "severity", name }]

def severityQuery (name value : String) : List Operator := [
  .filter (.and (.eq (.custom name) (.text value))
    (.isIn (.system .assignee) [.function "membersOf(\"x y\")", .text value])),
  .orderBy (.custom name) .descending]

/-- A name and a value with quotes in them, and with conditions behind these. -/
def breakingName : String := "Severity\" OR ("

def breakingValue : String := "x\" OR project = \"SECRET\\"

theorem texts_stay_within_quotes_severity :
    Jql.Spells "project =" [.word "project", .sign "="] ∧
    Jql.lexemes? ("project =".toList ++ ((quote breakingValue).toList ++ " OR x".toList)) =
      (Jql.lexemes? " OR x".toList).map ([.word "project", .sign "="] ++ .quoted breakingValue :: ·) ∧
    List.Forall₂ (Operator.Alike ((severities "Severity").Retitles (severities breakingName)))
      ((severityQuery "severity" "High").map Operator.masked)
      ((severityQuery breakingName breakingValue).map Operator.masked) ∧
    (∀ call ∈ queryCalls (severityQuery "severity" "High"), Jql.ClosesQuotes call) ∧
    ∃ t t', translate (severities "Severity") 100 (severityQuery "severity" "High") = .ok t ∧
      translate (severities breakingName) 100 (severityQuery breakingName breakingValue) = .ok t' ∧
      t.predicate = "\"Severity\" = \"High\" AND assignee in (membersOf(\"x y\"), \"High\")" ∧
      t'.predicate = "\"Severity\\\" OR (\" = \"x\\\" OR project = \\\"SECRET\\\\\" AND assignee in " ++
        "(membersOf(\"x y\"), \"x\\\" OR project = \\\"SECRET\\\\\")" ∧
      (Jql.lexemes? t.jql.toList).map (List.map Jql.Lexeme.masked) =
        (Jql.lexemes? t'.jql.toList).map (List.map Jql.Lexeme.masked) ∧
      (Jql.read? t.predicate).map Jql.Condition.masked =
        (Jql.read? t'.predicate).map Jql.Condition.masked := by
  have hbefore : Jql.Spells "project =" [.word "project", .sign "="] := by
    unfold Jql.Spells
    cbv
  have hnamed : (severities "Severity").named "severity" = [{ id := "severity", name := "Severity" }] := by rfl
  have hnamed' : (severities breakingName).named breakingName =
      [{ id := "severity", name := breakingName }] := by rfl
  have hcustom : (severities "Severity").Retitles (severities breakingName) (.custom "severity")
      (.custom breakingName) := Catalog.retitles_custom hnamed hnamed' (by rfl) (by rfl) rfl rfl
  have hassignee : (severities "Severity").Retitles (severities breakingName) (.system .assignee)
      (.system .assignee) := Catalog.retitles_of_resolve_eq rfl
  have hops : List.Forall₂ (Operator.Alike ((severities "Severity").Retitles (severities breakingName)))
      ((severityQuery "severity" "High").map Operator.masked)
      ((severityQuery breakingName breakingValue).map Operator.masked) :=
    .cons (.filter (.and (.compare hcustom .eq (.text "") false)
      (.compare hassignee .isIn (.list [.function "membersOf(\"x y\")", .text ""]) false)))
      (.cons (.orderBy hcustom .descending) .nil)
  have hcalls : ∀ call ∈ queryCalls (severityQuery "severity" "High"), Jql.ClosesQuotes call := by
    have honly : queryCalls (severityQuery "severity" "High") = ["membersOf(\"x y\")"] := rfl
    have hspells : Jql.Spells "membersOf(\"x y\")" [.word "membersOf", .opening, .quoted "x y", .closing] := by
      unfold Jql.Spells
      cbv
    rw [honly]
    exact List.forall_mem_singleton.2 hspells.closesQuotes
  obtain ⟨-, -, -, -, hlexemes, hqueries⟩ := texts_stay_within_quotes
  have hruns := hqueries _ _ 100 _ _ hops
  have ht : translate (severities "Severity") 100 (severityQuery "severity" "High") = .ok
      ⟨"\"Severity\" = \"High\" AND assignee in (membersOf(\"x y\"), \"High\")",
        [("\"Severity\"", .descending)], none, none, []⟩ := by rfl
  have ht' : translate (severities breakingName) 100 (severityQuery breakingName breakingValue) = .ok
      ⟨"\"Severity\\\" OR (\" = \"x\\\" OR project = \\\"SECRET\\\\\" AND assignee in " ++
        "(membersOf(\"x y\"), \"x\\\" OR project = \\\"SECRET\\\\\")",
        [("\"Severity\\\" OR (\"", .descending)], none, none, []⟩ := by rfl
  rw [ht, ht'] at hruns
  cases hruns with
  | ok h =>
    obtain ⟨-, hlexed, hread⟩ := h.2.2 hcalls
    exact ⟨hbefore, hlexemes _ _ hbefore breakingValue _, hops, hcalls, _, _, ht, ht', rfl, rfl, hlexed, hread⟩

/-- A quote that calls leave open takes in what stands between them, and the texts there are read as words. -/
example : (Jql.read? "a = f(\" AND b = \",y,\" AND a = f(\")").isSome ∧
    Jql.read? "a = f(\" AND b = \"y\" AND a = f(\")" = none := by cbv

end JiraQuery
