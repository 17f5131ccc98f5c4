import JiraQuery.Proofs.Query.Clause
import JiraQuery.Proofs.Query.Renaming
import JiraQuery.Proofs.Query.Values

/-!
# What conditions mean

What a condition that was read from a text says about fields and values, with no regard to how the text came
to be written: operands mean values, clauses mean comparisons or calls, and connectives the same ones of a
query. Main statements: `Comparison.compares_of_render` and `MethodCall.calls_of_render`, the clause that a
comparison or a call is written as means it.
-/

namespace JiraQuery

namespace Jql

/-! ## Fields -/

/-- The field that every server has under a name. -/
def systemField? : String → Option SystemField
  | "key" => some .key
  | "summary" => some .summary
  | "description" => some .description
  | "environment" => some .environment
  | "comment" => some .comment
  | "status" => some .status
  | "priority" => some .priority
  | "resolution" => some .resolution
  | "issuetype" => some .issueType
  | "project" => some .project
  | "assignee" => some .assignee
  | "reporter" => some .reporter
  | "labels" => some .labels
  | "component" => some .component
  | "fixVersion" => some .fixVersion
  | "affectedVersion" => some .affectedVersion
  | "created" => some .created
  | "updated" => some .updated
  | "due" => some .dueDate
  | "resolved" => some .resolved
  | "votes" => some .votes
  | _ => none

/-- A term means a field by a name that every server knows, by the number of a custom field in brackets, or by
the name of a custom field that has no number. -/
inductive Term.Means (catalog : Catalog) : Term → Field → Prop
  | system {w : String} {f : SystemField} (hw : systemField? w = some f) : Means catalog (.word w) (.system f)
  | number {name number : String} {f : CustomField} (hf : catalog.named name = [f]) (hnumber : IsNumber number)
      (hid : f.id = "customfield_" ++ number) : Means catalog (.word ("cf[" ++ number ++ "]")) (.custom name)
  | name {name : String} {f : CustomField} (hf : catalog.named name = [f])
      (hid : ∀ number, IsNumber number → f.id ≠ "customfield_" ++ number) :
      Means catalog (.quoted f.name) (.custom name)
  | id {id number : String} (hnumber : IsNumber number) (hid : id = number ∨ id = "customfield_" ++ number) :
      Means catalog (.word ("cf[" ++ number ++ "]")) (.customId id)

/-! ## Values -/

/-- Texts and dates are quoted, numbers and the absence of a value are words. -/
inductive Operand.Means : Operand → Literal → Prop
  | text (s : String) : Means (.term (.quoted s)) (.text s)
  | integer {w : String} {n : Int} (h : integer? w.toList = some n) : Means (.term (.word w)) (.integer n)
  | float {w : String} {x : Float} (h : ReadsDouble w.toList x) : Means (.term (.word w)) (.float x)
  | date {s : String} {d : Date} (h : day? s.toList = some (d.year, d.month, d.day)) :
      Means (.term (.quoted s)) (.date d)
  /-- Minutes are not divided. -/
  | dateTime {s : String} {t : DateTime}
      (h : minute? s.toList = some ((t.date.year, t.date.month, t.date.day), (t.hour : ℕ), (t.minute : ℕ))) :
      Means (.term (.quoted s)) (.dateTime t)
  | empty {w : String} (h : isKeyword "empty" w) : Means (.term (.word w)) .empty

/-- Operands mean values one by one, and those of a list among the values in its place. -/
inductive OperandsMean : List Operand → List Literal → Prop
  | nil : OperandsMean [] []
  | value {v : Operand} {x : Literal} {vs : List Operand} {xs : List Literal} (hv : v.Means x)
      (hvs : OperandsMean vs xs) : OperandsMean (v :: vs) (x :: xs)
  | list {us vs : List Operand} {items xs : List Literal} (hus : List.Forall₂ Operand.Means us items)
      (hvs : OperandsMean vs xs) : OperandsMean (us ++ vs) (.list items :: xs)

/-! ## Clauses -/

variable (catalog : Catalog)

/-- A clause means a comparison with the operator that it has. On free text, a search for words means a
comparison for equality, unless that was meant exactly. -/
inductive Clause.Compares : Clause → Comparison → Prop
  | isEmpty {t : Term} {f : Field} {exact : Bool} (ht : t.Means catalog f) :
      Compares (.emptiness t false) ⟨f, .eq, .empty, exact⟩
  | isNotEmpty {t : Term} {f : Field} {exact : Bool} (ht : t.Means catalog f) :
      Compares (.emptiness t true) ⟨f, .ne, .empty, exact⟩
  | isIn {t : Term} {f : Field} {vs : List Operand} {x : Literal} {exact : Bool} (ht : t.Means catalog f)
      (hvs : OperandsMean vs [x]) : Compares (.membership t false vs) ⟨f, .isIn, x, exact⟩
  | notIn {t : Term} {f : Field} {vs : List Operand} {x : Literal} {exact : Bool} (ht : t.Means catalog f)
      (hvs : OperandsMean vs [x]) : Compares (.membership t true vs) ⟨f, .notIn, x, exact⟩
  | words {t : Term} {f : Field} {ref : FieldRef} {v : Operand} {x : Literal} (ht : t.Means catalog f)
      (href : catalog.resolve f = .ok ref) (htext : ref.text) (hv : v.Means x) :
      Compares (.comparison t .like v) ⟨f, .eq, x, false⟩
  | otherWords {t : Term} {f : Field} {ref : FieldRef} {v : Operand} {x : Literal} (ht : t.Means catalog f)
      (href : catalog.resolve f = .ok ref) (htext : ref.text) (hv : v.Means x) :
      Compares (.comparison t .notLike v) ⟨f, .ne, x, false⟩
  | sign {t : Term} {f : Field} {ref : FieldRef} {op : CompareOp} {v : Operand} {x : Literal} {exact : Bool}
      (ht : t.Means catalog f) (href : catalog.resolve f = .ok ref)
      (hexact : op = .eq ∨ op = .ne → ref.text → exact) (hv : v.Means x) :
      Compares (.comparison t op v) ⟨f, op, x, exact⟩

/-- A clause means a call for what a field contains: the words of a text, or one of several values. -/
inductive Clause.Calls : Clause → MethodCall → Prop
  | words {t : Term} {f : Field} {ref : FieldRef} {v : Operand} {args : List Literal} (ht : t.Means catalog f)
      (href : catalog.resolve f = .ok ref) (htext : ref.text) (hmulti : ref.multi = false)
      (hv : OperandsMean [v] args) : Calls (.comparison t .like v) ⟨.contains, f, args⟩
  | members {t : Term} {f : Field} {ref : FieldRef} {vs : List Operand} {args : List Literal}
      (ht : t.Means catalog f) (href : catalog.resolve f = .ok ref) (hmulti : ref.text → ref.multi)
      (hvs : OperandsMean vs args) : Calls (.membership t false vs) ⟨.contains, f, args⟩

/-- A condition means an expression with the same connectives, clause by clause. -/
inductive Condition.Means : Condition → Expr → Prop
  | compare {c : Clause} {x : Comparison} (h : c.Compares catalog x) : Means (.clause c) (.compare x)
  | call {c : Clause} {x : MethodCall} (h : c.Calls catalog x) : Means (.clause c) (.call x)
  | and {x y : Condition} {l r : Expr} (hl : Means x l) (hr : Means y r) : Means (.join .and x y) (.and l r)
  | or {x y : Condition} {l r : Expr} (hl : Means x l) (hr : Means y r) : Means (.join .or x y) (.or l r)
  | not {x : Condition} {e : Expr} (h : Means x e) : Means (.not x) (.not e)

end Jql

open Jql (Term Operand Clause Condition)

/-! ## What is written -/

section
variable {catalog : Catalog}

theorem isNumber_of_customFieldNumber? {id number : String} (h : customFieldNumber? id = some number) :
    IsNumber number := by
  refine ⟨?_, isDigit_of_customFieldNumber? h⟩
  obtain ⟨ds, -, hds⟩ := Option.bind_eq_some_iff.1 h
  split at hds
  · next hdigits =>
    obtain rfl : String.ofList ds = number := by simpa using hds
    rintro hempty
    simp [String.ofList_eq_empty_iff.1 hempty] at hdigits
  · simp at hds

theorem cases_of_fieldNumber? {id number : String} (h : fieldNumber? id = some number) :
    IsNumber number ∧ (id = number ∨ id = "customfield_" ++ number) := by
  rcases Option.or_eq_some_iff.1 h with h | ⟨-, h⟩
  · exact ⟨isNumber_of_customFieldNumber? h, .inr (eq_of_customFieldNumber? h)⟩
  · split at h
    · next hdigits =>
      obtain rfl : id = number := by simpa using h
      simp only [Bool.and_eq_true, List.all_eq_true, Bool.not_eq_true', String.isEmpty_eq_false_iff] at hdigits
      exact ⟨hdigits, .inl rfl⟩
    · simp at h

theorem systemField?_jqlName (f : SystemField) : Jql.systemField? f.jqlName = some f := by
  cases f <;> rfl

theorem means_of_term? {f : Field} {t : Term} (h : catalog.term? f = some t) : t.Means catalog f := by
  cases f with
  | system f =>
    obtain rfl := Option.some.inj h
    exact .system (systemField?_jqlName f)
  | custom name =>
    simp only [Catalog.term?] at h
    split at h
    · next f hf =>
      obtain rfl := Option.some.inj h
      unfold CustomField.term
      split
      · next number hn => exact .number hf (isNumber_of_customFieldNumber? hn) (eq_of_customFieldNumber? hn)
      · next hn =>
        refine .name hf fun number hnumber hid => ?_
        rw [CustomField.number?, hid, customFieldNumber?_append hnumber] at hn
        cases hn
    · cases h
  | customId id =>
    obtain ⟨number, hn, rfl⟩ := Option.map_eq_some_iff.1 h
    obtain ⟨hnumber, hid⟩ := cases_of_fieldNumber? hn
    exact .id hnumber hid

namespace Literal

variable {x : Literal} {v : Operand}

theorem means_of_operand? (hfinite : x.notFinite? = none) (hv : x.operand? = some v) : v.Means x := by
  cases x with
  | text s =>
    obtain rfl := Option.some.inj hv
    exact .text s
  | integer n =>
    obtain rfl := Option.some.inj hv
    exact .integer (Jql.integer?_toString n)
  | float x =>
    obtain rfl := Option.some.inj hv
    have hx : Number.isFinite x := by
      simpa [notFinite?] using hfinite
    exact .float (Jql.readsDouble_render hx)
  | date d =>
    obtain rfl := Option.some.inj hv
    exact .date (Jql.day?_text d)
  | dateTime t =>
    obtain rfl := Option.some.inj hv
    exact .dateTime (Jql.minute?_text t)
  | empty =>
    obtain rfl := Option.some.inj hv
    exact .empty (by decide)
  | function call => cases hv
  | list items => cases hv

theorem notFinite?_of_mem {xs : List Literal} (h : notFiniteItem? xs = none) :
    ∀ x ∈ xs, x.notFinite? = none := by
  induction xs with
  | nil => exact fun _ hx => nomatch hx
  | cons x xs ih =>
    obtain ⟨hx, hxs⟩ := Option.or_eq_none_iff.1 (by simpa only [notFiniteItem?] using h)
    exact List.forall_mem_cons.2 ⟨hx, ih hxs⟩

theorem notFinite?_of_checkFinite (h : x.checkFinite = .ok ()) : x.notFinite? = none := by
  unfold checkFinite at h
  split at h
  · cases h
  · next hnone => exact hnone

/-- A list is refused for any of its items. -/
theorem notFinite?_of_mem_spread (h : x.notFinite? = none) : ∀ v ∈ x.spread, v.notFinite? = none := by
  cases x with
  | list items =>
    rw [notFinite?] at h
    exact notFinite?_of_mem h
  | _ => exact List.forall_mem_singleton.2 h

theorem forall₂_means {xs : List Literal} {vs : List Operand} (hfinite : ∀ x ∈ xs, x.notFinite? = none)
    (hvs : xs.mapM operand? = some vs) : List.Forall₂ Operand.Means vs xs := by
  induction xs generalizing vs with
  | nil =>
    obtain rfl : vs = [] := by simpa using hvs
    exact .nil
  | cons x xs ih =>
    obtain ⟨hx, hxs⟩ := List.forall_mem_cons.1 hfinite
    obtain ⟨v, hv, us, hus, rfl⟩ : ∃ v, x.operand? = some v ∧ ∃ us, xs.mapM operand? = some us ∧ v :: us = vs := by
      simpa [List.mapM_cons, Option.bind_eq_some_iff] using hvs
    exact .cons (means_of_operand? hx hv) (ih hxs hus)

/-- Arguments mean the operands of their items. -/
theorem operandsMean_of_mapM {xs : List Literal} {vs : List Operand}
    (hfinite : ∀ v ∈ xs.flatMap spread, v.notFinite? = none)
    (hvs : (xs.flatMap spread).mapM operand? = some vs) : Jql.OperandsMean vs xs := by
  induction xs generalizing vs with
  | nil =>
    obtain rfl : vs = [] := by simpa using hvs
    exact .nil
  | cons x xs ih =>
    rw [List.flatMap_cons] at hfinite hvs
    obtain ⟨hx, hxs⟩ := List.forall_mem_append.1 hfinite
    obtain ⟨us, hus, ws, hws, rfl⟩ : ∃ us, x.spread.mapM operand? = some us ∧
        ∃ ws, (xs.flatMap spread).mapM operand? = some ws ∧ us ++ ws = vs := by
      simpa [List.mapM_append, Option.bind_eq_some_iff] using hvs
    have hmeans := forall₂_means hx hus
    cases x with
    | list items => exact .list hmeans (ih hxs hws)
    | _ =>
      obtain _ | ⟨hv, _ | _⟩ := (hmeans : List.Forall₂ Operand.Means us [_])
      exact .value hv (ih hxs hws)

/-- A single value means its operand, in a clause with any operator. -/
theorem means_of_comparison {t : Term} {op : CompareOp} {c : Clause} (hfinite : x.notFinite? = none)
    (hc : (x.operand?.bind fun v => some (Clause.comparison t op v)) = some c) :
    ∃ v, v.Means x ∧ .comparison t op v = c := by
  obtain ⟨v, hv, hc⟩ := Option.bind_eq_some_iff.1 hc
  exact ⟨v, means_of_operand? hfinite hv, Option.some.inj hc⟩

/-- The values of a list mean its operands. -/
theorem means_of_membership {t : Term} {negated : Bool} {c : Clause} {xs : List Literal}
    (hfinite : ∀ v ∈ xs.flatMap spread, v.notFinite? = none)
    (hc : ((xs.flatMap spread).mapM operand?).bind (fun vs => some (Clause.membership t negated vs)) = some c) :
    ∃ vs, Jql.OperandsMean vs xs ∧ .membership t negated vs = c := by
  obtain ⟨vs, hvs, hc⟩ := Option.bind_eq_some_iff.1 hc
  exact ⟨vs, operandsMean_of_mapM hfinite hvs, Option.some.inj hc⟩

end Literal

namespace Comparison

/-- Only a test for members is written as one. -/
theorem op_eq_of_operatorOn {x : Comparison} {ref : FieldRef} {op : CompareOp} (hop : op = .isIn ∨ op = .notIn)
    (h : x.operatorOn ref = op) : x.op = op := by
  unfold operatorOn at h
  split at h
  · split at h <;> simp [← h] at hop
  · split at h <;> simp [← h] at hop
  · exact h

/-- The operator that is written on a field means the one of the comparison. -/
theorem compares_operatorOn {x : Comparison} {t : Term} {ref : FieldRef} {v : Operand}
    (ht : t.Means catalog x.field) (href : catalog.resolve x.field = .ok ref) (hv : v.Means x.value) :
    Clause.Compares catalog (.comparison t (x.operatorOn ref) v) x := by
  obtain ⟨f, op, value, exact⟩ := x
  have hsigned (hwords : ¬(ref.text && !exact) = true) : ref.text → exact := by
    simpa using hwords
  unfold operatorOn
  cases op with
  | eq =>
    dsimp only
    split
    · next hwords =>
      obtain ⟨htext, rfl⟩ : ref.text = true ∧ exact = false := by simpa using hwords
      exact .words ht href htext hv
    · next hwords => exact .sign ht href (fun _ => hsigned hwords) hv
  | ne =>
    dsimp only
    split
    · next hwords =>
      obtain ⟨htext, rfl⟩ : ref.text = true ∧ exact = false := by simpa using hwords
      exact .otherWords ht href htext hv
    · next hwords => exact .sign ht href (fun _ => hsigned hwords) hv
  | _ => exact .sign ht href (by rintro (h | h) <;> cases h) hv

/-- What a comparison is written as means the comparison. -/
theorem compares_of_render {x : Comparison} {c : Clause} {text : String}
    (h : x.render catalog = .ok text) (hc : x.clauseBy? Literal.operand? catalog = some c) :
    c.Compares catalog x := by
  obtain ⟨ref, href, h⟩ := bind_eq_ok_iff.1 h
  obtain ⟨⟨⟩, hfinite, h⟩ := bind_eq_ok_iff.1 h
  have hfinite := Literal.notFinite?_of_checkFinite hfinite
  have hitems : ∀ v ∈ [x.value].flatMap Literal.spread, v.notFinite? = none := by
    rw [List.flatMap_singleton]
    exact Literal.notFinite?_of_mem_spread hfinite
  unfold clauseBy? at hc
  simp only [href, Except.toOption, Option.bind_eq_bind, Option.bind_some, Option.bind_eq_some_iff] at hc
  obtain ⟨t, hterm, hc⟩ := hc
  have ht := means_of_term? hterm
  by_cases hempty : x.value.isEmpty
  · rw [if_pos hempty] at h hc
    obtain rfl := Option.some.inj hc
    obtain ⟨f, op, value, exact⟩ := x
    cases value with
    | empty => cases op with
      | eq => exact .isEmpty ht
      | ne => exact .isNotEmpty ht
      | _ => cases h
    | _ => cases hempty
  · rw [if_neg hempty, ← List.flatMap_singleton Literal.spread x.value] at hc
    split at hc
    · next hop =>
      obtain ⟨vs, hvs, rfl⟩ := Literal.means_of_membership hitems hc
      obtain ⟨f, op, value, exact⟩ := x
      obtain rfl : op = .isIn := op_eq_of_operatorOn (.inl rfl) hop
      exact .isIn ht hvs
    · next hop =>
      obtain ⟨vs, hvs, rfl⟩ := Literal.means_of_membership hitems hc
      obtain ⟨f, op, value, exact⟩ := x
      obtain rfl : op = .notIn := op_eq_of_operatorOn (.inr rfl) hop
      exact .notIn ht hvs
    · obtain ⟨v, hv, rfl⟩ := Literal.means_of_comparison hfinite hc
      exact compares_operatorOn ht href hv

end Comparison

/-- What a call is written as means the call. -/
theorem MethodCall.calls_of_render {x : MethodCall} {c : Clause} {text : String}
    (h : x.render catalog = .ok text) (hc : x.clauseBy? Literal.operand? catalog = some c) :
    c.Calls catalog x := by
  obtain ⟨method, f, args⟩ := x
  unfold render at h
  split at h
  · cases h
  · next hmethod =>
    obtain rfl : method = .contains := by simpa using hmethod
    obtain ⟨ref, href, h⟩ := bind_eq_ok_iff.1 h
    dsimp only at href h
    split at h
    · cases h
    · obtain ⟨⟨⟩, hfinite, -⟩ := bind_eq_ok_iff.1 h
      have hitems : ∀ v ∈ args.flatMap Literal.spread, v.notFinite? = none :=
        Literal.notFinite?_of_mem_spread (Literal.notFinite?_of_checkFinite hfinite)
      simp only [clauseBy?, ne_eq, not_true, if_false, href, Except.toOption, Option.bind_eq_bind, Option.bind_some,
        Option.bind_eq_some_iff] at hc
      obtain ⟨t, hterm, hc⟩ := hc
      have ht := means_of_term? hterm
      cases hwords : ref.text && !ref.multi with
      | true =>
        simp only [hwords, if_true] at hc
        obtain ⟨htext, hmulti⟩ : ref.text = true ∧ ref.multi = false := by simpa using hwords
        split at hc
        · next value hvalues =>
          obtain ⟨v, hv, hc⟩ := Option.bind_eq_some_iff.1 hc
          obtain rfl := Option.some.inj hc
          refine .words ht href htext hmulti (Literal.operandsMean_of_mapM hitems ?_)
          have hargs : args.flatMap Literal.spread = [value] := hvalues
          simp [hargs, hv]
        · cases hc
      | false =>
        simp only [hwords, Bool.false_eq_true, if_false] at hc
        obtain ⟨vs, hvs, rfl⟩ := Literal.means_of_membership hitems hc
        exact .members ht href (fun htext => by simpa [htext] using hwords) hvs

end

end JiraQuery
