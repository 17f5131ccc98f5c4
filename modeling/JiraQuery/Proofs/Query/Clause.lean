import JiraQuery.Proofs.Jql.Clause
import JiraQuery.Proofs.Outcome
import JiraQuery.Proofs.Query.Word
import JiraQuery.Query.Condition

/-!
# The clauses of a condition

Each comparison and each call of a condition stands for one clause, in terms of the field that it
resolves to and of its values. Main statements: `Comparison.spells_render` and
`MethodCall.spells_render`, the text of a comparison or a call is the written form of its clause in
every reading of values that the texts of the values follow.
-/

namespace JiraQuery

open Jql (Spells Term Operand Clause)

/-! ## Fields -/

/-- How a custom field is called in a clause. -/
def CustomField.term (f : CustomField) : Term :=
  match f.number? with
  | some number => .word (FieldRef.numbered number)
  | none => .quoted f.name

/-- How a field is called in a clause, if it is known. -/
def Catalog.term? (catalog : Catalog) : Field → Option Term
  | .system f => some (.word f.jqlName)
  | .custom name => match catalog.named name with
    | [f] => some f.term
    | _ => none
  | .customId id => (fieldNumber? id).map fun number => .word (FieldRef.numbered number)

/-- A term that is written as a name is, and that is not taken for a negation. -/
structure Names (name : String) (t : Term) : Prop where
  spells : Spells name [t.lexeme]
  not_keyword : ∀ w, t = .word w → Jql.isKeyword "not" w = false

theorem names_numbered {number : String} (h : ∀ c ∈ number.toList, c.isDigit) :
    Names (FieldRef.numbered number) (.word (FieldRef.numbered number)) where
  spells := (isWord_numbered h).spells
  not_keyword w hw := by
    obtain rfl : FieldRef.numbered number = w := by simpa using hw
    simp [Jql.isKeyword, toList_numbered]

theorem names_ofCustom (f : CustomField) : Names (FieldRef.ofCustom f).name f.term := by
  unfold FieldRef.ofCustom CustomField.term
  cases hn : f.number? with
  | some number => exact names_numbered (isDigit_of_customFieldNumber? hn)
  | none => exact ⟨Jql.spells_quote f.name, by simp⟩

theorem names_resolve {catalog : Catalog} {f : Field} {ref : FieldRef}
    (h : catalog.resolve f = .ok ref) : ∃ t, catalog.term? f = some t ∧ Names ref.name t := by
  cases f with
  | system f =>
    obtain rfl : FieldRef.ofSystem f = ref := by simpa [Catalog.resolve] using h
    refine ⟨_, rfl, (isWord_jqlName f).spells, fun w hw => ?_⟩
    obtain rfl : f.jqlName = w := by simpa using hw
    cases f <;> decide
  | custom name =>
    simp only [Catalog.resolve, Catalog.resolveName] at h
    split at h
    · simp at h
    · next f hf =>
      obtain rfl : FieldRef.ofCustom f = ref := by simpa using h
      exact ⟨f.term, by simp only [Catalog.term?, hf], names_ofCustom f⟩
    · simp at h
  | customId id =>
    simp only [Catalog.resolve, Catalog.resolveId] at h
    split at h
    · simp at h
    · next number hn =>
      have hname : FieldRef.numbered number = ref.name := by
        rw [← Except.ok.inj h]
      refine ⟨.word (FieldRef.numbered number), by simp [Catalog.term?, hn], ?_⟩
      rw [← hname]
      exact names_numbered (isDigit_of_fieldNumber? hn)

/-! ## Values -/

namespace Literal

/-- A value by itself: neither a list nor a call that is written as it is. -/
def isScalar : Literal → Bool
  | function _ | list _ => false
  | _ => true

/-- How a single value is called in a clause. -/
def operand? : Literal → Option Operand
  | text s => some (.term (.quoted s))
  | integer n => some (.term (.word (toString n)))
  | float x => some (.term (.word (floatLayout.render x)))
  | date d => some (.term (.quoted d.text))
  | dateTime t => some (.term (.quoted t.text))
  | empty => some (.term (.word "EMPTY"))
  | function _ | list _ => none

/-- Whether a value stands for an operand, in some reading of values, and is written as it. -/
def SpelledBy (operandOf : Literal → Option Operand) (x : Literal) : Prop :=
  ∃ v, operandOf x = some v ∧ Spells x.render v.lexemes

theorem spelledBy_operand? {x : Literal} (h : x.isScalar) : x.SpelledBy operand? := by
  cases x with
  | text s => exact ⟨_, rfl, by rw [render]; exact Jql.spells_quote s⟩
  | integer n => exact ⟨_, rfl, by rw [render]; exact (isWord_integer n).spells⟩
  | float x => exact ⟨_, rfl, by rw [render]; exact (isWord_float x).spells⟩
  | date d => exact ⟨_, rfl, by rw [render]; exact Jql.spells_quote d.text⟩
  | dateTime t => exact ⟨_, rfl, by rw [render]; exact Jql.spells_quote t.text⟩
  | empty => exact ⟨_, rfl, by rw [render]; exact IsWord.spells (by decide)⟩
  | function call => simp [isScalar] at h
  | list items => simp [isScalar] at h

/-- The values of a list, one by one. -/
theorem spells_items {operandOf : Literal → Option Operand} {xs : List Literal}
    (h : ∀ x ∈ xs, x.SpelledBy operandOf) :
    ∃ vs, xs.mapM operandOf = some vs ∧
      List.Forall₂ Spells (xs.map render) (vs.map Operand.lexemes) := by
  induction xs with
  | nil => exact ⟨[], rfl, .nil⟩
  | cons x xs ih =>
    obtain ⟨v, hv, hx⟩ := h x List.mem_cons_self
    obtain ⟨vs, hvs, hxs⟩ := ih fun y hy => h y (List.mem_cons_of_mem x hy)
    exact ⟨v :: vs, by simp [hv, hvs], .cons hx hxs⟩

/-- A list in parentheses, which has as many values as were given. -/
theorem spells_list {operandOf : Literal → Option Operand} {xs : List Literal}
    (h : ∀ x ∈ xs, x.SpelledBy operandOf) (hne : xs ≠ []) :
    ∃ vs, xs.mapM operandOf = some vs ∧ vs ≠ [] ∧
      Spells ("(" ++ Text.joined ", " (xs.map render) ++ ")")
        (.opening :: (Jql.separated (vs.map Operand.lexemes) ++ [.closing])) := by
  obtain ⟨vs, hvs, hall⟩ := spells_items h
  refine ⟨vs, hvs, ?_, (Jql.spells_joined hall).enclosed⟩
  rintro rfl
  have hlength := hall.length_eq
  simp at hlength
  exact hne hlength

/-- Membership takes all the values of a list, of which there are some. -/
theorem operand_membership {x : Literal} {f : Field} {op : CompareOp} {text : String}
    (hop : op = .isIn ∨ op = .notIn) (h : x.operand f op = .ok text) :
    x.spread ≠ [] ∧ text = "(" ++ Text.joined ", " (x.spread.map render) ++ ")" := by
  unfold operand at h
  split at h
  · simp at h
  · simp at h
  · next items hne =>
    obtain rfl := Except.ok.inj h
    exact ⟨fun hnil => hne hnil, by rw [render, renderItems_eq_map]; rfl⟩
  · next items hne =>
    obtain rfl := Except.ok.inj h
    exact ⟨fun hnil => hne hnil, by rw [render, renderItems_eq_map]; rfl⟩
  · next hempty hlist =>
    obtain rfl := Except.ok.inj h
    cases x with
    | list items => exact absurd rfl (hlist items)
    | _ => simp [spread]
  · next hempty hlist =>
    obtain rfl := Except.ok.inj h
    cases x with
    | list items => exact absurd rfl (hlist items)
    | _ => simp [spread]
  · simp at h
  · next hin hnot => rcases hop with rfl | rfl <;> simp_all

/-- Any other operator takes a single value. -/
theorem operand_single {x : Literal} {f : Field} {op : CompareOp} {text : String}
    (hin : op ≠ .isIn) (hnot : op ≠ .notIn) (h : x.operand f op = .ok text) :
    x.spread = [x] ∧ text = x.render := by
  cases x with
  | list items => cases op <;> simp_all [operand]
  | _ => cases op <;> simp_all [operand, spread]

end Literal

/-! ## Comparisons -/

/-- The operator that puts a field into a list, or that keeps it out. -/
def membershipOp : Bool → CompareOp
  | false => .isIn
  | true => .notIn

theorem spells_membership {name list : String} {t : Term} {vs : List Operand} (negated : Bool)
    (ht : Names name t)
    (hlist : Spells list (.opening :: (Jql.separated (vs.map Operand.lexemes) ++ [.closing]))) :
    Spells (name ++ " " ++ (membershipOp negated).token ++ " " ++ list)
      (Clause.membership t negated vs).lexemes := by
  cases negated with
  | false =>
    have hop : Spells (membershipOp false).token [.word "in"] := by
      unfold Spells
      cbv
    exact (ht.spells.spaced hop).spaced hlist
  | true =>
    have hop : Spells (membershipOp true).token [.word "not", .word "in"] := by
      unfold Spells
      cbv
    exact (ht.spells.spaced hop).spaced hlist

theorem proper_membership {name : String} {t : Term} {vs : List Operand} (negated : Bool)
    (ht : Names name t) (hne : vs ≠ []) : (Clause.membership t negated vs).Proper where
  field_ne := ht.not_keyword
  op_mem _ _ _ h := nomatch h
  values_ne _ _ _ h := by
    cases h
    exact hne

theorem spells_comparison {name text : String} {t : Term} {op : CompareOp} {v : Operand}
    (ht : Names name t) (hop : op ∈ Jql.signOps) (hv : Spells text v.lexemes) :
    Spells (name ++ " " ++ op.token ++ " " ++ text) (Clause.comparison t op v).lexemes :=
  (ht.spells.spaced (Jql.spells_token hop)).spaced hv

theorem proper_comparison {name : String} {t : Term} {op : CompareOp} {v : Operand}
    (ht : Names name t) (hop : op ∈ Jql.signOps) : (Clause.comparison t op v).Proper where
  field_ne := ht.not_keyword
  op_mem _ _ _ h := by
    cases h
    exact hop
  values_ne _ _ _ h := nomatch h

namespace Comparison

/-- The clause that a comparison stands for in some reading of values. -/
def clauseBy? (operandOf : Literal → Option Operand) (catalog : Catalog) (x : Comparison) :
    Option Clause := do
  let ref ← (catalog.resolve x.field).toOption
  let t ← catalog.term? x.field
  if x.value.isEmpty then return .emptiness t (x.op = .ne)
  match x.operatorOn ref with
  | .isIn => return .membership t false (← x.value.spread.mapM operandOf)
  | .notIn => return .membership t true (← x.value.spread.mapM operandOf)
  | op => return .comparison t op (← operandOf x.value)

theorem spells_renderEmpty {x : Comparison} {ref : FieldRef} {t : Term} {text : String}
    (ht : Names ref.name t) (h : x.renderEmpty ref = .ok text) :
    (Clause.emptiness t (x.op = .ne)).Proper ∧
      Spells text (Clause.emptiness t (x.op = .ne)).lexemes := by
  refine ⟨⟨ht.not_keyword, by simp, by simp⟩, ?_⟩
  unfold renderEmpty at h
  split at h
  · next hop =>
    obtain rfl : ref.name ++ " is EMPTY" = text := by simpa using h
    have hrest : Spells " is EMPTY" [.word "is", .word "EMPTY"] := by
      unfold Spells
      cbv
    simpa [hop, Clause.lexemes, Clause.field, Clause.relation] using
      ht.spells.append hrest (Jql.breaks_cons (by decide) (by decide))
  · next hop =>
    obtain rfl : ref.name ++ " is not EMPTY" = text := by simpa using h
    have hrest : Spells " is not EMPTY" [.word "is", .word "not", .word "EMPTY"] := by
      unfold Spells
      cbv
    simpa [hop, Clause.lexemes, Clause.field, Clause.relation] using
      ht.spells.append hrest (Jql.breaks_cons (by decide) (by decide))
  · simp at h

theorem spells_render {operandOf : Literal → Option Operand} {catalog : Catalog} {x : Comparison}
    {text : String} (hx : ∀ v ∈ x.value.spread, v.SpelledBy operandOf)
    (h : x.render catalog = .ok text) :
    ∃ c, x.clauseBy? operandOf catalog = some c ∧ c.Proper ∧ Spells text c.lexemes := by
  obtain ⟨ref, href, h⟩ := bind_eq_ok_iff.1 h
  obtain ⟨⟨⟩, -, h⟩ := bind_eq_ok_iff.1 h
  obtain ⟨t, hterm, ht⟩ := names_resolve href
  split at h
  · next hempty =>
    obtain ⟨hproper, hspells⟩ := spells_renderEmpty ht h
    exact ⟨_, by simp [clauseBy?, href, hterm, hempty, Except.toOption], hproper, hspells⟩
  · next hempty =>
    obtain ⟨operand, hoperand, h⟩ := bind_eq_ok_iff.1 h
    obtain rfl := Except.ok.inj h
    by_cases hmember : ∃ negated, x.operatorOn ref = membershipOp negated
    · obtain ⟨negated, hop⟩ := hmember
      have hin : x.operatorOn ref = .isIn ∨ x.operatorOn ref = .notIn := by
        cases negated
        · exact .inl hop
        · exact .inr hop
      obtain ⟨hne, rfl⟩ := Literal.operand_membership hin hoperand
      obtain ⟨vs, hvs, hvsne, hlist⟩ := Literal.spells_list hx hne
      refine ⟨.membership t negated vs, ?_, proper_membership negated ht hvsne, ?_⟩
      · cases negated <;>
          simp [clauseBy?, href, hterm, hempty, Except.toOption, hop, membershipOp, hvs]
      · rw [hop]
        exact spells_membership negated ht hlist
    · have hin : x.operatorOn ref ≠ .isIn := fun h => hmember ⟨false, h⟩
      have hnot : x.operatorOn ref ≠ .notIn := fun h => hmember ⟨true, h⟩
      have hsign : x.operatorOn ref ∈ Jql.signOps := by
        cases h : x.operatorOn ref <;> simp_all [Jql.signOps]
      obtain ⟨hone, rfl⟩ := Literal.operand_single hin hnot hoperand
      obtain ⟨v, hv, hspells⟩ := hx x.value (by simp [hone])
      refine ⟨.comparison t (x.operatorOn ref) v, ?_, proper_comparison ht hsign,
        spells_comparison ht hsign hspells⟩
      simp [clauseBy?, href, hterm, hempty, Except.toOption, hv]

end Comparison

/-! ## Calls -/

/-- A call writes the operator and its spaces at once. -/
theorem spaced_like (name : String) : name ++ " ~ " = name ++ " " ++ CompareOp.like.token ++ " " := by
  rw [String.append_assoc, String.append_assoc]
  rfl

/-- A call writes the operator and the parenthesis at once. -/
theorem spaced_isIn (name list : String) : name ++ " in (" ++ list ++ ")" =
    name ++ " " ++ CompareOp.isIn.token ++ " " ++ ("(" ++ list ++ ")") :=
  String.toList_inj.1 (by simp [CompareOp.token])

namespace MethodCall

/-- The clause that a call stands for in some reading of values. -/
def clauseBy? (operandOf : Literal → Option Operand) (catalog : Catalog) (x : MethodCall) :
    Option Clause := do
  if x.method ≠ .contains then none
  let ref ← (catalog.resolve x.field).toOption
  let t ← catalog.term? x.field
  if ref.text && !ref.multi then
    match x.values with
    | [value] => return .comparison t .like (← operandOf value)
    | _ => none
  else return .membership t false (← x.values.mapM operandOf)

theorem spells_render {operandOf : Literal → Option Operand} {catalog : Catalog} {x : MethodCall}
    {text : String} (hx : ∀ v ∈ x.values, v.SpelledBy operandOf) (h : x.render catalog = .ok text) :
    ∃ c, x.clauseBy? operandOf catalog = some c ∧ c.Proper ∧ Spells text c.lexemes := by
  unfold render at h
  split at h
  · simp at h
  · next hmethod =>
    obtain ⟨ref, href, h⟩ := bind_eq_ok_iff.1 h
    obtain ⟨t, hterm, ht⟩ := names_resolve href
    dsimp only at h
    by_cases hnone : x.values.isEmpty
    · rw [if_pos hnone] at h
      cases h
    · rw [if_neg hnone] at h
      obtain ⟨⟨⟩, -, h⟩ := bind_eq_ok_iff.1 h
      split at h
      · next htext =>
        unfold renderText at h
        split at h
        · simp at h
        · next value _ hvalues =>
          obtain rfl := Except.ok.inj h
          have hmem : value ∈ x.values := by simp [hvalues]
          have hlike : CompareOp.like ∈ Jql.signOps := by decide
          obtain ⟨v, hv, hspells⟩ := hx value hmem
          obtain ⟨htext, hmulti⟩ : ref.text = true ∧ ref.multi = false := by simpa using htext
          refine ⟨.comparison t .like v, ?_, proper_comparison ht hlike, ?_⟩
          · simp [clauseBy?, hmethod, href, hterm, htext, hmulti, Except.toOption, hvalues, hv]
          · rw [spaced_like]
            exact spells_comparison ht hlike hspells
        · simp at h
      · next htext =>
        obtain rfl := Except.ok.inj h
        obtain ⟨vs, hvs, hvsne, hlist⟩ := Literal.spells_list hx (by simpa using hnone)
        have hmulti : ref.text = true → ref.multi = true := by simpa using htext
        refine ⟨.membership t false vs, ?_, proper_membership false ht hvsne, ?_⟩
        · simp [clauseBy?, hmethod, href, hterm, Except.toOption, hvs]
          intro htext hmulti'
          simp [hmulti htext] at hmulti'
        · rw [spaced_isIn]
          exact spells_membership false ht hlist

end MethodCall

end JiraQuery
