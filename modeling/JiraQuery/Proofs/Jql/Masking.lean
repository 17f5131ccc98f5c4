import JiraQuery.Proofs.Jql.Grammar
import JiraQuery.Proofs.Jql.InStep

/-!
# Reading without looking into quotes

The reader of conditions takes quoted texts as they are and decides nothing by them: what it reads does not
change, but for the quoted texts in it, if these are changed. The statements `…_masked` say so for each part
of the reader. Main statement: `InStep.read?_eq`, texts that are read in step are read as the same condition
but for what is in the quotes.
-/

namespace JiraQuery.Jql

/-! ## Conditions without what is in their quotes -/

def Term.masked : Term → Term
  | quoted _ => quoted ""
  | t => t

def Operand.masked : Operand → Operand
  | term t => term t.masked
  | call f args => call f (args.map Term.masked)

def Clause.masked : Clause → Clause
  | emptiness f negated => emptiness f.masked negated
  | comparison f op value => comparison f.masked op value.masked
  | membership f negated values => membership f.masked negated (values.map Operand.masked)

def Condition.masked : Condition → Condition
  | clause c => clause c.masked
  | join k l r => join k l.masked r.masked
  | not x => not x.masked

/-- What was read, and what is left, without what is in the quotes. -/
def maskedWith {α β : Type} (mask : α → β) (r : α × List Lexeme) : β × List Lexeme :=
  (mask r.1, r.2.map Lexeme.masked)

/-! ## Clauses -/

theorem moreArguments?_masked (ls : List Lexeme) :
    moreArguments? (ls.map Lexeme.masked) =
      (moreArguments? ls).map (maskedWith (List.map Term.masked)) := by
  fun_induction moreArguments? ls with
  | case1 ls => rfl
  | case2 w ls ih | case3 t ls ih =>
    simp [Lexeme.masked, moreArguments?, ih, maskedWith, Function.comp_def, Term.masked]
  | case4 ls hclosing hword hquoted =>
    cases ls with
    | nil => rfl
    | cons l ls =>
      cases l with
      | closing => exact absurd rfl (hclosing ls)
      | word | quoted | sign | opening => rfl
      | comma =>
        cases ls with
        | nil => rfl
        | cons l ls =>
          cases l with
          | word w => exact absurd rfl (hword w ls)
          | quoted t => exact absurd rfl (hquoted t ls)
          | sign | opening | closing | comma => rfl

theorem arguments?_masked (ls : List Lexeme) :
    arguments? (ls.map Lexeme.masked) = (arguments? ls).map (maskedWith (List.map Term.masked)) := by
  cases ls with
  | nil => rfl
  | cons l ls =>
    cases l with
    | word | quoted =>
      simp [Lexeme.masked, arguments?, moreArguments?_masked, maskedWith, Function.comp_def, Term.masked]
    | sign | opening | closing | comma => rfl

theorem operand?_masked (ls : List Lexeme) :
    operand? (ls.map Lexeme.masked) = (operand? ls).map (maskedWith Operand.masked) := by
  cases ls with
  | nil => rfl
  | cons l ls =>
    cases l with
    | word w =>
      cases ls with
      | nil => rfl
      | cons l ls =>
        cases l with
        | opening =>
          simp [Lexeme.masked, operand?, arguments?_masked, maskedWith, Function.comp_def, Operand.masked]
        | word | quoted | sign | closing | comma => rfl
    | quoted | sign | opening | closing | comma => rfl

/-- Only what is in quotes changes, so that a lexeme of another kind stays what it is. -/
theorem Lexeme.eq_of_masked {l : Lexeme} (h : l.masked ≠ quoted "") : l.masked = l := by
  cases l with
  | quoted => exact absurd rfl h
  | word | sign | opening | closing | comma => rfl

/-- What is left behind a value begins as it does without what is in the quotes. -/
theorem exists_operand?_of_masked {ls rest : List Lexeme} {l : Lexeme} {x : Operand} (hl : l ≠ .quoted "")
    (h : operand? (ls.map Lexeme.masked) = some (x, l :: rest)) :
    ∃ y rest', operand? ls = some (y, l :: rest') := by
  rw [operand?_masked] at h
  obtain ⟨⟨y, left⟩, hy, hmasked⟩ := Option.map_eq_some_iff.1 h
  obtain ⟨-, hleft⟩ := Prod.mk.inj hmasked
  obtain ⟨m, rest', rfl, rfl, -⟩ := List.map_eq_cons_iff.1 hleft
  rw [Lexeme.eq_of_masked hl]
  exact ⟨y, rest', hy⟩

theorem operands?_eq_none {ls : List Lexeme} (hcomma : ∀ x rest, operand? ls ≠ some (x, .comma :: rest))
    (hclosing : ∀ x rest, operand? ls ≠ some (x, .closing :: rest)) : operands? ls = none := by
  rw [operands?]
  split
  · next h => exact absurd h (hcomma _ _)
  · next h => exact absurd h (hclosing _ _)
  · rfl

theorem operands?_masked (ls : List Lexeme) :
    operands? (ls.map Lexeme.masked) = (operands? ls).map (maskedWith (List.map Operand.masked)) := by
  fun_induction operands? ls with
  | case1 ls x rest hx ih =>
    have hmasked : operand? (ls.map Lexeme.masked) = some (x.masked, .comma :: rest.map Lexeme.masked) := by
      rw [operand?_masked, hx]
      rfl
    rw [operands?_comma hmasked, ih, Option.map_map, Option.map_map]
    rfl
  | case2 ls x rest hx =>
    have hmasked : operand? (ls.map Lexeme.masked) =
        some (x.masked, .closing :: rest.map Lexeme.masked) := by
      rw [operand?_masked, hx]
      rfl
    rw [operands?_closing hmasked]
    rfl
  | case3 ls hcomma hclosing =>
    apply operands?_eq_none
    · intro x rest h
      obtain ⟨y, rest', hy⟩ := exists_operand?_of_masked (by decide) h
      exact hcomma y rest' hy
    · intro x rest h
      obtain ⟨y, rest', hy⟩ := exists_operand?_of_masked (by decide) h
      exact hclosing y rest' hy

theorem emptiness?_masked (field : Term) (ls : List Lexeme) :
    emptiness? field.masked (ls.map Lexeme.masked) =
      (emptiness? field ls).map (maskedWith Clause.masked) := by
  cases ls with
  | nil => rfl
  | cons l ls =>
    cases l with
    | quoted | sign | opening | closing | comma => rfl
    | word w =>
      show emptiness? field.masked (.word w :: ls.map Lexeme.masked) = _
      simp only [emptiness?]
      split_ifs with hempty hnot
      · rfl
      · cases ls with
        | nil => rfl
        | cons l ls =>
          cases l with
          | quoted | sign | opening | closing | comma => rfl
          | word v =>
            show (if isKeyword "empty" v then _ else _) =
              Option.map _ (if isKeyword "empty" v then _ else _)
            split_ifs <;> rfl
      · rfl

theorem membership?_masked (field : Term) (negated : Bool) (ls : List Lexeme) :
    membership? field.masked negated (ls.map Lexeme.masked) =
      (membership? field negated ls).map (maskedWith Clause.masked) := by
  cases ls with
  | nil => rfl
  | cons l ls =>
    cases l with
    | opening =>
      show (operands? (ls.map Lexeme.masked)).map _ = ((operands? ls).map _).map _
      rw [operands?_masked, Option.map_map, Option.map_map]
      rfl
    | word | quoted | sign | closing | comma => rfl

theorem relation?_masked (field : Term) (ls : List Lexeme) :
    relation? field.masked (ls.map Lexeme.masked) = (relation? field ls).map (maskedWith Clause.masked) := by
  cases ls with
  | nil => rfl
  | cons l ls =>
    cases l with
    | quoted | opening | closing | comma => rfl
    | sign s =>
      show (signOp? s).bind _ = ((signOp? s).bind _).map _
      cases signOp? s with
      | none => rfl
      | some op =>
        show (operand? (ls.map Lexeme.masked)).map _ = ((operand? ls).map _).map _
        rw [operand?_masked, Option.map_map, Option.map_map]
        rfl
    | word w =>
      show relation? field.masked (.word w :: ls.map Lexeme.masked) = _
      simp only [relation?]
      split_ifs with his hin hnot
      · exact emptiness?_masked field ls
      · exact membership?_masked field false ls
      · cases ls with
        | nil => rfl
        | cons l ls =>
          cases l with
          | quoted | sign | opening | closing | comma => rfl
          | word v =>
            show (if isKeyword "in" v then _ else _) = Option.map _ (if isKeyword "in" v then _ else _)
            split_ifs
            · exact membership?_masked field true ls
            · rfl
      · rfl

theorem clause?_masked (ls : List Lexeme) :
    clause? (ls.map Lexeme.masked) = (clause? ls).map (maskedWith Clause.masked) := by
  cases ls with
  | nil => rfl
  | cons l ls =>
    cases l with
    | word w => exact relation?_masked (.word w) ls
    | quoted t => exact relation?_masked (.quoted t) ls
    | sign | opening | closing | comma => rfl

/-! ## Conditions -/

theorem after?_masked (keyword : String) (ls : List Lexeme) :
    after? keyword (ls.map Lexeme.masked) = (after? keyword ls).map (List.map Lexeme.masked) := by
  cases ls with
  | nil => rfl
  | cons l ls =>
    cases l with
    | quoted | sign | opening | closing | comma => rfl
    | word w =>
      show (if isKeyword keyword w then _ else _) = Option.map _ (if isKeyword keyword w then _ else _)
      split_ifs <;> rfl

/-- What was read and what is left, without the proof that this is shorter. -/
def Read.values {ls : List Lexeme} (r : Read ls) : Option (Condition × List Lexeme) :=
  r.map fun x => (x.1, x.2.1)

theorem Read.length_lt {ls rest : List Lexeme} {r : Read ls} {x : Condition}
    (h : r.values = some (x, rest)) : rest.length < ls.length := by
  obtain ⟨⟨_, left⟩, -, hleft⟩ := Option.map_eq_some_iff.1 h
  obtain ⟨-, rfl⟩ := Prod.mk.inj hleft
  exact left.2

/-- What was read in front of a closing parenthesis. -/
def closed? : Option (Condition × List Lexeme) → Option (Condition × List Lexeme)
  | some (x, .closing :: rest) => some (x, rest)
  | _ => none

theorem closed?_masked (r : Option (Condition × List Lexeme)) :
    closed? (r.map (maskedWith Condition.masked)) = (closed? r).map (maskedWith Condition.masked) := by
  rcases r with _ | ⟨x, _ | ⟨l, rest⟩⟩
  · rfl
  · rfl
  · cases l <;> rfl

theorem values_unit (ls : List Lexeme) : (unit ls).values =
    match after? "not" ls with
    | some inner => (unit inner).values.map fun r => (.not r.1, r.2)
    | none => match ls with
      | .opening :: inner => closed? (chain .or inner).values
      | ls => (clause? ls).map fun r => (.clause r.1, r.2) := by
  rw [unit]
  split
  · next inner hn =>
    simp only [hn]
    cases unit inner <;> rfl
  · next hn =>
    simp only [hn]
    cases ls with
    | nil => rfl
    | cons l inner =>
      cases l with
      | opening =>
        dsimp only
        rcases chain .or inner with _ | ⟨x, ⟨_ | ⟨l, rest⟩, h⟩⟩
        · rfl
        · rfl
        · cases l <;> rfl
      | word | quoted | sign | closing | comma =>
        dsimp only
        split
        · next hc => simp [Read.values, hc]
        · next hc => simp [Read.values, hc]

theorem values_chain (k : Connective) (ls : List Lexeme) : (chain k ls).values =
    (part k ls).values.bind fun r => match after? k.keyword r.2 with
      | some more => (chain k more).values.map fun r' => (.join k r.1 r'.1, r'.2)
      | none => some r := by
  rw [chain]
  rcases part k ls with _ | ⟨x, rest⟩
  · rfl
  · dsimp only
    split
    · next more hr =>
      simp only [Read.values, Option.map_some, Option.bind_some, hr]
      cases chain k more <;> rfl
    · next hr =>
      simp only [Read.values, Option.map_some, Option.bind_some, hr]

theorem values_part_and (ls : List Lexeme) : (part .and ls).values = (unit ls).values := by
  rw [part]

theorem values_part_or (ls : List Lexeme) : (part .or ls).values = (chain .and ls).values := by
  rw [part]

mutual

theorem unit_masked (ls : List Lexeme) :
    (unit (ls.map Lexeme.masked)).values = (unit ls).values.map (maskedWith Condition.masked) := by
  rw [values_unit, values_unit, after?_masked]
  match hn : after? "not" ls with
  | some inner =>
    show (unit (inner.map Lexeme.masked)).values.map _ = ((unit inner).values.map _).map _
    rw [unit_masked inner, Option.map_map, Option.map_map]
    rfl
  | none =>
    cases ls with
    | nil => rfl
    | cons l inner =>
      cases l with
      | opening =>
        show closed? (chain .or (inner.map Lexeme.masked)).values =
          (closed? (chain .or inner).values).map (maskedWith Condition.masked)
        rw [chain_masked .or inner, closed?_masked]
      | word | quoted | sign | closing | comma =>
        show (clause? (List.map Lexeme.masked (_ :: inner))).map _ = ((clause? (_ :: inner)).map _).map _
        rw [clause?_masked, Option.map_map, Option.map_map]
        rfl
termination_by (ls.length, 0)
decreasing_by
  · exact .left _ _ (length_lt_of_after? hn)
  · exact .left _ _ (Nat.lt_succ_self _)

theorem part_masked (k : Connective) (ls : List Lexeme) :
    (part k (ls.map Lexeme.masked)).values = (part k ls).values.map (maskedWith Condition.masked) := by
  match k with
  | .and =>
    rw [values_part_and, values_part_and]
    exact unit_masked ls
  | .or =>
    rw [values_part_or, values_part_or]
    exact chain_masked .and ls
termination_by (ls.length, k.rank)
decreasing_by
  · exact .right _ Nat.zero_lt_one
  · exact .right _ (Nat.lt_succ_self 2)

theorem chain_masked (k : Connective) (ls : List Lexeme) :
    (chain k (ls.map Lexeme.masked)).values = (chain k ls).values.map (maskedWith Condition.masked) := by
  rw [values_chain, values_chain, part_masked k ls]
  match hp : (part k ls).values with
  | none => rfl
  | some (x, rest) =>
    show (match after? k.keyword (rest.map Lexeme.masked) with | some more => _ | none => _) =
      Option.map _ (match after? k.keyword rest with | some more => _ | none => _)
    rw [after?_masked]
    match hr : after? k.keyword rest with
    | none => rfl
    | some more =>
      show (chain k (more.map Lexeme.masked)).values.map _ = ((chain k more).values.map _).map _
      rw [chain_masked k more, Option.map_map, Option.map_map]
      rfl
termination_by (ls.length, k.rank + 1)
decreasing_by
  · exact .right _ (Nat.lt_succ_self _)
  · exact .left _ _ (Nat.lt_trans (length_lt_of_after? hr) (Read.length_lt hp))

end

/-! ## Texts -/

/-- The condition that is read from lexemes, if all of them are read. -/
def whole? : Option (Condition × List Lexeme) → Option Condition
  | some (x, []) => some x
  | _ => none

theorem read?_eq_whole? (text : String) :
    read? text = (lexemes? text.toList).bind fun ls => whole? (chain .or ls).values := by
  unfold read?
  congr 1
  funext ls
  rcases chain .or ls with _ | ⟨x, ⟨_ | ⟨l, rest⟩, h⟩⟩ <;> rfl

theorem whole?_masked (r : Option (Condition × List Lexeme)) :
    whole? (r.map (maskedWith Condition.masked)) = (whole? r).map Condition.masked := by
  rcases r with _ | ⟨x, _ | ⟨l, rest⟩⟩ <;> rfl

/-- What a text is read as is decided by its lexemes without what is in the quotes. -/
theorem map_masked_read? (text : String) : (read? text).map Condition.masked =
    ((lexemes? text.toList).map (List.map Lexeme.masked)).bind fun ls => whole? (chain .or ls).values := by
  rw [read?_eq_whole?]
  cases lexemes? text.toList with
  | none => rfl
  | some ls =>
    show (whole? (chain .or ls).values).map _ = whole? (chain .or (ls.map Lexeme.masked)).values
    rw [chain_masked, whole?_masked]

/-- Texts that are read in step are read as the same condition, but for what is in its quotes, or neither of
them is. -/
theorem InStep.read?_eq {a b : String} (h : InStep a.toList b.toList) :
    (read? a).map Condition.masked = (read? b).map Condition.masked := by
  rw [map_masked_read?, map_masked_read?, h.lexemes?_eq]

end JiraQuery.Jql
