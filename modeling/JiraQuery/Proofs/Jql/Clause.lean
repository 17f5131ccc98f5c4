import JiraQuery.Proofs.Jql.Rules

/-!
# The written form of clauses

Each clause has lexemes that it is written with. Main statements: `unitReads_clause`, a proper clause
is read back from them as one unit, and `spells_of_call?`, a text that is read as a call is written with
the lexemes of that call.
-/

namespace JiraQuery.Jql

def Term.lexeme : Term → Lexeme
  | word w => .word w
  | quoted t => .quoted t

def Operand.lexemes : Operand → List Lexeme
  | term t => [t.lexeme]
  | call f args => .word f :: .opening :: (separated (args.map ([·.lexeme])) ++ [.closing])

namespace Clause

def field : Clause → Term
  | emptiness f _ => f
  | comparison f _ _ => f
  | membership f _ _ => f

/-- What a clause is written with after its field. -/
def relation : Clause → List Lexeme
  | emptiness _ false => [.word "is", .word "EMPTY"]
  | emptiness _ true => [.word "is", .word "not", .word "EMPTY"]
  | comparison _ op value => .sign op.token :: value.lexemes
  | membership _ false values =>
    .word "in" :: .opening :: (separated (values.map Operand.lexemes) ++ [.closing])
  | membership _ true values =>
    .word "not" :: .word "in" :: .opening :: (separated (values.map Operand.lexemes) ++ [.closing])

def lexemes (c : Clause) : List Lexeme :=
  c.field.lexeme :: c.relation

/-- Whether the written form stands for the clause: a list has values, another operator has a sign,
and the field is not taken for a negation. -/
structure Proper (c : Clause) : Prop where
  field_ne : ∀ w, c.field = .word w → isKeyword "not" w = false
  op_mem : ∀ f op value, c = comparison f op value → op ∈ signOps
  values_ne : ∀ f negated values, c = membership f negated values → values ≠ []

end Clause

theorem spells_token {op : CompareOp} (h : op ∈ signOps) : Spells op.token [.sign op.token] := by
  unfold Spells
  cases op with
  | isIn | notIn => simp [signOps] at h
  | eq | ne | gt | ge | lt | le | like | notLike => cbv

/-! ## Reading it -/

theorem moreArguments?_separated (t : Term) (ts : List Term) (tail : List Lexeme) :
    moreArguments? (.comma :: (separated ((t :: ts).map ([·.lexeme])) ++ .closing :: tail)) =
      some (t :: ts, tail) := by
  induction ts generalizing t with
  | nil => cases t <;> simp [separated, Term.lexeme, moreArguments?]
  | cons u us ih => cases t <;> simp_all [separated, Term.lexeme, moreArguments?]

theorem arguments?_separated (ts : List Term) (tail : List Lexeme) :
    arguments? (separated (ts.map ([·.lexeme])) ++ .closing :: tail) = some (ts, tail) := by
  cases ts with
  | nil => rfl
  | cons t ts =>
    cases ts with
    | nil => cases t <;> simp [separated, Term.lexeme, arguments?, moreArguments?]
    | cons u us =>
      have h := moreArguments?_separated u us tail
      cases t <;> simp_all [separated, Term.lexeme, arguments?]

theorem operand?_lexemes (x : Operand) (tail : List Lexeme) (ht : tail.head? ≠ some .opening) :
    operand? (x.lexemes ++ tail) = some (x, tail) := by
  cases x with
  | call f args =>
    have h := arguments?_separated args tail
    simp [Operand.lexemes, operand?, h]
  | term t =>
    cases t with
    | quoted t => rfl
    | word w =>
      cases tail with
      | nil => rfl
      | cons l tail =>
        cases l with
        | opening => simp at ht
        | word | quoted | sign | closing | comma => rfl

theorem operands?_separated (x : Operand) (xs : List Operand) (tail : List Lexeme) :
    operands? (separated ((x :: xs).map Operand.lexemes) ++ .closing :: tail) =
      some (x :: xs, tail) := by
  induction xs generalizing x with
  | nil =>
    have h := operand?_lexemes x (.closing :: tail) (by simp)
    exact operands?_closing h
  | cons y ys ih =>
    have h := operand?_lexemes x
      (.comma :: (separated ((y :: ys).map Operand.lexemes) ++ .closing :: tail)) (by simp)
    have hlist : separated ((x :: y :: ys).map Operand.lexemes) ++ .closing :: tail =
        x.lexemes ++ .comma :: (separated ((y :: ys).map Operand.lexemes) ++ .closing :: tail) := by
      simp [separated]
    rw [hlist, operands?_comma h, ih]
    rfl

theorem relation?_relation (c : Clause) (hc : c.Proper) (tail : List Lexeme)
    (ht : tail.head? ≠ some .opening) :
    relation? c.field (c.relation ++ tail) = some (c, tail) := by
  cases c with
  | emptiness f negated => cases negated <;> rfl
  | comparison f op value =>
    have hop : ∀ op ∈ signOps, signOp? op.token = some op := by decide
    have h := operand?_lexemes value tail ht
    simp [Clause.relation, Clause.field, relation?, hop op (hc.op_mem f op value rfl), h]
  | membership f negated values =>
    cases values with
    | nil => exact absurd rfl (hc.values_ne f negated [] rfl)
    | cons x xs =>
      have h := operands?_separated x xs tail
      have hm : membership? f negated
          (.opening :: (separated ((x :: xs).map Operand.lexemes) ++ .closing :: tail)) =
            some (.membership f negated (x :: xs), tail) := by
        rw [membership?, h]
        rfl
      cases negated with
      | false => simpa [Clause.relation, Clause.field, relation?, isKeyword] using hm
      | true => simpa [Clause.relation, Clause.field, relation?, isKeyword] using hm

theorem clause?_lexemes (c : Clause) (hc : c.Proper) (tail : List Lexeme)
    (ht : tail.head? ≠ some .opening) : clause? (c.lexemes ++ tail) = some (c, tail) := by
  have h := relation?_relation c hc tail ht
  unfold Clause.lexemes
  cases hf : c.field with
  | word w => rw [hf] at h; exact h
  | quoted t => rw [hf] at h; exact h

theorem unitReads_clause {c : Clause} (hc : c.Proper) : UnitReads c.lexemes (.clause c) := by
  intro tail ht
  refine ⟨.clause c, .refl _, unit_clause ?_ ?_ (clause?_lexemes c hc tail ht)⟩
  · unfold Clause.lexemes
    cases hf : c.field with
    | word w => simp [Term.lexeme, after?, hc.field_ne w hf]
    | quoted t => rfl
  · unfold Clause.lexemes
    cases c.field <;> simp [Term.lexeme]

/-! ## Calls -/

/-- The call that a whole text is read as: a name and its arguments in parentheses. -/
def call? (text : String) : Option Operand :=
  (lexemes? text.toList).bind fun ls => match operand? ls with
    | some (.call f args, []) => some (.call f args)
    | _ => none

theorem lexemes_of_moreArguments? {ls rest : List Lexeme} {ts : List Term} (t : Term)
    (h : moreArguments? ls = some (ts, rest)) :
    t.lexeme :: ls = separated ((t :: ts).map ([·.lexeme])) ++ .closing :: rest := by
  fun_induction moreArguments? ls generalizing t ts with
  | case1 ls =>
    obtain ⟨rfl, rfl⟩ := Prod.mk.inj (Option.some.inj h)
    rfl
  | case2 w ls ih =>
    obtain ⟨⟨us, rest'⟩, hr, hts⟩ := Option.map_eq_some_iff.1 h
    obtain ⟨rfl, rfl⟩ := Prod.mk.inj hts
    exact congrArg (t.lexeme :: .comma :: ·) (ih (.word w) hr)
  | case3 u ls ih =>
    obtain ⟨⟨us, rest'⟩, hr, hts⟩ := Option.map_eq_some_iff.1 h
    obtain ⟨rfl, rfl⟩ := Prod.mk.inj hts
    exact congrArg (t.lexeme :: .comma :: ·) (ih (.quoted u) hr)
  | case4 => cases h

theorem lexemes_of_arguments? {ls rest : List Lexeme} {ts : List Term}
    (h : arguments? ls = some (ts, rest)) :
    ls = separated (ts.map ([·.lexeme])) ++ .closing :: rest := by
  unfold arguments? at h
  split at h
  · obtain ⟨rfl, rfl⟩ := Prod.mk.inj (Option.some.inj h)
    rfl
  · next w ls =>
    obtain ⟨⟨us, rest'⟩, hr, hts⟩ := Option.map_eq_some_iff.1 h
    obtain ⟨rfl, rfl⟩ := Prod.mk.inj hts
    exact lexemes_of_moreArguments? (.word w) hr
  · next t ls =>
    obtain ⟨⟨us, rest'⟩, hr, hts⟩ := Option.map_eq_some_iff.1 h
    obtain ⟨rfl, rfl⟩ := Prod.mk.inj hts
    exact lexemes_of_moreArguments? (.quoted t) hr
  · cases h

theorem lexemes_of_operand?_call {ls rest : List Lexeme} {f : String} {args : List Term}
    (h : operand? ls = some (.call f args, rest)) : ls = (Operand.call f args).lexemes ++ rest := by
  unfold operand? at h
  split at h
  · cases h
  · obtain ⟨⟨us, rest'⟩, hr, hpair⟩ := Option.map_eq_some_iff.1 h
    obtain ⟨hcall, hrest⟩ := Prod.mk.inj hpair
    obtain ⟨rfl, rfl⟩ := Operand.call.inj hcall
    rw [lexemes_of_arguments? hr, ← hrest]
    simp [Operand.lexemes]
  · cases h
  · cases h

/-- A text that is read as a call is the written form of that call. -/
theorem spells_of_call? {text : String} {v : Operand} (h : call? text = some v) :
    Spells text v.lexemes := by
  obtain ⟨ls, hls, h⟩ := Option.bind_eq_some_iff.1 h
  split at h
  · next f args hcall =>
    obtain rfl := Option.some.inj h
    have hwritten := lexemes_of_operand?_call hcall
    rw [List.append_nil] at hwritten
    rw [← hwritten]
    exact hls
  · cases h

end JiraQuery.Jql
