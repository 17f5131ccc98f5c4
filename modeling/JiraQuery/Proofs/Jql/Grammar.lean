import JiraQuery.Proofs.Jql.Lexeme
import JiraQuery.Query.Expr

/-!
# The grammar of conditions

Reads a query text as a condition: clauses under `NOT`, `AND` and `OR`, of which the first binds
tightest and the last loosest, with parentheses around groups and around lists of values. Keywords
are words in any case. What a reader leaves is shorter than what it was given, which the statements
`length_lt_of_…` say for the parts of a clause and the type `Read` for conditions.
-/

namespace JiraQuery.Jql

/-- What stands for a field or for a value. -/
inductive Term
  | word (text : String)
  | quoted (text : String)
  deriving DecidableEq, Repr

/-- A value that a clause compares with. -/
inductive Operand
  | term (term : Term)
  | call (function : String) (args : List Term)
  deriving DecidableEq, Repr

inductive Clause
  | emptiness (field : Term) (negated : Bool)
  | comparison (field : Term) (op : CompareOp) (value : Operand)
  | membership (field : Term) (negated : Bool) (values : List Operand)
  deriving DecidableEq, Repr

inductive Connective
  | and | or
  deriving DecidableEq, Repr

inductive Condition
  | clause (clause : Clause)
  | join (connective : Connective) (left right : Condition)
  | not (inner : Condition)
  deriving DecidableEq, Repr

/-! ## Clauses -/

/-- Whether a word is a keyword, which is given in lower case. -/
def isKeyword (keyword word : String) : Bool :=
  word.toList.map Char.toLower == keyword.toList

/-- The operators that are written as a sign. -/
def signOps : List CompareOp := [.eq, .ne, .gt, .ge, .lt, .le, .like, .notLike]

/-- The operator that a sign means. -/
def signOp? : String → Option CompareOp
  | "=" => some .eq
  | "!=" => some .ne
  | ">" => some .gt
  | ">=" => some .ge
  | "<" => some .lt
  | "<=" => some .le
  | "~" => some .like
  | "!~" => some .notLike
  | _ => none

def moreArguments? : List Lexeme → Option (List Term × List Lexeme)
  | .closing :: ls => some ([], ls)
  | .comma :: .word w :: ls => (moreArguments? ls).map fun r => (.word w :: r.1, r.2)
  | .comma :: .quoted t :: ls => (moreArguments? ls).map fun r => (.quoted t :: r.1, r.2)
  | _ => none

/-- The arguments of a function, from its opening parenthesis on. -/
def arguments? : List Lexeme → Option (List Term × List Lexeme)
  | .closing :: ls => some ([], ls)
  | .word w :: ls => (moreArguments? ls).map fun r => (.word w :: r.1, r.2)
  | .quoted t :: ls => (moreArguments? ls).map fun r => (.quoted t :: r.1, r.2)
  | _ => none

def operand? : List Lexeme → Option (Operand × List Lexeme)
  | .quoted t :: ls => some (.term (.quoted t), ls)
  | .word w :: .opening :: ls => (arguments? ls).map fun r => (.call w r.1, r.2)
  | .word w :: ls => some (.term (.word w), ls)
  | _ => none

theorem length_lt_of_moreArguments? {ls rest : List Lexeme} {ts : List Term}
    (h : moreArguments? ls = some (ts, rest)) : rest.length < ls.length := by
  fun_induction moreArguments? ls generalizing ts with
  | case1 => simp_all
  | case2 w ls ih | case3 w ls ih =>
    obtain ⟨_, hr⟩ := exists_of_map_eq_some h fun _ => rfl
    have := ih hr
    simp only [List.length_cons]
    omega
  | case4 => simp at h

theorem length_lt_of_arguments? {ls rest : List Lexeme} {ts : List Term}
    (h : arguments? ls = some (ts, rest)) : rest.length < ls.length := by
  unfold arguments? at h
  split at h
  · simp_all
  · obtain ⟨_, hr⟩ := exists_of_map_eq_some h fun _ => rfl
    exact Nat.lt_succ_of_lt (length_lt_of_moreArguments? hr)
  · obtain ⟨_, hr⟩ := exists_of_map_eq_some h fun _ => rfl
    exact Nat.lt_succ_of_lt (length_lt_of_moreArguments? hr)
  · simp at h

theorem length_lt_of_operand? {ls rest : List Lexeme} {x : Operand}
    (h : operand? ls = some (x, rest)) : rest.length < ls.length := by
  unfold operand? at h
  split at h
  · simp_all
  · obtain ⟨_, hr⟩ := exists_of_map_eq_some h fun _ => rfl
    exact Nat.lt_succ_of_lt (Nat.lt_succ_of_lt (length_lt_of_arguments? hr))
  · simp_all
  · simp at h

/-- The values of a list, from its opening parenthesis on; there is at least one. -/
def operands? (ls : List Lexeme) : Option (List Operand × List Lexeme) :=
  match _h : operand? ls with
  | some (x, .comma :: rest) => (operands? rest).map fun r => (x :: r.1, r.2)
  | some (x, .closing :: rest) => some ([x], rest)
  | _ => none
termination_by ls.length
decreasing_by exact Nat.lt_of_succ_lt (length_lt_of_operand? _h)

theorem operands?_comma {ls rest : List Lexeme} {x : Operand}
    (h : operand? ls = some (x, .comma :: rest)) :
    operands? ls = (operands? rest).map fun r => (x :: r.1, r.2) := by
  rw [operands?]
  split
  · next h' =>
    obtain ⟨rfl, rfl⟩ := by simpa using h'.symm.trans h
    rfl
  · next h' => simp [h] at h'
  · next hne _ => exact absurd h (hne x rest)

theorem operands?_closing {ls rest : List Lexeme} {x : Operand}
    (h : operand? ls = some (x, .closing :: rest)) : operands? ls = some ([x], rest) := by
  rw [operands?]
  split
  · next h' => simp [h] at h'
  · next h' =>
    obtain ⟨rfl, rfl⟩ := by simpa using h'.symm.trans h
    rfl
  · next hne => exact absurd h (hne x rest)

theorem length_lt_of_operands? {ls rest : List Lexeme} {xs : List Operand}
    (h : operands? ls = some (xs, rest)) : rest.length < ls.length := by
  fun_induction operands? ls generalizing xs with
  | case1 ls x tail hx ih =>
    obtain ⟨_, hr⟩ := exists_of_map_eq_some h fun _ => rfl
    have := ih hr
    have := length_lt_of_operand? hx
    simp only [List.length_cons] at this
    omega
  | case2 ls x tail hx =>
    have := length_lt_of_operand? hx
    simp only [List.length_cons] at this
    simp_all
    omega
  | case3 => simp at h

/-- What follows a field and `is`. -/
def emptiness? (field : Term) : List Lexeme → Option (Clause × List Lexeme)
  | .word w :: ls =>
    if isKeyword "empty" w then some (.emptiness field false, ls)
    else if isKeyword "not" w then
      match ls with
      | .word v :: ls => if isKeyword "empty" v then some (.emptiness field true, ls) else none
      | _ => none
    else none
  | _ => none

/-- What follows a field and `in`. -/
def membership? (field : Term) (negated : Bool) : List Lexeme → Option (Clause × List Lexeme)
  | .opening :: ls => (operands? ls).map fun r => (.membership field negated r.1, r.2)
  | _ => none

/-- What follows a field. -/
def relation? (field : Term) : List Lexeme → Option (Clause × List Lexeme)
  | .sign s :: ls =>
    (signOp? s).bind fun op => (operand? ls).map fun r => (.comparison field op r.1, r.2)
  | .word w :: ls =>
    if isKeyword "is" w then emptiness? field ls
    else if isKeyword "in" w then membership? field false ls
    else if isKeyword "not" w then
      match ls with
      | .word v :: ls => if isKeyword "in" v then membership? field true ls else none
      | _ => none
    else none
  | _ => none

def clause? : List Lexeme → Option (Clause × List Lexeme)
  | .word w :: ls => relation? (.word w) ls
  | .quoted t :: ls => relation? (.quoted t) ls
  | _ => none

theorem length_lt_of_emptiness? {field : Term} {ls rest : List Lexeme} {c : Clause}
    (h : emptiness? field ls = some (c, rest)) : rest.length < ls.length := by
  unfold emptiness? at h
  split at h
  · split at h
    · obtain ⟨-, rfl⟩ := Prod.mk.inj (Option.some.inj h)
      exact Nat.lt_succ_self _
    · split at h
      · split at h
        · split at h
          · obtain ⟨-, rfl⟩ := Prod.mk.inj (Option.some.inj h)
            exact Nat.lt_succ_of_lt (Nat.lt_succ_self _)
          · simp at h
        · simp at h
      · simp at h
  · simp at h

theorem length_lt_of_membership? {field : Term} {negated : Bool} {ls rest : List Lexeme} {c : Clause}
    (h : membership? field negated ls = some (c, rest)) : rest.length < ls.length := by
  unfold membership? at h
  split at h
  · obtain ⟨_, hr⟩ := exists_of_map_eq_some h fun _ => rfl
    exact Nat.lt_succ_of_lt (length_lt_of_operands? hr)
  · simp at h

theorem length_lt_of_relation? {field : Term} {ls rest : List Lexeme} {c : Clause}
    (h : relation? field ls = some (c, rest)) : rest.length < ls.length := by
  unfold relation? at h
  split at h
  · obtain ⟨op, -, h⟩ := Option.bind_eq_some_iff.1 h
    obtain ⟨_, hr⟩ := exists_of_map_eq_some h fun _ => rfl
    exact Nat.lt_succ_of_lt (length_lt_of_operand? hr)
  · split at h
    · exact Nat.lt_succ_of_lt (length_lt_of_emptiness? h)
    · split at h
      · exact Nat.lt_succ_of_lt (length_lt_of_membership? h)
      · split at h
        · split at h
          · split at h
            · exact Nat.lt_succ_of_lt (Nat.lt_succ_of_lt (length_lt_of_membership? h))
            · simp at h
          · simp at h
        · simp at h
  · simp at h

theorem length_lt_of_clause? {ls rest : List Lexeme} {c : Clause}
    (h : clause? ls = some (c, rest)) : rest.length < ls.length := by
  unfold clause? at h
  split at h
  · exact Nat.lt_succ_of_lt (length_lt_of_relation? h)
  · exact Nat.lt_succ_of_lt (length_lt_of_relation? h)
  · simp at h

/-! ## Conditions -/

/-- What is read at the front of `ls`, and the shorter rest. -/
abbrev Read (ls : List Lexeme) : Type :=
  Option (Condition × {rest : List Lexeme // rest.length < ls.length})

/-- What follows a keyword. -/
def after? (keyword : String) : List Lexeme → Option (List Lexeme)
  | .word w :: ls => if isKeyword keyword w then some ls else none
  | _ => none

theorem length_lt_of_after? {keyword : String} {ls rest : List Lexeme}
    (h : after? keyword ls = some rest) : rest.length < ls.length := by
  unfold after? at h
  split at h
  · split at h
    · simp_all
    · simp at h
  · simp at h

/-- The keyword between the parts of a chain. -/
def Connective.keyword : Connective → String
  | and => "and"
  | or => "or"

/-- How loosely a chain binds. -/
def Connective.rank : Connective → Nat
  | and => 1
  | or => 3

mutual

/-- A negation, a group in parentheses or a clause. -/
def unit (ls : List Lexeme) : Read ls :=
  match hn : after? "not" ls with
  | some inner => match unit inner with
    | some (x, rest) => some (.not x, ⟨rest.1, Nat.lt_trans rest.2 (length_lt_of_after? hn)⟩)
    | none => none
  | none => match ls with
    | .opening :: ls => match chain .or ls with
      | some (x, ⟨.closing :: rest, h⟩) => some (x, ⟨rest, by simp at h ⊢; omega⟩)
      | _ => none
    | ls => match hc : clause? ls with
      | some (c, rest) => some (.clause c, ⟨rest, length_lt_of_clause? hc⟩)
      | none => none
termination_by (ls.length, 0)
decreasing_by
  · exact .left _ _ (length_lt_of_after? hn)
  · exact .left _ _ (Nat.lt_succ_self _)

/-- What the chains of a connective are made of. -/
def part (k : Connective) (ls : List Lexeme) : Read ls :=
  match k with
  | .and => unit ls
  | .or => chain .and ls
termination_by (ls.length, k.rank)
decreasing_by
  · exact .right _ Nat.zero_lt_one
  · exact .right _ (Nat.lt_succ_self 2)

/-- Parts with the keyword of a connective between them. -/
def chain (k : Connective) (ls : List Lexeme) : Read ls :=
  match part k ls with
  | some (x, rest) => match hr : after? k.keyword rest.1 with
    | some more => match chain k more with
      | some (y, rest') => some (.join k x y,
          ⟨rest'.1, Nat.lt_trans rest'.2 (Nat.lt_trans (length_lt_of_after? hr) rest.2)⟩)
      | none => none
    | none => some (x, rest)
  | none => none
termination_by (ls.length, k.rank + 1)
decreasing_by
  · exact .right _ (Nat.lt_succ_self _)
  · exact .left _ _ (Nat.lt_trans (length_lt_of_after? hr) rest.2)

end

/-- The condition that a whole text is read as. -/
def read? (text : String) : Option Condition :=
  (lexemes? text.toList).bind fun ls => match chain .or ls with
    | some (x, ⟨[], _⟩) => some x
    | _ => none

example : read? "a=1 or not b=2 AND c=3" = some
    (.join .or (.clause (.comparison (.word "a") .eq (.term (.word "1"))))
      (.join .and (.not (.clause (.comparison (.word "b") .eq (.term (.word "2")))))
        (.clause (.comparison (.word "c") .eq (.term (.word "3")))))) := by cbv

end JiraQuery.Jql
