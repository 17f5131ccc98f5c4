import JiraQuery.Proofs.Jql.Grammar

/-!
# Reading by rules

What the reader of conditions makes of each form, whatever stands after it. A chain of one connective
is read from its end, so what is read may differ from what was written in how the chain is grouped:
`Regroups` says that and no more. Main statements: `Regroups.clauses_eq` and `Regroups.holds_eq`
(regrouping keeps the clauses in order and the meaning), and `UnitReads.not`, `ChainReads.join` and
`ChainReads.enclosed`, by which the parts of a text are put together.
-/

namespace JiraQuery.Jql

/-! ## Regrouping -/

def Connective.apply : Connective → Bool → Bool → Bool
  | and => (· && ·)
  | or => (· || ·)

namespace Condition

/-- The clauses, from left to right. -/
def clauses : Condition → List Clause
  | clause c => [c]
  | join _ l r => l.clauses ++ r.clauses
  | not x => x.clauses

/-- The truth value, given those of the clauses. -/
def holds (truth : Clause → Bool) : Condition → Bool
  | clause c => truth c
  | join k l r => k.apply (l.holds truth) (r.holds truth)
  | not x => !x.holds truth

end Condition

/-- Conditions that differ in the grouping of chains of one connective only. -/
inductive Regroups : Condition → Condition → Prop
  | refl (x : Condition) : Regroups x x
  | symm {x y : Condition} : Regroups x y → Regroups y x
  | trans {x y z : Condition} : Regroups x y → Regroups y z → Regroups x z
  | join (k : Connective) {x x' y y' : Condition} :
      Regroups x x' → Regroups y y' → Regroups (.join k x y) (.join k x' y')
  | not {x x' : Condition} : Regroups x x' → Regroups (.not x) (.not x')
  | assoc (k : Connective) (x y z : Condition) :
      Regroups (.join k (.join k x y) z) (.join k x (.join k y z))

theorem Regroups.clauses_eq {x y : Condition} (h : Regroups x y) : x.clauses = y.clauses := by
  induction h with
  | refl => rfl
  | symm _ ih => exact ih.symm
  | trans _ _ ih ih' => exact ih.trans ih'
  | join k _ _ ih ih' => rw [Condition.clauses, Condition.clauses, ih, ih']
  | not _ ih => rw [Condition.clauses, Condition.clauses, ih]
  | assoc k x y z => exact List.append_assoc x.clauses y.clauses z.clauses

theorem Connective.apply_assoc (k : Connective) (a b c : Bool) :
    k.apply (k.apply a b) c = k.apply a (k.apply b c) := by
  cases k
  · exact Bool.and_assoc a b c
  · exact Bool.or_assoc a b c

theorem Regroups.holds_eq {x y : Condition} (h : Regroups x y) (truth : Clause → Bool) :
    x.holds truth = y.holds truth := by
  induction h with
  | refl => rfl
  | symm _ ih => exact ih.symm
  | trans _ _ ih ih' => exact ih.trans ih'
  | join k _ _ ih ih' => rw [Condition.holds, Condition.holds, ih, ih']
  | not _ ih => rw [Condition.holds, Condition.holds, ih]
  | assoc k x y z => exact k.apply_assoc _ _ _

/-! ## The rules -/

/-- Whether a condition and a certain rest are read. -/
def Read.Yields {ls : List Lexeme} (r : Read ls) (x : Condition) (rest : List Lexeme) : Prop :=
  ∃ h, r = some (x, ⟨rest, h⟩)

section

variable {k : Connective} {ls inner more rest rest' : List Lexeme} {x y : Condition} {c : Clause}

theorem unit_not (hn : after? "not" ls = some inner) (hx : (unit inner).Yields x rest) :
    (unit ls).Yields (.not x) rest := by
  obtain ⟨h, hx⟩ := hx
  refine ⟨Nat.lt_trans h (length_lt_of_after? hn), ?_⟩
  rw [unit]
  split
  · next inner' hn' =>
    obtain rfl : inner' = inner := by simpa using hn'.symm.trans hn
    rw [hx]
  · next hn' => simp [hn] at hn'

theorem unit_group (hx : (chain .or inner).Yields x (.closing :: rest)) :
    (unit (.opening :: inner)).Yields x rest := by
  obtain ⟨h, hx⟩ := hx
  refine ⟨by simp at h ⊢; omega, ?_⟩
  rw [unit]
  split
  · next hn => simp [after?] at hn
  · simp only [hx]

theorem unit_clause (hn : after? "not" ls = none) (ho : ls.head? ≠ some .opening)
    (hc : clause? ls = some (c, rest)) : (unit ls).Yields (.clause c) rest := by
  refine ⟨length_lt_of_clause? hc, ?_⟩
  rw [unit]
  split
  · next hn' => simp [hn] at hn'
  · split
    · simp at ho
    · split
      · next c' rest' hc' =>
        obtain ⟨rfl, rfl⟩ : c' = c ∧ rest' = rest := by simpa using hc'.symm.trans hc
        rfl
      · next hc' => simp [hc] at hc'

theorem chain_part (hx : (part k ls).Yields x rest) (hr : after? k.keyword rest = none) :
    (chain k ls).Yields x rest := by
  obtain ⟨h, hx⟩ := hx
  refine ⟨h, ?_⟩
  rw [chain]
  simp only [hx]
  split
  · next hr' => simp [hr] at hr'
  · rfl

theorem chain_join (hx : (part k ls).Yields x rest) (hr : after? k.keyword rest = some more)
    (hy : (chain k more).Yields y rest') : (chain k ls).Yields (.join k x y) rest' := by
  obtain ⟨h, hx⟩ := hx
  obtain ⟨h', hy⟩ := hy
  refine ⟨Nat.lt_trans h' (Nat.lt_trans (length_lt_of_after? hr) h), ?_⟩
  rw [chain]
  simp only [hx]
  split
  · next more' hr' =>
    obtain rfl : more' = more := by simpa using hr'.symm.trans hr
    simp only [hy]
  · next hr' => simp [hr] at hr'

theorem part_and (hx : (unit ls).Yields x rest) : (part .and ls).Yields x rest := by
  obtain ⟨h, hx⟩ := hx
  refine ⟨h, ?_⟩
  rw [part, hx]

theorem part_or (hx : (chain .and ls).Yields x rest) : (part .or ls).Yields x rest := by
  obtain ⟨h, hx⟩ := hx
  refine ⟨h, ?_⟩
  rw [part, hx]

theorem unit_eq_none (hn : after? "not" ls = none) (ho : ls.head? ≠ some .opening)
    (hc : clause? ls = none) : unit ls = none := by
  rw [unit]
  split
  · next hn' => simp [hn] at hn'
  · split
    · simp at ho
    · split
      · next hc' => simp [hc] at hc'
      · rfl

/-- A chain starts with a unit. -/
theorem chain_eq_none (k : Connective) (h : unit ls = none) : chain k ls = none := by
  have hand : chain .and ls = none := by rw [chain, part, h]
  cases k with
  | and => exact hand
  | or => rw [chain, part, hand]

end

/-! ## Texts in front of others -/

/-- The keyword between the parts of a chain, as it is written. -/
def Connective.text : Connective → String
  | and => "AND"
  | or => "OR"

def Connective.word (k : Connective) : Lexeme :=
  .word k.text

/-- What may stand after a chain of a connective that is read to its end. -/
inductive Ends : Connective → List Lexeme → Prop
  | nil (k : Connective) : Ends k []
  | closing (k : Connective) (rest : List Lexeme) : Ends k (.closing :: rest)
  | or (rest : List Lexeme) : Ends .and (Connective.or.word :: rest)

theorem Ends.head?_ne {k : Connective} {tail : List Lexeme} (h : Ends k tail) :
    tail.head? ≠ some .opening := by
  cases h <;> simp [Connective.word]

theorem Ends.after?_eq_none {k : Connective} {tail : List Lexeme} (h : Ends k tail) :
    after? k.keyword tail = none := by
  cases h with
  | nil => rfl
  | closing => rfl
  | or => rfl

theorem Ends.and {tail : List Lexeme} (h : Ends .or tail) : Ends .and tail := by
  cases h with
  | nil => exact .nil .and
  | closing _ rest => exact .closing .and rest

theorem after?_word (k : Connective) (more : List Lexeme) :
    after? k.keyword (k.word :: more) = some more := by
  cases k <;> rfl

/-- Lexemes that are read as one unit, up to regrouping, whatever stands after them. -/
def UnitReads (ls : List Lexeme) (x : Condition) : Prop :=
  ∀ tail, tail.head? ≠ some .opening → ∃ x', Regroups x' x ∧ (unit (ls ++ tail)).Yields x' tail

/-- Lexemes that are read as a chain, both at its end and in front of more of it. -/
structure ChainReads (k : Connective) (ls : List Lexeme) (x : Condition) : Prop where
  stop : ∀ tail, Ends k tail → ∃ x', Regroups x' x ∧ (chain k (ls ++ tail)).Yields x' tail
  more : ∀ more y rest, (chain k more).Yields y rest →
    ∃ z, Regroups z (.join k x y) ∧ (chain k (ls ++ k.word :: more)).Yields z rest

/-- A unit is a conjunction of one part. -/
theorem UnitReads.chain {ls : List Lexeme} {x : Condition} (h : UnitReads ls x) :
    ChainReads .and ls x where
  stop tail ht := by
    obtain ⟨x', hx, hy⟩ := h tail ht.head?_ne
    exact ⟨x', hx, chain_part (part_and hy) ht.after?_eq_none⟩
  more more y rest hy := by
    obtain ⟨x', hx, hu⟩ := h (Connective.and.word :: more) (by simp [Connective.word])
    exact ⟨.join .and x' y, .join .and hx (.refl y),
      chain_join (part_and hu) (after?_word .and more) hy⟩

/-- A conjunction is an alternative by itself. -/
theorem ChainReads.alternative {ls : List Lexeme} {x : Condition} (h : ChainReads .and ls x) :
    ChainReads .or ls x where
  stop tail ht := by
    obtain ⟨x', hx, hy⟩ := h.stop tail ht.and
    exact ⟨x', hx, chain_part (part_or hy) ht.after?_eq_none⟩
  more more y rest hy := by
    obtain ⟨x', hx, hc⟩ := h.stop (Connective.or.word :: more) (.or more)
    exact ⟨.join .or x' y, .join .or hx (.refl y),
      chain_join (part_or hc) (after?_word .or more) hy⟩

/-- Two chains of one connective are one chain. -/
theorem ChainReads.join {k : Connective} {ls ms : List Lexeme} {x y : Condition}
    (hx : ChainReads k ls x) (hy : ChainReads k ms y) :
    ChainReads k (ls ++ k.word :: ms) (.join k x y) where
  stop tail ht := by
    obtain ⟨y', hy', hr⟩ := hy.stop tail ht
    obtain ⟨z, hz, hr⟩ := hx.more (ms ++ tail) y' tail hr
    refine ⟨z, hz.trans (.join k (.refl x) hy'), ?_⟩
    rwa [List.append_assoc, List.cons_append]
  more more w rest hw := by
    obtain ⟨y', hy', hr⟩ := hy.more more w rest hw
    obtain ⟨z, hz, hr⟩ := hx.more (ms ++ k.word :: more) y' rest hr
    refine ⟨z, (hz.trans (.join k (.refl x) hy')).trans (Regroups.assoc k x y w).symm, ?_⟩
    rwa [List.append_assoc, List.cons_append]

/-- A group in parentheses is a unit. -/
theorem ChainReads.enclosed {ls : List Lexeme} {x : Condition} (h : ChainReads .or ls x) :
    UnitReads (.opening :: (ls ++ [.closing])) x := by
  intro tail _
  obtain ⟨x', hx, hr⟩ := h.stop (.closing :: tail) (.closing .or tail)
  refine ⟨x', hx, ?_⟩
  rw [List.cons_append, List.append_assoc]
  exact unit_group hr

theorem UnitReads.not {ls : List Lexeme} {x : Condition} (h : UnitReads ls x) :
    UnitReads (.word "NOT" :: ls) (.not x) := by
  intro tail ht
  obtain ⟨x', hx, hr⟩ := h tail ht
  exact ⟨.not x', hx.not, unit_not (by rfl) hr⟩

/-- A chain of alternatives that is all of a text is what the text is read as. -/
theorem ChainReads.read? {text : String} {ls : List Lexeme} {x : Condition}
    (h : ChainReads .or ls x) (hs : Spells text ls) : ∃ x', Regroups x' x ∧ read? text = some x' := by
  obtain ⟨x', hx, hr⟩ := h.stop [] (.nil .or)
  rw [List.append_nil] at hr
  obtain ⟨_, hr⟩ := hr
  refine ⟨x', hx, ?_⟩
  unfold Spells at hs
  simp only [Jql.read?, hs, Option.bind_some, hr]

end JiraQuery.Jql
