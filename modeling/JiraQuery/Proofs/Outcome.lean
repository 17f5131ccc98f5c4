/-!
# Computations that may fail
-/

namespace JiraQuery

variable {ε α β ρ σ : Type}

/-- A computation in two steps succeeds if both steps do. -/
theorem bind_eq_ok_iff {x : Except ε α} {f : α → Except ε β} {b : β} :
    x >>= f = .ok b ↔ ∃ a, x = .ok a ∧ f a = .ok b := by
  constructor
  · intro h
    cases x with
    | error e => cases h
    | ok a => exact ⟨a, rfl, h⟩
  · rintro ⟨a, rfl, h⟩
    exact h

/-- A run succeeds if its first step does and it can go on from there. -/
theorem foldlM_cons_eq_ok_iff {f : σ → α → Except ε σ} {x : α} {xs : List α} {s s' : σ} :
    (x :: xs).foldlM f s = .ok s' ↔ ∃ t, f s x = .ok t ∧ xs.foldlM f t = .ok s' := by
  rw [List.foldlM_cons, bind_eq_ok_iff]

/-- A list is processed alike by steps that do the same to all its items. -/
theorem mapM_congr_of_mem {f g : α → Except ε β} {xs : List α}
    (h : ∀ x ∈ xs, f x = g x) : xs.mapM f = xs.mapM g := by
  induction xs with
  | nil => rfl
  | cons x xs ih =>
    obtain ⟨hx, hxs⟩ := List.forall_mem_cons.1 h
    rw [List.mapM_cons, List.mapM_cons, hx, ih hxs]

/-- Two computations fail with the same error, or they succeed with results that are related. -/
inductive Together (r : α → β → Prop) : Except ε α → Except ε β → Prop
  | error (e : ε) : Together r (.error e) (.error e)
  | ok {a : α} {b : β} (h : r a b) : Together r (.ok a) (.ok b)

theorem Together.bind {r : α → β → Prop} {q : ρ → σ → Prop} {x : Except ε α} {y : Except ε β}
    {f : α → Except ε ρ} {g : β → Except ε σ} (h : Together r x y)
    (hfg : ∀ a b, r a b → Together q (f a) (g b)) : Together q (x >>= f) (y >>= g) := by
  cases h with
  | error e => exact .error e
  | ok hab => exact hfg _ _ hab

/-- Two computations fail, each with an error of its own, or they succeed with results that are related. -/
inductive Abreast (r : α → β → Prop) : Except ε α → Except ε β → Prop
  | error (e e' : ε) : Abreast r (.error e) (.error e')
  | ok {a : α} {b : β} (h : r a b) : Abreast r (.ok a) (.ok b)

namespace Abreast

theorem of_eq {x y : Except ε α} (h : x = y) : Abreast (· = ·) x y := by
  subst h
  cases x with
  | error e => exact .error e e
  | ok a => exact .ok rfl

/-- What is related may be said in other terms, given which results the computations have. -/
theorem imp {r q : α → β → Prop} {x : Except ε α} {y : Except ε β} (h : Abreast r x y)
    (hq : ∀ a b, x = .ok a → y = .ok b → r a b → q a b) : Abreast q x y := by
  cases h with
  | error e e' => exact .error e e'
  | ok hab => exact .ok (hq _ _ rfl rfl hab)

theorem bind {r : α → β → Prop} {q : ρ → σ → Prop} {x : Except ε α} {y : Except ε β} {f : α → Except ε ρ}
    {g : β → Except ε σ} (h : Abreast r x y) (hfg : ∀ a b, r a b → Abreast q (f a) (g b)) :
    Abreast q (x >>= f) (y >>= g) := by
  cases h with
  | error e e' => exact .error e e'
  | ok hab => exact hfg _ _ hab

end Abreast

/-- A reader that changes what was read, and not what is left, has read something. -/
theorem exists_of_map_eq_some {x : Option (α × ρ)} {f : α × ρ → β × ρ} {b : β} {rest : ρ}
    (h : x.map f = some (b, rest)) (hf : ∀ r, (f r).2 = r.2) : ∃ a, x = some (a, rest) := by
  obtain ⟨r, hr, hrest⟩ := Option.map_eq_some_iff.1 h
  have hsnd : r.2 = rest := by rw [← hf r, hrest]
  exact ⟨r.1, by rw [hr, ← hsnd]⟩

end JiraQuery
