import JiraQuery.Proofs.Jql.Masking
import JiraQuery.Proofs.Query.Likeness
import JiraQuery.Proofs.Query.Word

/-!
# Conditions with other texts

A condition is written in the same way whatever the texts of its values are, but for what is between the
quotes (`Jql.Retexted`), and whatever the names of its fields are that are written in quotes
(`Catalog.Retitles`). A condition without its texts is `Expr.masked`. Main statements: `Jql.Retexted.inStep`,
texts that are written in the same way are read in step, and `Expr.abreast_render`, conditions that differ in
such texts only are written in the same way, or refused.
-/

namespace JiraQuery

open Text.Quoted (quote)

/-! ## Texts with other texts in their quotes -/

namespace Jql

/-- The same text, but for quoted texts at the same places. There are no quotes outside of these but in what
is written as it is. -/
inductive Retexted (raw : List String) : String → String → Prop
  | bare {s : String} (h : '"' ∉ s.toList) : Retexted raw s s
  | call {s : String} (h : s ∈ raw) : Retexted raw s s
  | quoted (t u : String) : Retexted raw (quote t) (quote u)
  | append {a b c d : String} : Retexted raw a b → Retexted raw c d → Retexted raw (a ++ c) (b ++ d)

namespace Retexted

variable {raw : List String} {a b : String}

theorem word {s : String} (h : IsWord s.toList) : Retexted raw s s :=
  .bare fun hq => absurd (h.all _ hq) (by decide)

theorem joined {sep : String} (hsep : '"' ∉ sep.toList) {xs ys : List String}
    (h : List.Forall₂ (Retexted raw) xs ys) :
    Retexted raw (Text.joined sep xs) (Text.joined sep ys) := by
  induction h with
  | nil => exact .bare List.not_mem_nil
  | cons hx hrest ih =>
    cases hrest with
    | nil => exact hx
    | cons => exact (hx.append (.bare hsep)).append ih

theorem enclosed (h : Retexted raw a b) : Retexted raw ("(" ++ a ++ ")") ("(" ++ b ++ ")") :=
  (Retexted.append (.bare (by decide)) h).append (.bare (by decide))

/-- A quoted text is never empty, as it has its quotes. -/
theorem eq_empty_iff (h : Retexted raw a b) : a = "" ↔ b = "" := by
  induction h with
  | bare | call => rfl
  | quoted t u => simp [← String.toList_eq_nil_iff, Text.Quoted.quote, Text.Quoted.quoteChars]
  | append _ _ ih ih' => rw [String.append_eq_empty_iff, String.append_eq_empty_iff, ih, ih']

/-- The texts are read in step if the calls close their quotes. -/
theorem inStep (hcalls : ∀ call ∈ raw, ClosesQuotes call) (h : Retexted raw a b) :
    InStep a.toList b.toList := by
  induction h with
  | bare h => exact .of_bare h
  | call h => exact hcalls _ h
  | quoted t u => exact inStep_quote t u
  | append _ _ ih ih' =>
    rw [String.toList_append, String.toList_append]
    exact ih.append ih'

end Retexted

end Jql

open Jql (Retexted)

variable {raw : List String}

/-- A list is processed abreast of another one by steps that keep abreast. -/
theorem Abreast.mapM {ε α β γ δ : Type} {r : α → β → Prop} {q : γ → δ → Prop} {f : α → Except ε γ}
    {g : β → Except ε δ} {xs : List α} {ys : List β} (h : List.Forall₂ r xs ys)
    (hfg : ∀ x y, r x y → Abreast q (f x) (g y)) : Abreast (List.Forall₂ q) (xs.mapM f) (ys.mapM g) := by
  induction h with
  | nil => exact .ok .nil
  | cons hxy _ ih =>
    rw [List.mapM_cons, List.mapM_cons]
    apply (hfg _ _ hxy).bind
    intro a b hab
    apply ih.bind
    intro as bs hrest
    exact .ok (.cons hab hrest)

/-! ## Literals -/

namespace Literal

mutual

/-- A literal without its texts. -/
def masked : Literal → Literal
  | text _ => text ""
  | list items => list (maskedItems items)
  | x => x

/-- The items of a list without their texts. -/
def maskedItems : List Literal → List Literal
  | [] => []
  | x :: xs => masked x :: maskedItems xs

end

mutual

/-- The function calls in a literal, which are written as they are. -/
def calls : Literal → List String
  | function call => [call]
  | list items => itemCalls items
  | _ => []

/-- The function calls in the items of a list. -/
def itemCalls : List Literal → List String
  | [] => []
  | x :: xs => calls x ++ itemCalls xs

end

theorem maskedItems_eq_map : ∀ xs, maskedItems xs = xs.map masked
  | [] => rfl
  | x :: xs => by rw [maskedItems, maskedItems_eq_map xs, List.map_cons]

theorem masked_list (items : List Literal) : (list items).masked = list (items.map masked) := by
  rw [← maskedItems_eq_map]
  rfl

theorem itemCalls_eq_flatMap : ∀ xs, itemCalls xs = xs.flatMap calls
  | [] => rfl
  | x :: xs => by rw [itemCalls, itemCalls_eq_flatMap xs, List.flatMap_cons]

mutual

theorem notFinite?_masked : ∀ x : Literal, x.masked.notFinite? = x.notFinite?
  | list items => by
    show (list (maskedItems items)).notFinite? = (list items).notFinite?
    rw [notFinite?, notFinite?, notFiniteItem?_masked items]
  | text _ | integer _ | float _ | date _ | dateTime _ | empty | function _ => rfl

theorem notFiniteItem?_masked : ∀ xs : List Literal, notFiniteItem? (maskedItems xs) = notFiniteItem? xs
  | [] => rfl
  | x :: xs => by
    rw [maskedItems, notFiniteItem?, notFiniteItem?, notFinite?_masked x, notFiniteItem?_masked xs]

end

theorem isEmpty_masked (x : Literal) : x.masked.isEmpty = x.isEmpty := by
  cases x <;> rfl

theorem spread_masked (x : Literal) : x.masked.spread = x.spread.map masked := by
  cases x with
  | list items => exact maskedItems_eq_map items
  | _ => rfl

/-- Literals that are the same but for texts: both are texts, both are lists of such literals, or they are the
same. -/
theorem masked_cases {x y : Literal} (h : x.masked = y.masked) :
    (∃ s t, x = text s ∧ y = text t) ∨
    (∃ xs ys, x = list xs ∧ y = list ys ∧ maskedItems xs = maskedItems ys) ∨
    ((∀ s, x ≠ text s) ∧ (∀ xs, x ≠ list xs) ∧ x = y) := by
  cases x <;> cases y <;> simp_all [masked]

/-- Any other literal than a text or a list has no quotes but those of a date or a call. -/
theorem retexted_self {x : Literal} (htext : ∀ s, x ≠ text s) (hlist : ∀ xs, x ≠ list xs)
    (hcalls : ∀ call ∈ x.calls, call ∈ raw) : Retexted raw x.render x.render := by
  cases x with
  | text s => exact absurd rfl (htext s)
  | list xs => exact absurd rfl (hlist xs)
  | integer n =>
    rw [render]
    exact .word (isWord_integer n)
  | float x =>
    rw [render]
    exact .word (isWord_float x)
  | date d =>
    rw [render]
    exact .quoted d.text d.text
  | dateTime t =>
    rw [render]
    exact .quoted t.text t.text
  | empty =>
    rw [render]
    exact .bare (by decide)
  | function call =>
    rw [render]
    exact .call (hcalls call (List.mem_singleton_self call))

mutual

/-- Literals that are the same but for texts are written as the same text, but for quoted texts. -/
theorem retexted_render (x y : Literal) (h : x.masked = y.masked) (hcalls : ∀ call ∈ x.calls, call ∈ raw) :
    Retexted raw x.render y.render := by
  match x with
  | list xs =>
    obtain ⟨_, _, hx, -⟩ | ⟨_, ys, hx, rfl, hitems⟩ | ⟨-, hlist, -⟩ := masked_cases h
    · cases hx
    · obtain rfl := Literal.list.inj hx
      rw [render, render]
      exact (Retexted.joined (by decide) (retexted_renderItems xs ys hitems hcalls)).enclosed
    · exact absurd rfl (hlist xs)
  | text s =>
    obtain ⟨_, t, -, rfl⟩ | ⟨_, _, hx, -⟩ | ⟨htext, -⟩ := masked_cases h
    · rw [render, render]
      exact .quoted s t
    · cases hx
    · exact absurd rfl (htext s)
  | integer _ | float _ | date _ | dateTime _ | empty | function _ =>
    obtain ⟨_, _, hx, -⟩ | ⟨_, _, hx, -⟩ | ⟨htext, hlist, rfl⟩ := masked_cases h
    · cases hx
    · cases hx
    · exact retexted_self htext hlist hcalls

theorem retexted_renderItems (xs ys : List Literal) (h : maskedItems xs = maskedItems ys)
    (hcalls : ∀ call ∈ itemCalls xs, call ∈ raw) :
    List.Forall₂ (Retexted raw) (renderItems xs) (renderItems ys) := by
  match xs, ys with
  | [], [] => exact .nil
  | [], y :: ys => cases h
  | x :: xs, [] => cases h
  | x :: xs, y :: ys =>
    obtain ⟨hx, hxs⟩ := List.cons.inj h
    obtain ⟨hcx, hcxs⟩ := List.forall_mem_append.1 hcalls
    exact .cons (retexted_render x y hx hcx) (retexted_renderItems xs ys hxs hcxs)

end

/-- Operators take a single value as it is; those of membership enclose it. -/
theorem operand_of_ne_list {x : Literal} (hx : ∀ items, x ≠ list items) (f : Field) (op : CompareOp) :
    x.operand f op = .ok (if op = .isIn ∨ op = .notIn then "(" ++ x.render ++ ")" else x.render) := by
  cases x with
  | list items => exact absurd rfl (hx items)
  | text | integer | float | date | dateTime | empty | function => cases op <;> rfl

section
variable {x y : Literal} (h : x.masked = y.masked)
include h

theorem checkFinite_eq : x.checkFinite = y.checkFinite := by
  unfold checkFinite
  rw [← notFinite?_masked x, h, notFinite?_masked y]

theorem isEmpty_eq : x.isEmpty = y.isEmpty := by
  rw [← isEmpty_masked x, h, isEmpty_masked y]

/-- An operator takes both of two literals that are the same but for texts, or neither. -/
theorem abreast_operand (f g : Field) (op : CompareOp) (hcalls : ∀ call ∈ x.calls, call ∈ raw) :
    Abreast (Retexted raw) (x.operand f op) (y.operand g op) := by
  have hrender := retexted_render x y h hcalls
  have hsingle : Retexted raw (if op = .isIn ∨ op = .notIn then "(" ++ x.render ++ ")" else x.render)
      (if op = .isIn ∨ op = .notIn then "(" ++ y.render ++ ")" else y.render) := by
    split
    · exact hrender.enclosed
    · exact hrender
  obtain ⟨s, t, rfl, rfl⟩ | ⟨xs, ys, rfl, rfl, hitems⟩ | ⟨-, hlist, rfl⟩ := masked_cases h
  · rw [operand_of_ne_list (by simp), operand_of_ne_list (by simp)]
    exact .ok hsingle
  · match xs, ys with
    | [], [] => cases op <;> exact .error _ _
    | [], y :: ys => cases hitems
    | x :: xs, [] => cases hitems
    | x :: xs, y :: ys =>
      cases op with
      | isIn | notIn => exact .ok hrender
      | eq | ne | gt | ge | lt | le | like | notLike => exact .error _ _
  · rw [operand_of_ne_list hlist, operand_of_ne_list hlist]
    exact .ok hsingle

end

/-- The values that literals contribute to a list of arguments are the same but for texts if the literals
are. -/
theorem map_masked_flatMap_spread (xs : List Literal) :
    (xs.flatMap spread).map masked = (xs.map masked).flatMap spread := by
  rw [List.map_flatMap, List.flatMap_map]
  simp only [spread_masked]

theorem retexted_renders {xs ys : List Literal} (h : xs.map masked = ys.map masked)
    (hcalls : ∀ call ∈ xs.flatMap calls, call ∈ raw) :
    List.Forall₂ (Retexted raw) (xs.map render) (ys.map render) := by
  rw [← maskedItems_eq_map, ← maskedItems_eq_map] at h
  rw [← itemCalls_eq_flatMap] at hcalls
  rw [← renderItems_eq_map, ← renderItems_eq_map]
  exact retexted_renderItems xs ys h hcalls

/-- A list has the calls of the values that it contributes. -/
theorem calls_spread (x : Literal) : x.spread.flatMap calls = x.calls := by
  cases x with
  | list items => exact (itemCalls_eq_flatMap items).symm
  | text | integer | float | date | dateTime | empty | function => exact List.append_nil _

end Literal

/-! ## Fields -/

/-- References that are the same, but for their names if these are quoted. -/
structure FieldRef.Retitled (r r' : FieldRef) : Prop where
  name : r.name = r'.name ∨ ∃ n n', r.name = quote n ∧ r'.name = quote n'
  text_eq : r.text = r'.text
  multi_eq : r.multi = r'.multi

/-- Whether two catalogs resolve a field each to the same reference, but for a quoted name, or neither. -/
def Catalog.Retitles (c c' : Catalog) (f g : Field) : Prop :=
  Abreast FieldRef.Retitled (c.resolve f) (c'.resolve g)

theorem Catalog.word_or_quoted {c : Catalog} {f : Field} {ref : FieldRef} (h : c.resolve f = .ok ref) :
    IsWord ref.name.toList ∨ ∃ n, ref.name = quote n := by
  cases f with
  | system f =>
    obtain rfl : FieldRef.ofSystem f = ref := Except.ok.inj h
    exact .inl (isWord_jqlName f)
  | custom name =>
    simp only [Catalog.resolve, Catalog.resolveName] at h
    split at h
    · cases h
    · next f hf =>
      obtain rfl := Except.ok.inj h
      unfold FieldRef.ofCustom
      cases hn : f.number? with
      | some number => exact .inl (isWord_numbered (isDigit_of_customFieldNumber? hn))
      | none => exact .inr ⟨f.name, rfl⟩
    · cases h
  | customId id =>
    simp only [Catalog.resolve, Catalog.resolveId] at h
    split at h
    · cases h
    · next number hn =>
      obtain rfl := Except.ok.inj h
      exact .inl (isWord_numbered (isDigit_of_fieldNumber? hn))

/-- References with names that are the same text but for quoted texts. -/
structure FieldRef.Retexted (raw : List String) (r r' : FieldRef) : Prop where
  name : Jql.Retexted raw r.name r'.name
  text_eq : r.text = r'.text
  multi_eq : r.multi = r'.multi

theorem Catalog.Retitles.retexted {c c' : Catalog} {f g : Field} (h : c.Retitles c' f g) :
    Abreast (FieldRef.Retexted raw) (c.resolve f) (c'.resolve g) := by
  apply Abreast.imp h
  intro r r' hr _ hrr
  refine ⟨?_, hrr.text_eq, hrr.multi_eq⟩
  rcases hrr.name with heq | ⟨n, n', hn, hn'⟩
  · rw [← heq]
    rcases Catalog.word_or_quoted hr with hword | ⟨n, hn⟩
    · exact .word hword
    · rw [hn]
      exact .quoted n n
  · rw [hn, hn']
    exact .quoted n n'

/-! ## Conditions -/

/-- The condition without the texts of its values. -/
def Expr.masked : Expr → Expr
  | compare x => compare { x with value := x.value.masked }
  | call x => call { x with args := x.args.map Literal.masked }
  | and l r => and l.masked r.masked
  | or l r => or l.masked r.masked
  | not e => not e.masked
  | client f => client f

/-- The function calls in a condition, which are written as they are. -/
def Expr.calls : Expr → List String
  | compare x => x.value.calls
  | call x => x.args.flatMap Literal.calls
  | and l r => l.calls ++ r.calls
  | or l r => l.calls ++ r.calls
  | not e => e.calls
  | client _ => []

theorem Expr.Alike.of_compare {R : Field → Field → Prop} {x y : Comparison}
    (h : (Expr.compare x).Alike R (.compare y)) :
    R x.field y.field ∧ x.op = y.op ∧ x.value = y.value ∧ x.exact = y.exact := by
  cases h with
  | compare h op value exact => exact ⟨h, rfl, rfl, rfl⟩

theorem Expr.Alike.of_call {R : Field → Field → Prop} {x y : MethodCall}
    (h : (Expr.call x).Alike R (.call y)) : R x.field y.field ∧ x.method = y.method ∧ x.args = y.args := by
  cases h with
  | call h method args => exact ⟨h, rfl, rfl⟩

theorem Jql.Retexted.enclose {a b : String} (h : Retexted raw a b) (s chain : Surrounding) :
    Retexted raw (s.enclose chain a) (s.enclose chain b) := by
  unfold Surrounding.enclose
  split
  · exact h
  · exact h.enclosed

section
variable {c c' : Catalog}

theorem Comparison.abreast_renderEmpty {x y : Comparison} {r r' : FieldRef} (hop : x.op = y.op)
    (href : r.Retexted raw r') : Abreast (Retexted raw) (x.renderEmpty r) (y.renderEmpty r') := by
  unfold renderEmpty
  rw [← hop]
  split
  · exact .ok (href.name.append (.bare (by decide)))
  · exact .ok (href.name.append (.bare (by decide)))
  · exact .error _ _

theorem Comparison.operatorOn_eq {x y : Comparison} {r r' : FieldRef} (hop : x.op = y.op)
    (hexact : x.exact = y.exact) (htext : r.text = r'.text) : x.operatorOn r = y.operatorOn r' := by
  unfold operatorOn
  rw [hop, hexact, htext]

theorem bare_token (op : CompareOp) : '"' ∉ op.token.toList := by
  cases op <;> decide

/-- Comparisons that are the same but for their field and for texts are written as the same text, but for
quoted texts, or refused. -/
theorem Comparison.abreast_render {x y : Comparison} (hfield : c.Retitles c' x.field y.field)
    (hop : x.op = y.op) (hexact : x.exact = y.exact) (hvalue : x.value.masked = y.value.masked)
    (hcalls : ∀ call ∈ x.value.calls, call ∈ raw) :
    Abreast (Retexted raw) (x.render c) (y.render c') := by
  apply hfield.retexted.bind
  intro r r' href
  apply (Abreast.of_eq (Literal.checkFinite_eq hvalue)).bind
  intro _ _ _
  dsimp only
  rw [Literal.isEmpty_eq hvalue, operatorOn_eq hop hexact href.text_eq]
  split
  · exact abreast_renderEmpty hop href
  · apply (Literal.abreast_operand hvalue x.field y.field _ hcalls).bind
    intro a b hab
    have hsign := Retexted.append (href.name.append (.bare (s := " ") (by decide)))
      (.bare (bare_token (y.operatorOn r')))
    exact .ok ((hsign.append (.bare (by decide))).append hab)

theorem MethodCall.map_masked_values {x y : MethodCall}
    (hargs : x.args.map Literal.masked = y.args.map Literal.masked) :
    x.values.map Literal.masked = y.values.map Literal.masked := by
  unfold values
  rw [Literal.map_masked_flatMap_spread, Literal.map_masked_flatMap_spread, hargs]

theorem MethodCall.calls_values (x : MethodCall) :
    x.values.flatMap Literal.calls = x.args.flatMap Literal.calls := by
  unfold values
  rw [List.flatMap_assoc]
  simp only [Literal.calls_spread]

theorem MethodCall.renderText_singleton {x : MethodCall} {v : Literal} (h : x.values = [v]) (r : FieldRef) :
    x.renderText r = if v.isEmpty then .error (.invalidArgument (.containsEmpty x.field))
      else .ok (r.name ++ " ~ " ++ v.render) := by
  unfold renderText
  rw [h]
  cases v <;> rfl

theorem MethodCall.renderText_several {x : MethodCall} (h : x.values.length ≠ 1) (r : FieldRef) :
    x.renderText r = .error (.invalidArgument (.containsSeveral x.field)) := by
  unfold renderText
  split
  · next hv => exact absurd (congrArg List.length hv) h
  · next hv => exact absurd (congrArg List.length hv) h
  · rfl

theorem MethodCall.abreast_renderText {x y : MethodCall} {r r' : FieldRef} (href : r.Retexted raw r')
    (hvalues : x.values.map Literal.masked = y.values.map Literal.masked)
    (hcalls : ∀ call ∈ x.values.flatMap Literal.calls, call ∈ raw) :
    Abreast (Retexted raw) (x.renderText r) (y.renderText r') := by
  have hlength : x.values.length = y.values.length := by
    simpa using congrArg List.length hvalues
  by_cases hone : x.values.length = 1
  · obtain ⟨v, hv⟩ := List.length_eq_one_iff.1 hone
    obtain ⟨w, hw⟩ := List.length_eq_one_iff.1 (hlength ▸ hone)
    have hvw : v.masked = w.masked := by simpa [hv, hw] using hvalues
    rw [renderText_singleton hv, renderText_singleton hw, Literal.isEmpty_eq hvw]
    split
    · exact .error _ _
    · have hvalue := Literal.retexted_render v w hvw fun call hcall => hcalls call (by simpa [hv] using hcall)
      exact .ok ((href.name.append (.bare (by decide))).append hvalue)
  · rw [renderText_several hone, renderText_several (hlength ▸ hone)]
    exact .error _ _

theorem MethodCall.abreast_render {x y : MethodCall} (hfield : c.Retitles c' x.field y.field)
    (hmethod : x.method = y.method) (hargs : x.args.map Literal.masked = y.args.map Literal.masked)
    (hcalls : ∀ call ∈ x.args.flatMap Literal.calls, call ∈ raw) :
    Abreast (Retexted raw) (x.render c) (y.render c') := by
  have hvalues := map_masked_values hargs
  rw [← calls_values] at hcalls
  unfold render
  rw [hmethod]
  split
  · exact .error _ _
  · apply hfield.retexted.bind
    intro r r' href
    dsimp only
    have hempty : x.values.isEmpty = y.values.isEmpty := by
      rw [← List.isEmpty_map, hvalues, List.isEmpty_map]
    rw [hempty]
    split
    · exact .error _ _
    · have hfinite : (Literal.list x.values).masked = (Literal.list y.values).masked := by
        rw [Literal.masked_list, Literal.masked_list, hvalues]
      apply (Abreast.of_eq (Literal.checkFinite_eq hfinite)).bind
      intro _ _ _
      rw [href.text_eq, href.multi_eq]
      split
      · exact abreast_renderText href hvalues hcalls
      · have hlist : Retexted raw (Text.joined ", " (x.values.map Literal.render))
            (Text.joined ", " (y.values.map Literal.render)) :=
          .joined (by decide) (Literal.retexted_renders hvalues hcalls)
        exact .ok (((href.name.append (.bare (by decide))).append hlist).append (.bare (by decide)))

/-- Two parts of a chain with the same keyword between them. -/
theorem abreast_chain {x x' y y' : Except TranslationError String} {keyword : String}
    (hkeyword : '"' ∉ keyword.toList) (hx : Abreast (Retexted raw) x x') (hy : Abreast (Retexted raw) y y')
    (s chain : Surrounding) :
    Abreast (Retexted raw) (do return s.enclose chain ((← x) ++ keyword ++ (← y)))
      (do return s.enclose chain ((← x') ++ keyword ++ (← y'))) := by
  apply hx.bind
  intro a a' ha
  apply hy.bind
  intro b b' hb
  exact .ok (((ha.append (.bare hkeyword)).append hb).enclose s chain)

/-- Conditions that are the same but for texts, and for fields that are the same but for their quoted names,
are written as the same text, but for quoted texts, or both are refused. -/
theorem Expr.abreast_render {e e' : Expr} (h : e.masked.Alike (c.Retitles c') e'.masked)
    (hcalls : ∀ call ∈ e.calls, call ∈ raw) (s : Surrounding) :
    Abreast (Retexted raw) (e.render c s) (e'.render c' s) := by
  induction e generalizing e' s with
  | compare x =>
    cases e' with
    | compare y =>
      obtain ⟨hfield, hop, hvalue, hexact⟩ := h.of_compare
      exact Comparison.abreast_render hfield hop hexact hvalue hcalls
    | call | and | or | not | client => cases h
  | call x =>
    cases e' with
    | call y =>
      obtain ⟨hfield, hmethod, hargs⟩ := h.of_call
      exact MethodCall.abreast_render hfield hmethod hargs hcalls
    | compare | and | or | not | client => cases h
  | and l r ihl ihr =>
    cases e' with
    | and l' r' =>
      cases h with
      | and hl hr =>
        obtain ⟨hcl, hcr⟩ := List.forall_mem_append.1 hcalls
        exact abreast_chain (by decide) (ihl hl hcl .conjunction) (ihr hr hcr .conjunction) s .conjunction
    | compare | call | or | not | client => cases h
  | or l r ihl ihr =>
    cases e' with
    | or l' r' =>
      cases h with
      | or hl hr =>
        obtain ⟨hcl, hcr⟩ := List.forall_mem_append.1 hcalls
        exact abreast_chain (by decide) (ihl hl hcl .disjunction) (ihr hr hcr .disjunction) s .disjunction
    | compare | call | and | not | client => cases h
  | not e ih =>
    cases e' with
    | not e' =>
      cases h with
      | not h =>
        apply (ih h hcalls .negation).bind
        intro a a' ha
        exact .ok (Retexted.append (.bare (by decide)) ha)
    | compare | call | and | or | client => cases h
  | client f =>
    cases e' with
    | client g => exact .error _ _
    | compare | call | and | or | not => cases h

end

end JiraQuery
