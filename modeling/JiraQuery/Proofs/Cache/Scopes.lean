import JiraQuery.Cache.Metadata
import JiraQuery.Proofs.Cache.History

/-!
# Stores of different scopes

Whoever uses a store holds a reference to it, which was obtained for a key at some time. Whatever is
done in between with other keys, each key's store is as if it were the only one. Main statement:
`ScopedStore.separate_after`.
-/

namespace JiraQuery

namespace ScopedStore

variable {κ ε α : Type} [DecidableEq κ]

/-! ## Keys and references -/

/-- The keys that have a store, in the order in which the stores came. -/
def keys (s : ScopedStore κ α) : List κ :=
  s.scopes.map (·.1)

variable {s : ScopedStore κ α} {r : StoreRef} {key k : κ}

theorem findIdx_lt_iff : s.scopes.findIdx (key = ·.1) < s.scopes.length ↔ key ∈ s.keys := by
  rw [List.findIdx_lt_length, keys, List.mem_map]
  constructor
  · rintro ⟨e, he, hkey⟩
    exact ⟨e, he, (of_decide_eq_true hkey).symm⟩
  · rintro ⟨e, he, rfl⟩
    exact ⟨e, he, decide_eq_true rfl⟩

/-- Only the first use of a key makes a store. -/
theorem keys_scope (s : ScopedStore κ α) (key : κ) :
    (s.scope key).2.keys = if key ∈ s.keys then s.keys else s.keys ++ [key] := by
  unfold scope
  by_cases h : key ∈ s.keys
  · simp only [if_pos h, if_pos (findIdx_lt_iff.2 h)]
  · simp only [if_neg h, if_neg (mt findIdx_lt_iff.1 h)]
    simp [keys]

/-- The reference of a key stands where the key does. -/
theorem keys_getElem?_scope (s : ScopedStore κ α) (key : κ) :
    (s.scope key).2.keys[(s.scope key).1.index]? = some key := by
  unfold scope keys
  by_cases h : s.scopes.findIdx (key = ·.1) < s.scopes.length
  · have hkey : key = (s.scopes[s.scopes.findIdx (key = ·.1)]).1 :=
      of_decide_eq_true (List.findIdx_getElem (w := h))
    simp only [if_pos h, List.getElem?_map, List.getElem?_eq_getElem h, Option.map_some]
    rw [← hkey]
  · have hlength : s.scopes.findIdx (key = ·.1) = s.scopes.length :=
      Nat.le_antisymm List.findIdx_le_length (Nat.le_of_not_lt h)
    simp [hlength]

theorem keys_prefix_scope (s : ScopedStore κ α) (key : κ) : s.keys <+: (s.scope key).2.keys := by
  rw [keys_scope]
  split
  · exact List.prefix_refl s.keys
  · exact List.prefix_append s.keys [key]

theorem nodup_keys_scope (h : s.keys.Nodup) (key : κ) : (s.scope key).2.keys.Nodup := by
  rw [keys_scope]
  split
  · exact h
  · next hkey => exact List.nodup_append.2 ⟨h, List.nodup_singleton key, fun a ha b hb =>
      fun hab => hkey (List.mem_singleton.1 hb ▸ hab ▸ ha)⟩

omit [DecidableEq κ] in
@[simp] theorem keys_write (s : ScopedStore κ α) (r : StoreRef) (store : Store α) :
    (s.write r store).keys = s.keys := by
  refine List.ext_getElem? fun i => ?_
  simp only [keys, write, List.getElem?_map, List.getElem?_modify]
  cases s.scopes[i]? with
  | none => rfl
  | some e =>
    show some (if r.index = i then (e.1, store) else e).1 = some e.1
    split <;> rfl

/-- A key without a store has an empty one as soon as it is asked for. -/
theorem get_scope (s : ScopedStore κ α) (key k : κ) : (s.scope key).2.get k = s.get k := by
  unfold scope
  by_cases h : s.scopes.findIdx (key = ·.1) < s.scopes.length
  · simp only [if_pos h]
  · -- A store that is made is empty, as is what is got for a key without one.
    simp only [if_neg h, ← setIn_eq_append {} h]
    show (s.set key {}).get k = s.get k
    rw [get_set]
    split
    · next hk =>
      subst hk
      have hnone : s.find? k = none := by
        rw [find?, lookup_eq_getElem?, List.getElem?_eq_none (Nat.le_of_not_lt h)]
        rfl
      rw [get, hnone]
      rfl
    · rfl

/-- A reference is to the first key that stands at its place, and to no other one. -/
theorem findIdx_eq_of_nodup (hs : s.keys.Nodup) (hr : s.keys[r.index]? = some key) :
    s.scopes.findIdx (key = ·.1) = r.index := by
  obtain ⟨hlt, hkey⟩ := List.getElem?_eq_some_iff.1 hr
  have hmem : key ∈ s.keys := hkey ▸ List.getElem_mem hlt
  have hfound := findIdx_lt_iff.2 hmem
  have hfirst : key = (s.scopes[s.scopes.findIdx (key = ·.1)]).1 :=
    of_decide_eq_true (List.findIdx_getElem (w := hfound))
  have hlength : s.keys.length = s.scopes.length := List.length_map _
  refine (@List.Nodup.getElem_inj_iff _ _ hs _ (by omega) _ hlt).1 ?_
  rw [hkey]
  simp only [keys, List.getElem_map]
  exact hfirst.symm

theorem scope_eq_of_nodup (hs : s.keys.Nodup) (hr : s.keys[r.index]? = some key) : s.scope key = (r, s) := by
  have hfound := findIdx_eq_of_nodup hs hr
  have hlt : s.scopes.findIdx (key = ·.1) < s.scopes.length := findIdx_lt_iff.2 (List.mem_of_getElem? hr)
  unfold scope
  rw [hfound] at hlt ⊢
  exact Prod.ext rfl (if_pos hlt)

theorem read_eq_get (hs : s.keys.Nodup) (hr : s.keys[r.index]? = some key) : s.read r = s.get key := by
  rw [get_eq, scope_eq_of_nodup hs hr]

theorem write_eq_set (hs : s.keys.Nodup) (hr : s.keys[r.index]? = some key) (store : Store α) :
    s.write r store = s.set key store := by
  rw [set_eq, scope_eq_of_nodup hs hr]

/-! ## Runs -/

/-- What is done with the stores of scopes. -/
inductive Action (κ ε α : Type)
  /-- Obtains a reference to the store of a key. -/
  | scope (key : κ)
  /-- Does something with a store, through the reference that so many others were obtained before. -/
  | use (ref : Nat) (op : Store.Op ε α)
  | isComplete (key : κ)
  | scopeCount

/-- What comes back from the stores of scopes. -/
inductive Result (ε α : Type)
  | reference (r : StoreRef)
  | answer (a : Store.Answer ε α)
  | flag (isComplete : Bool)
  | count (n : Nat)
  /-- There is no such reference. -/
  | nothing

/-- The stores, and the references to them that were obtained, with the keys they were obtained for. -/
structure Desk (κ α : Type) where
  stores : ScopedStore κ α := {}
  refs : List (κ × StoreRef) := []

variable [Entity α]

/-- Does something with a store through a reference. -/
def Desk.use (d : Desk κ α) (i : Nat) (op : Store.Op ε α) : Result ε α × Desk κ α :=
  match d.refs[i]? with
  | some e =>
    let done := op.perform (d.stores.read e.2)
    (.answer done.1, { d with stores := d.stores.write e.2 done.2 })
  | none => (.nothing, d)

/-- What an action gives, and what there is after it. -/
def Action.perform : Action κ ε α → Desk κ α → Result ε α × Desk κ α
  | scope key, d =>
    let opened := d.stores.scope key
    (.reference opened.1, { stores := opened.2, refs := d.refs ++ [(key, opened.1)] })
  | use i op, d => d.use i op
  | isComplete key, d => (.flag (d.stores.isComplete key), d)
  | scopeCount, d => (.count d.stores.scopeCount, d)

def after (actions : List (Action κ ε α)) (d : Desk κ α) : Desk κ α :=
  actions.foldl (fun d a => (a.perform d).2) d

omit [Entity α] [DecidableEq κ] in
/-- The keys for which references are obtained, in order. -/
def requested : List (Action κ ε α) → List κ
  | [] => []
  | .scope key :: actions => key :: requested actions
  | .use _ _ :: actions => requested actions
  | .isComplete _ :: actions => requested actions
  | .scopeCount :: actions => requested actions

omit [Entity α] in
/-- What is done with the store of a key, if references were obtained for the given keys before. -/
def addressed (k : κ) : List κ → List (Action κ ε α) → List (Store.Op ε α)
  | _, [] => []
  | held, .scope key :: actions => addressed k (held ++ [key]) actions
  | held, .use i op :: actions =>
    (if held[i]? = some k then [op] else []) ++ addressed k held actions
  | held, .isComplete _ :: actions => addressed k held actions
  | held, .scopeCount :: actions => addressed k held actions

/-- Every key has one store, and references are to the stores of their keys. -/
structure Desk.Sound (d : Desk κ α) : Prop where
  nodup : d.stores.keys.Nodup
  mem_keys_iff : ∀ k, k ∈ d.stores.keys ↔ k ∈ d.refs.map (·.1)
  refers : ∀ e ∈ d.refs, d.stores.keys[e.2.index]? = some e.1

variable {d : Desk κ α}

omit [Entity α] [DecidableEq κ] in
theorem Desk.sound_empty : ({} : Desk κ α).Sound where
  nodup := List.nodup_nil
  mem_keys_iff _ := Iff.rfl
  refers _ he := by cases he

omit [Entity α] in
theorem Desk.Sound.scope (h : d.Sound) (key : κ) :
    Desk.Sound { stores := (d.stores.scope key).2, refs := d.refs ++ [(key, (d.stores.scope key).1)] } where
  nodup := nodup_keys_scope h.nodup key
  mem_keys_iff k := by
    have hmem : k ∈ (d.stores.scope key).2.keys ↔ k ∈ d.stores.keys ∨ k = key := by
      rw [keys_scope]
      split
      · next hkey =>
        refine ⟨.inl, fun hk => hk.elim id fun hk => ?_⟩
        rwa [hk]
      · simp
    rw [hmem, h.mem_keys_iff k]
    simp
  refers e he := by
    rcases List.mem_append.1 he with he | he
    · obtain ⟨rest, hrest⟩ := keys_prefix_scope d.stores key
      obtain ⟨hlt, hkey⟩ := List.getElem?_eq_some_iff.1 (h.refers e he)
      show (d.stores.scope key).2.keys[e.2.index]? = some e.1
      rw [← hrest, List.getElem?_append_left hlt]
      exact h.refers e he
    · obtain rfl := List.mem_singleton.1 he
      exact keys_getElem?_scope d.stores key

omit [Entity α] [DecidableEq κ] in
theorem Desk.Sound.write (h : d.Sound) (r : StoreRef) (store : Store α) :
    Desk.Sound { d with stores := d.stores.write r store } where
  nodup := by rw [keys_write]; exact h.nodup
  mem_keys_iff k := by rw [keys_write]; exact h.mem_keys_iff k
  refers e he := by rw [keys_write]; exact h.refers e he

theorem Desk.Sound.perform (h : d.Sound) (a : Action κ ε α) : (a.perform d).2.Sound := by
  cases a with
  | scope key => exact h.scope key
  | use i op =>
    show (d.use i op).2.Sound
    unfold Desk.use
    split
    · exact h.write _ _
    · exact h
  | isComplete key => exact h
  | scopeCount => exact h

/-- An action changes the store of a key as an operation on it does, if it is one, and not at all else. -/
theorem get_perform (h : d.Sound) (a : Action κ ε α) (k : κ) :
    (a.perform d).2.stores.get k = Store.after (addressed k (d.refs.map (·.1)) [a]) (d.stores.get k) := by
  cases a with
  | scope key => exact get_scope d.stores key k
  | isComplete key => rfl
  | scopeCount => rfl
  | use i op =>
    show (d.use i op).2.stores.get k =
      Store.after ((if (d.refs.map (·.1))[i]? = some k then [op] else []) ++ []) (d.stores.get k)
    unfold Desk.use
    rw [List.getElem?_map, List.append_nil]
    cases hi : d.refs[i]? with
    | none => rfl
    | some e =>
      have hr := h.refers e (List.mem_of_getElem? hi)
      show (d.stores.write e.2 (op.perform (d.stores.read e.2)).2).get k =
        Store.after (if some e.1 = some k then [op] else []) (d.stores.get k)
      rw [write_eq_set h.nodup hr, read_eq_get h.nodup hr, get_set]
      by_cases hk : k = e.1
      · rw [if_pos hk, if_pos (congrArg some hk.symm), hk]
        rfl
      · rw [if_neg hk, if_neg fun heq => hk (Option.some.inj heq).symm]
        rfl

theorem refs_perform (a : Action κ ε α) (d : Desk κ α) :
    (a.perform d).2.refs.map (·.1) = d.refs.map (·.1) ++ requested [a] := by
  cases a with
  | scope key => exact List.map_append
  | use i op =>
    show (d.use i op).2.refs.map (·.1) = d.refs.map (·.1) ++ []
    rw [List.append_nil]
    unfold Desk.use
    split
    · rfl
    · rfl
  | isComplete key => exact (List.append_nil _).symm
  | scopeCount => exact (List.append_nil _).symm

omit [Entity α] [DecidableEq κ] in
theorem requested_cons (a : Action κ ε α) (actions : List (Action κ ε α)) :
    requested (a :: actions) = requested [a] ++ requested actions := by
  cases a <;> rfl

omit [Entity α] in
theorem addressed_cons (k : κ) (held : List κ) (a : Action κ ε α) (actions : List (Action κ ε α)) :
    addressed k held (a :: actions) = addressed k held [a] ++ addressed k (held ++ requested [a]) actions := by
  cases a with
  | scope key => rfl
  | use i op =>
    show _ ++ addressed k held actions = _ ++ [] ++ addressed k (held ++ []) actions
    rw [List.append_nil, List.append_nil]
  | isComplete key =>
    show _ = addressed k (held ++ []) actions
    rw [List.append_nil]
    rfl
  | scopeCount =>
    show _ = addressed k (held ++ []) actions
    rw [List.append_nil]
    rfl

theorem refs_after (actions : List (Action κ ε α)) (d : Desk κ α) :
    (after actions d).refs.map (·.1) = d.refs.map (·.1) ++ requested actions := by
  induction actions generalizing d with
  | nil => exact (List.append_nil _).symm
  | cons a actions ih =>
    show (after actions (a.perform d).2).refs.map (·.1) = _
    rw [ih, refs_perform, List.append_assoc, ← requested_cons]

theorem Desk.Sound.after (h : d.Sound) (actions : List (Action κ ε α)) : (after actions d).Sound := by
  induction actions generalizing d with
  | nil => exact h
  | cons a actions ih => exact ih (h.perform a)

/-- The store of a key is as if nothing were done but what is done with it. -/
theorem get_after (h : d.Sound) (actions : List (Action κ ε α)) (k : κ) :
    (after actions d).stores.get k =
      Store.after (addressed k (d.refs.map (·.1)) actions) (d.stores.get k) := by
  induction actions generalizing d with
  | nil => rfl
  | cons a actions ih =>
    show (ScopedStore.after actions (a.perform d).2).stores.get k = _
    rw [ih (h.perform a), get_perform h, refs_perform, addressed_cons k _ a actions, Store.after_append]

/-! ## Stores apart -/

omit [Entity α] in
theorem isComplete_eq (s : ScopedStore κ α) (k : κ) : s.isComplete k = (s.get k).complete := by
  unfold isComplete get
  cases s.find? k <;> rfl

/-- Actions that began without any store, and in which each key's store is on its own. -/
structure Separate (actions : List (Action κ ε α)) : Prop where
  /-- The store of a key is a fresh one with which only that was done which concerns the key. -/
  state : ∀ k, (after actions {}).stores.get k = Store.after (addressed k [] actions) {}
  /-- Through every reference for a key there is the answer of this fresh store. -/
  answer : ∀ k (i : Nat) (op : Store.Op ε α), (requested actions)[i]? = some k →
    ((Action.use i op).perform (after actions {})).1 =
      .answer (op.perform (Store.after (addressed k [] actions) {})).1
  /-- References are the same exactly if they were obtained for the same key, whenever that was. -/
  reference_eq_iff : ∀ a ∈ (after actions {}).refs, ∀ b ∈ (after actions {}).refs, a.2 = b.2 ↔ a.1 = b.1
  /-- A reference denotes the store of its key. -/
  denotes : ∀ a ∈ (after actions {}).refs, (after actions {}).stores.read a.2 = (after actions {}).stores.get a.1
  /-- To ask whether a key's store has its whole collection changes nothing, and makes no store. -/
  asking : ∀ k, (Action.isComplete (ε := ε) k).perform (after actions {}) =
    (.flag (Store.after (addressed k [] actions) {}).complete, after actions {})
  /-- There are as many stores as different keys for which a reference was obtained. -/
  counting : (Action.scopeCount (ε := ε)).perform (after actions {}) =
    (.count (requested actions).toFinset.card, after actions {})

omit [Entity α] in
theorem Desk.Sound.reference_eq_iff (h : d.Sound) {a b : κ × StoreRef} (ha : a ∈ d.refs) (hb : b ∈ d.refs) :
    a.2 = b.2 ↔ a.1 = b.1 := by
  have hra := h.refers a ha
  have hrb := h.refers b hb
  constructor
  · intro heq
    rw [heq] at hra
    exact Option.some.inj (hra.symm.trans hrb)
  · intro heq
    rw [heq] at hra
    have hindex := (findIdx_eq_of_nodup h.nodup hra).symm.trans (findIdx_eq_of_nodup h.nodup hrb)
    exact StoreRef.ext hindex

omit [Entity α] in
theorem Desk.Sound.scopeCount_eq (h : d.Sound) : d.stores.scopeCount = (d.refs.map (·.1)).toFinset.card := by
  have hlength : d.stores.scopeCount = d.stores.keys.length := (List.length_map _).symm
  have hkeys : d.stores.keys.toFinset = (d.refs.map (·.1)).toFinset := by
    ext k
    rw [List.mem_toFinset, List.mem_toFinset]
    exact h.mem_keys_iff k
  rw [hlength, ← List.toFinset_card_of_nodup h.nodup, hkeys]

theorem separate (actions : List (Action κ ε α)) : Separate actions := by
  have hsound : (after actions {}).Sound := Desk.sound_empty.after actions
  have hstate : ∀ k, (after actions {}).stores.get k = Store.after (addressed k [] actions) {} :=
    get_after Desk.sound_empty actions
  have hrefs : (after actions {}).refs.map (·.1) = requested actions := refs_after actions {}
  refine ⟨hstate, fun k i op hi => ?_, fun a ha b hb => hsound.reference_eq_iff ha hb, fun a ha => ?_,
    fun k => ?_, ?_⟩
  · rw [← hrefs, List.getElem?_map, Option.map_eq_some_iff] at hi
    obtain ⟨⟨key, r⟩, hi, rfl⟩ := hi
    have hr := hsound.refers _ (List.mem_of_getElem? hi)
    show (Desk.use _ i op).1 = _
    unfold Desk.use
    rw [hi, ← hstate, ← read_eq_get hsound.nodup hr]
  · exact read_eq_get hsound.nodup (hsound.refers a ha)
  · rw [← hstate, ← isComplete_eq]
    rfl
  · rw [← hrefs, ← hsound.scopeCount_eq]
    rfl

/-- Stores by scope are separate for keys of every kind; parts of a server have one store exactly if they
agree in project, issue type id and issue type name. -/
theorem separate_after :
    (∀ {κ ε α : Type} [DecidableEq κ] [Entity α] (actions : List (Action κ ε α)), Separate actions) ∧
    ∀ {ε : Type} (actions : List (Action FieldScope ε CustomField)),
      ∀ a ∈ (after actions {}).refs, ∀ b ∈ (after actions {}).refs, a.2 = b.2 ↔
        a.1.projectKey = b.1.projectKey ∧ a.1.issueTypeId = b.1.issueTypeId ∧
          a.1.issueTypeName = b.1.issueTypeName := by
  refine ⟨fun actions => separate actions, fun actions a ha b hb => ?_⟩
  rw [(separate actions).reference_eq_iff a ha b hb]
  exact FieldScope.ext_iff

/-- A project and one of its issue types have stores of their own, also if one reference is obtained twice. -/
theorem separate_oneIssueType :
    let project : FieldScope := { projectKey := "TST" }
    let task : FieldScope := { projectKey := "TST", issueTypeName := some "Task" }
    let sprint : CustomField := { id := "customfield_10000", name := "Sprint" }
    let actions : List (Action FieldScope String CustomField) :=
      [.scope task, .scope project, .use 1 (.seed []), .scope task, .use 2 (.tryAdd sprint)]
    let run := after actions {}
    run.refs = [(task, ⟨0⟩), (project, ⟨1⟩), (task, ⟨0⟩)] ∧ run.stores.get task = { entries := [sprint] } ∧
      run.stores.get project = { complete := true } ∧ (⟨0⟩ : StoreRef) ≠ ⟨1⟩ := by
  intro project task sprint actions run
  have hrefs : run.refs = [(task, ⟨0⟩), (project, ⟨1⟩), (task, ⟨0⟩)] := by rfl
  have hstate := (separate_after.1 actions).state
  have hreference := separate_after.2 actions (task, ⟨0⟩) (hrefs ▸ List.mem_cons_self) (project, ⟨1⟩)
    (hrefs ▸ List.mem_cons_of_mem _ List.mem_cons_self)
  refine ⟨hrefs, (hstate task).trans rfl, (hstate project).trans rfl, fun heq => ?_⟩
  have hname : some "Task" = none := (hreference.1 heq).2.2
  cases hname

end ScopedStore

end JiraQuery
