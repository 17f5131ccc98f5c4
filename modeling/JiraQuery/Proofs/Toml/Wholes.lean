import JiraQuery.Proofs.Json.Members
import JiraQuery.Proofs.Toml.Tree

/-!
# Whole numbers in configuration files

A whole number that was read has 64 bits with a sign, wherever it stands in the document and whatever its
base was. Main statement: `narrow_of_parse?`.
-/

namespace JiraQuery

/-- Documents in which every whole number has 64 bits with a sign. -/
inductive Json.Narrow : Json → Prop
  | null : Narrow .null
  | bool (b : Bool) : Narrow (.bool b)
  | int {n : ℤ} (hlow : -0x8000000000000000 ≤ n) (hhigh : n < 0x8000000000000000) : Narrow (.int n)
  | float (x : Float) : Narrow (.float x)
  | str (s : String) : Narrow (.str s)
  | arr {xs : List Json} (h : ∀ x ∈ xs, Narrow x) : Narrow (.arr xs)
  | obj {ms : List (String × Json)} (h : ∀ m ∈ ms, Narrow m.2) : Narrow (.obj ms)

theorem Json.Narrow.ofMembers {ms : List (String × Json)} (h : ∀ m ∈ ms, m.2.Narrow) :
    (Json.ofMembers ms).Narrow :=
  .obj fun m hm => h m (Members.mem_ofList hm)

namespace Toml

open Json (Narrow)

variable {s rest : List Char} {j : Json}

/-! ## Numbers -/

theorem narrow_whole? {n : ℤ} (h : whole? n s = some (j, rest)) : Narrow j := by
  unfold whole? at h
  split_ifs at h with hrange
  obtain ⟨rfl, -⟩ := Prod.mk.inj (Option.some.inj h)
  exact .int hrange.1 hrange.2

theorem narrow_double? {negative : Bool} {whole places : List Char} {power : ℤ}
    (h : double? negative whole places power s = some (j, rest)) : Narrow j := by
  unfold double? at h
  dsimp only at h
  split_ifs at h
  · obtain ⟨rfl, -⟩ := Prod.mk.inj (Option.some.inj h)
    exact .float _
  · obtain ⟨rfl, -⟩ := Prod.mk.inj (Option.some.inj h)
    exact .float _

theorem narrow_inBase? {base : ℕ} (h : inBase? base s = some (j, rest)) : Narrow j := by
  unfold inBase? at h
  obtain ⟨⟨ds, s₁⟩, -, h⟩ := Option.bind_eq_some_iff.1 h
  exact narrow_whole? h

theorem narrow_decimal? (h : decimal? s = some (j, rest)) : Narrow j := by
  unfold decimal? at h
  dsimp only at h
  obtain ⟨⟨whole, s₁⟩, -, h⟩ := Option.bind_eq_some_iff.1 h
  dsimp only at h
  split at h
  · obtain ⟨⟨places, s₂⟩, -, h⟩ := Option.bind_eq_some_iff.1 h
    dsimp only at h
    split at h
    · split_ifs at h
      · obtain ⟨⟨power, s₃⟩, -, h⟩ := Option.bind_eq_some_iff.1 h
        exact narrow_double? h
      · exact narrow_double? h
    · exact narrow_double? h
  · split_ifs at h
    · obtain ⟨⟨power, s₃⟩, -, h⟩ := Option.bind_eq_some_iff.1 h
      exact narrow_double? h
    · exact narrow_whole? h
    · exact narrow_whole? h
  · exact narrow_whole? h

theorem narrow_namedDouble? (h : namedDouble? s = some (j, rest)) : Narrow j := by
  unfold namedDouble? at h
  dsimp only at h
  split at h
  · obtain ⟨rfl, -⟩ := Prod.mk.inj (Option.some.inj h)
    exact .float _
  · obtain ⟨rfl, -⟩ := Prod.mk.inj (Option.some.inj h)
    exact .float _
  · cases h

theorem narrow_dateDocument (text : List Char) : Narrow (dateDocument text) := by
  refine .obj fun m hm => ?_
  obtain rfl := List.mem_singleton.1 hm
  exact .str _

theorem narrow_number? (h : number? s = some (j, rest)) : Narrow j := by
  unfold number? at h
  split at h
  · obtain ⟨rfl, -⟩ := Prod.mk.inj (Option.some.inj h)
    exact narrow_dateDocument _
  · split at h
    · exact narrow_inBase? h
    · exact narrow_inBase? h
    · exact narrow_inBase? h
    · rcases Option.or_eq_some_iff.1 h with h | ⟨-, h⟩
      · exact narrow_namedDouble? h
      · exact narrow_decimal? h

theorem narrow_constant? (h : constant? s = some (j, rest)) : Narrow j := by
  unfold constant? at h
  split at h
  · obtain ⟨rfl, -⟩ := Prod.mk.inj (Option.some.inj h)
    exact .bool true
  · obtain ⟨rfl, -⟩ := Prod.mk.inj (Option.some.inj h)
    exact .bool false
  · cases h

theorem narrow_scalar? (h : scalar? s = some (j, rest)) : Narrow j := by
  unfold scalar? at h
  split at h
  · obtain ⟨rfl, -⟩ := Prod.mk.inj (Option.some.inj h)
    exact .str _
  · rcases Option.or_eq_some_iff.1 h with h | ⟨-, h⟩
    · exact narrow_constant? h
    · exact narrow_number? h

/-! ## Tables -/

/-- Parts of the tree in which every value is narrow. -/
inductive Node.Narrow : Node → Prop
  | value {j : Json} (h : j.Narrow) : Narrow (.value j)
  | table (origin : Origin) {es : Entries} (h : ∀ e ∈ es, Narrow e.2) : Narrow (.table origin es)
  | tables {ts : List Entries} (h : ∀ es ∈ ts, ∀ e ∈ es, Narrow e.2) : Narrow (.tables ts)

namespace Entries

variable {es es' : Entries} {key : String} {path : List String} {x : Node}

/-- Entries in which every value is narrow. -/
def Narrow (es : Entries) : Prop :=
  ∀ e ∈ es, e.2.Narrow

theorem Narrow.lookup (h : Narrow es) (hx : es.lookup key = some x) : x.Narrow :=
  h (key, x) (Members.mem_of_get? hx)

theorem Narrow.put (h : Narrow es) (hx : x.Narrow) : Narrow (put key x es) := by
  induction es with
  | nil =>
    rintro e he
    obtain rfl := List.mem_singleton.1 he
    exact hx
  | cons e es ih =>
    obtain ⟨he, hes⟩ := List.forall_mem_cons.1 h
    unfold Entries.put
    split_ifs
    · exact List.forall_mem_cons.2 ⟨hx, hes⟩
    · exact List.forall_mem_cons.2 ⟨he, ih hes⟩

/-- A change that leaves narrow what is narrow does so at the end of a path, by induction on the path. -/
theorem Narrow.change {made origin : Origin} {f : Origin → Entries → Option Entries}
    (hf : ∀ {origin es es'}, Narrow es → f origin es = some es' → Narrow es') (h : Narrow es)
    (hes : change made f path origin es = some es') : Narrow es' := by
  induction path generalizing origin es es' with
  | nil => exact hf h hes
  | cons key path ih =>
    rw [Entries.change] at hes
    split at hes
    · obtain ⟨sub, hsub, hes⟩ := Option.bind_eq_some_iff.1 hes
      obtain rfl := Option.some.inj hes
      exact h.put (.table made (ih (List.forall_mem_nil _) hsub))
    · cases hes
    · next hlookup =>
      split_ifs at hes
      obtain ⟨sub, hsub, hes⟩ := Option.bind_eq_some_iff.1 hes
      obtain rfl := Option.some.inj hes
      cases h.lookup hlookup with
      | table _ hentries => exact h.put (.table _ (ih hentries hsub))
    · next ts hlookup =>
      split at hes
      · cases hes
      · next t hlast =>
        obtain ⟨sub, hsub, hes⟩ := Option.bind_eq_some_iff.1 hes
        obtain rfl := Option.some.inj hes
        cases h.lookup hlookup with
        | tables htables =>
          have hsub' := ih (htables t (List.mem_of_getLast? hlast)) hsub
          refine h.put (.tables fun t ht => ?_)
          rcases List.mem_append.1 ht with ht | ht
          · exact htables t (List.mem_of_mem_dropLast ht)
          · obtain rfl := List.mem_singleton.1 ht
            exact hsub'

theorem Narrow.assign (h : Narrow es) (hj : j.Narrow) (hes : es.assign path key j = some es') : Narrow es' := by
  refine h.change (fun {origin es es'} hes h => ?_) hes
  unfold addValue at h
  split_ifs at h
  obtain rfl := Option.some.inj h
  intro e he
  rcases List.mem_append.1 he with he | he
  · exact hes e he
  · obtain rfl := List.mem_singleton.1 he
    exact .value hj

theorem Narrow.assignAll {pairs : List (Key × Json)} (hpairs : ∀ p ∈ pairs, p.2.Narrow) (h : Narrow es)
    (hes : assignAll es pairs = some es') : Narrow es' := by
  induction pairs generalizing es with
  | nil =>
    obtain rfl := Option.some.inj hes
    exact h
  | cons p pairs ih =>
    obtain ⟨hp, hrest⟩ := List.forall_mem_cons.1 hpairs
    obtain ⟨es₁, hes₁, hes⟩ := Option.bind_eq_some_iff.1 hes
    exact ih hrest (h.assign hp hes₁) hes

theorem Narrow.addTable {pairs : List (Key × Json)} (hpairs : ∀ p ∈ pairs, p.2.Narrow) (h : Narrow es)
    (hes : es.addTable path key pairs = some es') : Narrow es' := by
  refine h.change (fun {origin es es'} hes h => ?_) hes
  have hcomplete : ∀ before, Narrow before →
      (Entries.assignAll before pairs).bind (fun sub => some (Entries.put key (.table .header sub) es)) = some es' →
        Narrow es' := by
    intro before hbefore h
    obtain ⟨sub, hsub, h⟩ := Option.bind_eq_some_iff.1 h
    obtain rfl := Option.some.inj h
    exact hes.put (.table _ (hbefore.assignAll hpairs hsub))
  dsimp only at h
  split at h
  · exact hcomplete [] (List.forall_mem_nil _) h
  · next sub hlookup =>
    cases hes.lookup hlookup with
    | table _ hentries => exact hcomplete sub hentries h
  · cases h

theorem Narrow.addItem {pairs : List (Key × Json)} (hpairs : ∀ p ∈ pairs, p.2.Narrow) (h : Narrow es)
    (hes : es.addItem path key pairs = some es') : Narrow es' := by
  refine h.change (fun {origin es es'} hes h => ?_) hes
  have hcomplete : ∀ before : List Entries, (∀ t ∈ before, Narrow t) →
      (Entries.assignAll [] pairs).bind (fun sub => some (Entries.put key (.tables (before ++ [sub])) es)) =
        some es' → Narrow es' := by
    intro before hbefore h
    obtain ⟨sub, hsub, h⟩ := Option.bind_eq_some_iff.1 h
    obtain rfl := Option.some.inj h
    refine hes.put (.tables fun t ht => ?_)
    rcases List.mem_append.1 ht with ht | ht
    · exact hbefore t ht
    · obtain rfl := List.mem_singleton.1 ht
      exact Narrow.assignAll hpairs (List.forall_mem_nil _) hsub
  dsimp only at h
  split at h
  · exact hcomplete [] (List.forall_mem_nil _) h
  · next ts hlookup =>
    cases hes.lookup hlookup with
    | tables htables => exact hcomplete ts htables h
  · cases h

end Entries

/-- A tree of narrow values is a narrow document, by induction on the tree. -/
theorem Node.Narrow.toJson {x : Node} (h : x.Narrow) : x.toJson.Narrow := by
  have hmembers : ∀ es : Entries, (∀ e ∈ es, e.2.toJson.Narrow) → (Json.ofMembers (entriesToJson es)).Narrow := by
    intro es hes
    rw [entriesToJson_eq]
    refine .ofMembers fun m hm => ?_
    obtain ⟨e, he, rfl⟩ := List.mem_map.1 hm
    exact hes e he
  induction h with
  | value h => exact h
  | table origin _ ih => exact hmembers _ ih
  | tables _ ih =>
    rw [Node.toJson, tablesToJson_eq]
    refine .arr fun j hj => ?_
    obtain ⟨es, hes, rfl⟩ := List.mem_map.1 hj
    exact hmembers es (ih es hes)

theorem Entries.Narrow.toJson {es : Entries} (h : es.Narrow) : es.toJson.Narrow :=
  (Node.Narrow.table .header h).toJson

/-! ## Values -/

/-- Whether so many steps give narrow documents only, if what was read before is narrow. -/
structure GivesNarrow (fuel : ℕ) : Prop where
  value : ∀ {depth s j rest}, value? fuel depth s = some (j, rest) → Narrow j
  items : ∀ {depth acc s j rest}, (∀ x ∈ acc, Narrow x) → items? fuel depth acc s = some (j, rest) → Narrow j
  pairs : ∀ {depth} {acc : List (Key × Json)} {s j rest}, (∀ p ∈ acc, Narrow p.2) →
    pairs? fuel depth acc s = some (j, rest) → Narrow j

namespace GivesNarrow

variable {fuel depth : ℕ}

theorem value_succ (ih : GivesNarrow fuel) (h : value? (fuel + 1) depth s = some (j, rest)) : Narrow j := by
  unfold value? at h
  split at h
  · cases h
  · next hfuel =>
    obtain rfl := Nat.succ.inj hfuel
    split at h
    · cases h
    · exact ih.items (List.forall_mem_nil _) h
  · next hfuel =>
    obtain rfl := Nat.succ.inj hfuel
    split at h
    · cases h
    · split at h
      · obtain ⟨rfl, -⟩ := Prod.mk.inj (Option.some.inj h)
        exact .obj (List.forall_mem_nil _)
      · exact ih.pairs (List.forall_mem_nil _) h
  · exact narrow_scalar? h

theorem items_succ (ih : GivesNarrow fuel) {acc : List Json} (hacc : ∀ x ∈ acc, Narrow x)
    (h : items? (fuel + 1) depth acc s = some (j, rest)) : Narrow j := by
  rw [items?] at h
  split at h
  · obtain ⟨rfl, -⟩ := Prod.mk.inj (Option.some.inj h)
    exact .arr fun x hx => hacc x (List.mem_reverse.1 hx)
  · split at h
    · cases h
    · next x _ hx =>
      have hacc' : ∀ y ∈ x :: acc, Narrow y := List.forall_mem_cons.2 ⟨ih.value hx, hacc⟩
      split at h
      · exact ih.items hacc' h
      · obtain ⟨rfl, -⟩ := Prod.mk.inj (Option.some.inj h)
        exact .arr fun y hy => hacc' y (List.mem_reverse.1 hy)
      · cases h

theorem pairs_succ (ih : GivesNarrow fuel) {acc : List (Key × Json)} (hacc : ∀ p ∈ acc, Narrow p.2)
    (h : pairs? (fuel + 1) depth acc s = some (j, rest)) : Narrow j := by
  rw [pairs?] at h
  split at h
  · cases h
  · next k _ _ =>
    split at h
    · split at h
      · cases h
      · next x _ hx =>
        have hacc' : ∀ p ∈ (k, x) :: acc, Narrow p.2 := List.forall_mem_cons.2 ⟨ih.value hx, hacc⟩
        split at h
        · exact ih.pairs hacc' h
        · obtain ⟨es, hes, h⟩ := Option.map_eq_some_iff.1 h
          obtain ⟨rfl, -⟩ := Prod.mk.inj h
          have hnarrow := Entries.Narrow.assignAll (fun p hp => hacc' p (List.mem_reverse.1 hp))
            (List.forall_mem_nil _) hes
          exact hnarrow.toJson
        · cases h
    · cases h

end GivesNarrow

/-- By induction on the steps. -/
theorem givesNarrow (fuel : ℕ) : GivesNarrow fuel := by
  induction fuel with
  | zero =>
    refine ⟨?_, ?_, ?_⟩
    · intro depth s j rest h
      cases h
    · intro depth acc s j rest _ h
      cases h
    · intro depth acc s j rest _ h
      cases h
  | succ fuel ih => exact ⟨ih.value_succ, ih.items_succ, ih.pairs_succ⟩

/-! ## Statements -/

/-- Whether the value of a pair is narrow. -/
def Statement.Narrow : Statement → Prop
  | .pair _ j => j.Narrow
  | .header _ _ => True

theorem narrow_pair? {y : Statement} (h : pair? s = some (y, rest)) : y.Narrow := by
  unfold pair? at h
  split at h
  · split at h
    · next hvalue =>
      obtain ⟨t, -, ht⟩ := Option.map_eq_some_iff.1 h
      obtain ⟨rfl, -⟩ := Prod.mk.inj ht
      exact (givesNarrow _).value hvalue
    · cases h
  · cases h

theorem narrow_header? {y : Statement} (h : header? s = some (y, rest)) : y.Narrow := by
  unfold header? at h
  split at h
  · split at h
    · obtain ⟨t, -, ht⟩ := Option.map_eq_some_iff.1 h
      obtain ⟨rfl, -⟩ := Prod.mk.inj ht
      trivial
    · cases h
  · split at h
    · obtain ⟨t, -, ht⟩ := Option.map_eq_some_iff.1 h
      obtain ⟨rfl, -⟩ := Prod.mk.inj ht
      trivial
    · cases h

theorem narrow_statements? {fuel : ℕ} {ys : List Statement} (h : statements? fuel s = some ys) :
    ∀ y ∈ ys, y.Narrow := by
  induction fuel generalizing s ys with
  | zero => cases h
  | succ fuel ih =>
    rw [statements?] at h
    split at h
    · obtain rfl := Option.some.inj h
      exact List.forall_mem_nil _
    · obtain ⟨⟨y, t⟩, hy, h⟩ := Option.bind_eq_some_iff.1 h
      obtain ⟨zs, hzs, rfl⟩ := Option.map_eq_some_iff.1 h
      exact List.forall_mem_cons.2 ⟨narrow_header? hy, ih hzs⟩
    · split_ifs at h
      · obtain ⟨t, -, h⟩ := Option.bind_eq_some_iff.1 h
        exact ih h
      · obtain ⟨⟨y, t⟩, hy, h⟩ := Option.bind_eq_some_iff.1 h
        obtain ⟨zs, hzs, rfl⟩ := Option.map_eq_some_iff.1 h
        exact List.forall_mem_cons.2 ⟨narrow_pair? hy, ih hzs⟩

theorem narrow_sections {ys : List Statement} (h : ∀ y ∈ ys, y.Narrow) :
    (∀ p ∈ (sections ys).1, p.2.Narrow) ∧ ∀ x ∈ (sections ys).2, ∀ p ∈ x.2.2, p.2.Narrow := by
  induction ys with
  | nil => exact ⟨List.forall_mem_nil _, List.forall_mem_nil _⟩
  | cons y ys ih =>
    obtain ⟨hy, hrest⟩ := List.forall_mem_cons.1 h
    obtain ⟨hpairs, hheaders⟩ := ih hrest
    cases y with
    | pair k j => exact ⟨List.forall_mem_cons.2 ⟨hy, hpairs⟩, hheaders⟩
    | header k several => exact ⟨List.forall_mem_nil _, List.forall_mem_cons.2 ⟨hpairs, hheaders⟩⟩

theorem Entries.Narrow.addHeaders {headers : List (Key × Bool × List (Key × Json))} {es es' : Entries}
    (hheaders : ∀ x ∈ headers, ∀ p ∈ x.2.2, p.2.Narrow) (h : es.Narrow)
    (hes : headers.foldlM addHeader es = some es') : es'.Narrow := by
  induction headers generalizing es with
  | nil =>
    obtain rfl := Option.some.inj hes
    exact h
  | cons x headers ih =>
    obtain ⟨hx, hrest⟩ := List.forall_mem_cons.1 hheaders
    obtain ⟨es₁, hes₁, hes⟩ := Option.bind_eq_some_iff.1 hes
    unfold addHeader at hes₁
    split_ifs at hes₁
    · exact ih hrest (h.addItem hx hes₁) hes
    · exact ih hrest (h.addTable hx hes₁) hes

theorem narrow_build? {ys : List Statement} {es : Entries} (h : ∀ y ∈ ys, y.Narrow) (hes : build? ys = some es) :
    es.Narrow := by
  obtain ⟨hpairs, hheaders⟩ := narrow_sections h
  rw [build?_eq] at hes
  obtain ⟨front, hfront, hes⟩ := Option.bind_eq_some_iff.1 hes
  have hnarrow : front.Narrow := Entries.Narrow.assignAll hpairs (List.forall_mem_nil _) hfront
  exact hnarrow.addHeaders hheaders hes

/-- A document that was read is narrow. -/
theorem narrow_of_parse? {text : String} (h : parse? text = some j) : Narrow j := by
  unfold parse? at h
  obtain ⟨es, hes, rfl⟩ := Option.map_eq_some_iff.1 h
  obtain ⟨ys, hys, hes⟩ := Option.bind_eq_some_iff.1 hes
  exact (narrow_build? (narrow_statements? hys) hes).toJson

end Toml

end JiraQuery
