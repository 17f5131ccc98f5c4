import JiraQuery.Proofs.Json.Rereading

/-!
# Documents that were read

A document that was read from a text fits the text it is written as, and is in canonical form: the members
of all its objects are in order. Main statements: `readable_of_parse?` and `rereads_of_again_eq`.
-/

namespace JiraQuery.Json

variable {n k : ℕ} {j : Json} {xs : List Json} {ms : List (String × Json)}

theorem Fits.mono (h : Fits n j) (hk : n ≤ k) : Fits k j := by
  induction h generalizing k with
  | null => exact .null
  | bool b => exact .bool b
  | int hlow hhigh => exact .int hlow hhigh
  | float x => exact .float x
  | str s => exact .str s
  | arr _ ih =>
    obtain ⟨l, rfl⟩ : ∃ l, k = l + 1 := ⟨k - 1, by omega⟩
    exact .arr fun x hx => ih x hx (Nat.le_of_succ_le_succ hk)
  | obj _ ih =>
    obtain ⟨l, rfl⟩ : ∃ l, k = l + 1 := ⟨k - 1, by omega⟩
    exact .obj fun m hm => ih m hm (Nat.le_of_succ_le_succ hk)

theorem canonical_arr_eq_self_iff : (arr xs).canonical = arr xs ↔ ∀ x ∈ xs, x.canonical = x := by
  rw [canonical_arr]
  constructor
  · intro h x hx
    have hmap : xs.map canonical = xs.map id := (arr.inj h).trans (List.map_id xs).symm
    exact List.map_inj_left.1 hmap x hx
  · intro h
    exact congrArg arr ((List.map_congr_left h).trans (List.map_id xs))

theorem canonical_obj_eq_self_iff :
    (obj ms).canonical = obj ms ↔ Members.Sorted ms ∧ ∀ m ∈ ms, m.2.canonical = m.2 := by
  have hsorted : Members.Sorted (ms.map fun m => (m.1, m.2.canonical)) ↔ Members.Sorted ms :=
    List.pairwise_map
  rw [canonical_obj]
  constructor
  · intro h
    have hms : Members.Sorted ms := obj.inj h ▸ Members.sorted_ofList _
    rw [ofMembers, Members.ofList_of_sorted (hsorted.2 hms)] at h
    have hmap : ms.map (fun m => (m.1, m.2.canonical)) = ms.map id := (obj.inj h).trans (List.map_id ms).symm
    exact ⟨hms, fun m hm => congrArg Prod.snd (List.map_inj_left.1 hmap m hm)⟩
  · rintro ⟨hms, hvalues⟩
    have hmap : ms.map (fun m => (m.1, m.2.canonical)) = ms := by
      refine (List.map_congr_left fun m hm => ?_).trans (List.map_id ms)
      rw [hvalues m hm]
      rfl
    rw [hmap, ofMembers, Members.ofList_of_sorted hms]

/-! ## Documents that come back as they are -/

theorem forall₂_of_againItems {ys : List Json} (h : againItems xs = some ys) :
    List.Forall₂ (fun x y => x.again = some y) xs ys := by
  induction xs generalizing ys with
  | nil =>
    obtain rfl := Option.some.inj h
    exact .nil
  | cons x xs ih =>
    obtain ⟨y, hy, h⟩ := Option.bind_eq_some_iff.1 h
    obtain ⟨zs, hzs, rfl⟩ := Option.map_eq_some_iff.1 h
    exact .cons hy (ih hzs)

theorem forall₂_of_againMembers {ns : List (String × Json)} (h : againMembers ms = some ns) :
    List.Forall₂ (fun m n => m.1 = n.1 ∧ m.2.again = some n.2) ms ns := by
  induction ms generalizing ns with
  | nil =>
    obtain rfl := Option.some.inj h
    exact .nil
  | cons m ms ih =>
    obtain ⟨y, hy, h⟩ := Option.bind_eq_some_iff.1 h
    obtain ⟨zs, hzs, rfl⟩ := Option.map_eq_some_iff.1 h
    exact .cons ⟨rfl, hy⟩ (ih hzs)

theorem names_of_againMembers {ns : List (String × Json)} (h : againMembers ms = some ns) :
    ns.map (·.1) = ms.map (·.1) := by
  have hall := forall₂_of_againMembers h
  clear h
  induction hall with
  | nil => rfl
  | cons hm _ ih => rw [List.map_cons, List.map_cons, ih, hm.1]

/-- Members in order come back in order. -/
theorem ofList_of_againMembers {ns : List (String × Json)} (hms : Members.Sorted ms)
    (h : againMembers ms = some ns) : Members.ofList ns = ns := by
  refine Members.ofList_of_sorted (Members.sorted_iff_names.2 ?_)
  rw [names_of_againMembers h]
  exact Members.sorted_iff_names.1 hms

/-- The doubles of a document that comes back as it is come back. -/
theorem rereads_of_again_eq (hcanonical : j.canonical = j) (h : j.again = some j) :
    ∀ x ∈ j.doubles, Rereads x := by
  induction j using induct with
  | null => exact List.forall_mem_nil _
  | bool b => exact List.forall_mem_nil _
  | int n => exact List.forall_mem_nil _
  | str s => exact List.forall_mem_nil _
  | float x =>
    intro y hy
    obtain rfl := List.mem_singleton.1 hy
    exact h
  | arr xs ih =>
    obtain ⟨ys, hys, heq⟩ := Option.map_eq_some_iff.1 h
    obtain rfl := arr.inj heq
    intro d hd
    rw [doubles_arr] at hd
    obtain ⟨x, hx, hd⟩ := List.mem_flatMap.1 hd
    exact ih x hx (canonical_arr_eq_self_iff.1 hcanonical x hx)
      (List.forall₂_same.1 (forall₂_of_againItems hys) x hx) d hd
  | obj ms ih =>
    obtain ⟨hsorted, hvalues⟩ := canonical_obj_eq_self_iff.1 hcanonical
    obtain ⟨ns, hns, heq⟩ := Option.map_eq_some_iff.1 h
    obtain rfl : ns = ms := (ofList_of_againMembers hsorted hns).symm.trans (obj.inj heq)
    intro d hd
    rw [doubles_obj] at hd
    obtain ⟨m, hm, hd⟩ := List.mem_flatMap.1 hd
    exact ih m hm (hvalues m hm) (List.forall₂_same.1 (forall₂_of_againMembers hns) m hm).2 d hd

/-! ## Reading -/

/-- Documents as they are read within so many levels. -/
structure Readable (n : ℕ) (j : Json) : Prop where
  fits : Fits n j
  canonical_eq : j.canonical = j

theorem Readable.arr (h : ∀ x ∈ xs, Readable n x) : Readable (n + 1) (.arr xs) where
  fits := .arr fun x hx => (h x hx).fits
  canonical_eq := canonical_arr_eq_self_iff.2 fun x hx => (h x hx).canonical_eq

theorem Readable.ofMembers (h : ∀ m ∈ ms, Readable n m.2) : Readable (n + 1) (ofMembers ms) where
  fits := .obj fun m hm => (h m (Members.mem_ofList hm)).fits
  canonical_eq := canonical_obj_eq_self_iff.2
    ⟨Members.sorted_ofList ms, fun m hm => (h m (Members.mem_ofList hm)).canonical_eq⟩

theorem Readable.of_mem_arr (h : Readable n (.arr xs)) {x : Json} (hx : x ∈ xs) : Readable (n - 1) x := by
  obtain ⟨hfits, hcanonical⟩ := h
  cases hfits with
  | arr hitems => exact ⟨hitems x hx, canonical_arr_eq_self_iff.1 hcanonical x hx⟩

theorem Readable.of_mem_obj (h : Readable n (.obj ms)) {m : String × Json} (hm : m ∈ ms) :
    Readable (n - 1) m.2 := by
  obtain ⟨hfits, hcanonical⟩ := h
  cases hfits with
  | obj hmembers => exact ⟨hmembers m hm, (canonical_obj_eq_self_iff.1 hcanonical).2 m hm⟩

theorem Readable.sorted (h : Readable n (.obj ms)) : Members.Sorted ms :=
  (canonical_obj_eq_self_iff.1 h.canonical_eq).1

namespace Parser

variable {s rest : List Char}

theorem readable_double {negative : Bool} {whole places : List Char} {power : Int}
    (h : double? negative whole places power = some j) : Readable n j := by
  unfold double? at h
  obtain ⟨x, -, rfl⟩ := Option.map_eq_some_iff.1 h
  exact ⟨.float _, rfl⟩

theorem readable_whole {negative : Bool} {ds : List Char} (h : whole? negative ds = some j) :
    Readable n j := by
  unfold whole? at h
  dsimp only at h
  split at h
  · split at h
    · obtain rfl := Option.some.inj h
      exact ⟨.int (by omega) (by omega), rfl⟩
    · exact readable_double h
  · split at h
    · next hsize =>
      obtain rfl := Option.some.inj h
      have hsize : Number.ofDigits ds < 18446744073709551616 := hsize
      exact ⟨.int (by omega) (by omega), rfl⟩
    · exact readable_double h

theorem readable_unsigned {negative : Bool} (h : unsigned? negative s = some (j, rest)) : Readable n j := by
  unfold unsigned? at h
  dsimp only at h
  split at h
  · cases h
  · obtain ⟨⟨places, s₁⟩, -, h⟩ := Option.bind_eq_some_iff.1 h
    obtain ⟨⟨power, s₂⟩, -, h⟩ := Option.bind_eq_some_iff.1 h
    obtain ⟨value, hvalue, h⟩ := Option.bind_eq_some_iff.1 h
    obtain ⟨rfl, -⟩ := Prod.mk.inj (Option.some.inj h)
    unfold ofParts? at hvalue
    split at hvalue
    · exact readable_whole hvalue
    · exact readable_double hvalue

theorem readable_number (h : number? s = some (j, rest)) : Readable n j := by
  unfold number? at h
  split at h
  · exact readable_unsigned h
  · exact readable_unsigned h

theorem readable_constant (h : constant? s = some (j, rest)) : Readable n j := by
  unfold constant? at h
  split at h
  · obtain ⟨rfl, -⟩ := Prod.mk.inj (Option.some.inj h)
    exact ⟨.null, rfl⟩
  · obtain ⟨rfl, -⟩ := Prod.mk.inj (Option.some.inj h)
    exact ⟨.bool true, rfl⟩
  · obtain ⟨rfl, -⟩ := Prod.mk.inj (Option.some.inj h)
    exact ⟨.bool false, rfl⟩
  · cases h

/-- Whether so many steps give readable documents only, if what was read before is readable. -/
structure GivesReadable (fuel : ℕ) : Prop where
  value : ∀ {n s j rest}, value? fuel (n + 1) s = some (j, rest) → Readable n j
  items : ∀ {n acc s j rest}, (∀ x ∈ acc, Readable n x) → items? fuel (n + 1) acc s = some (j, rest) →
    Readable (n + 1) j
  fields : ∀ {n} {acc : List (String × Json)} {s j rest}, (∀ m ∈ acc, Readable n m.2) →
    fields? fuel (n + 1) acc s = some (j, rest) → Readable (n + 1) j

namespace GivesReadable

variable {fuel : ℕ}

theorem value_succ (ih : GivesReadable fuel) (h : value? (fuel + 1) (n + 1) s = some (j, rest)) :
    Readable n j := by
  rw [value?] at h
  split at h
  · cases n with
    | zero => cases h
    | succ n =>
      dsimp only at h
      split at h
      · obtain ⟨rfl, -⟩ := Prod.mk.inj (Option.some.inj h)
        exact .arr (List.forall_mem_nil _)
      · exact ih.items (List.forall_mem_nil _) h
  · cases n with
    | zero => cases h
    | succ n =>
      dsimp only at h
      split at h
      · obtain ⟨rfl, -⟩ := Prod.mk.inj (Option.some.inj h)
        exact .ofMembers (List.forall_mem_nil _)
      · exact ih.fields (List.forall_mem_nil _) h
  · obtain ⟨r, -, hr⟩ := Option.map_eq_some_iff.1 h
    obtain ⟨rfl, -⟩ := Prod.mk.inj hr
    exact ⟨.str _, rfl⟩
  · rcases Option.or_eq_some_iff.1 h with h | ⟨-, h⟩
    · exact readable_constant h
    · exact readable_number h

theorem items_succ (ih : GivesReadable fuel) {acc : List Json} (hacc : ∀ x ∈ acc, Readable n x)
    (h : items? (fuel + 1) (n + 1) acc s = some (j, rest)) : Readable (n + 1) j := by
  rw [items?] at h
  split at h
  · cases h
  · next x _ hx =>
    have hacc' : ∀ y ∈ x :: acc, Readable n y := List.forall_mem_cons.2 ⟨ih.value hx, hacc⟩
    split at h
    · exact ih.items hacc' h
    · obtain ⟨rfl, -⟩ := Prod.mk.inj (Option.some.inj h)
      exact .arr fun y hy => hacc' y (List.mem_reverse.1 hy)
    · cases h

theorem fields_succ (ih : GivesReadable fuel) {acc : List (String × Json)} (hacc : ∀ m ∈ acc, Readable n m.2)
    (h : fields? (fuel + 1) (n + 1) acc s = some (j, rest)) : Readable (n + 1) j := by
  rw [fields?] at h
  split at h
  · split at h
    · cases h
    · next name _ _ =>
      split at h
      · split at h
        · cases h
        · next x _ hx =>
          have hacc' : ∀ m ∈ (name, x) :: acc, Readable n m.2 :=
            List.forall_mem_cons.2 ⟨ih.value hx, hacc⟩
          split at h
          · exact ih.fields hacc' h
          · obtain ⟨rfl, -⟩ := Prod.mk.inj (Option.some.inj h)
            exact .ofMembers fun m hm => hacc' m (List.mem_reverse.1 hm)
          · cases h
      · cases h
  · cases h

end GivesReadable

/-- By induction on the steps. -/
theorem givesReadable (fuel : ℕ) : GivesReadable fuel := by
  induction fuel with
  | zero =>
    refine ⟨?_, ?_, ?_⟩
    · intro n s j rest h
      cases h
    · intro n acc s j rest _ h
      cases h
    · intro n acc s j rest _ h
      cases h
  | succ fuel ih => exact ⟨ih.value_succ, ih.items_succ, ih.fields_succ⟩

end Parser

theorem readable_of_parse? {text : String} (h : parse? text = some j) : Readable 127 j := by
  unfold parse? at h
  dsimp only at h
  split at h
  · next hvalue =>
    have hreadable := (Parser.givesReadable _).value hvalue
    split at h
    · exact Option.some.inj h ▸ hreadable
    · cases h
  · cases h

end JiraQuery.Json
