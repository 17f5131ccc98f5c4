import JiraQuery.Json.Members
import Mathlib

/-!
# Members in order

The members of an object that was read are in ascending order of their names. In this form they are
determined by the values of the names. Main statement: `Members.ext_of_sorted`.
-/

namespace JiraQuery.Members

variable {α : Type} {ms ns : Members α} {name k : String} {v : α} {m : String × α}

/-- Whether the names ascend, so that no name stands twice. -/
def Sorted (ms : Members α) : Prop :=
  ms.Pairwise (·.1 < ·.1)

theorem Sorted.nodup (h : Sorted ms) : (ms.map (·.1)).Nodup :=
  List.pairwise_map.2 (List.Pairwise.imp (fun hlt => ne_of_lt hlt) h)

theorem sorted_iff_names : Sorted ms ↔ (ms.map (·.1)).Pairwise (· < ·) :=
  List.pairwise_map.symm

theorem mem_insert (h : m ∈ insert k v ms) : m = (k, v) ∨ m ∈ ms := by
  induction ms with
  | nil => exact .inl (List.mem_singleton.1 h)
  | cons n ns ih =>
    unfold insert at h
    split at h
    · rcases List.mem_cons.1 h with h | h
      · exact .inl h
      · exact .inr (List.mem_cons_of_mem n h)
    · split at h
      · exact List.mem_cons.1 h
      · rcases List.mem_cons.1 h with h | h
        · exact .inr (h ▸ List.mem_cons_self)
        · exact (ih h).imp_right (List.mem_cons_of_mem n)

theorem sorted_insert (k : String) (v : α) (h : Sorted ms) : Sorted (insert k v ms) := by
  induction ms with
  | nil => exact List.pairwise_singleton _ _
  | cons n ns ih =>
    obtain ⟨hfirst, hrest⟩ := List.pairwise_cons.1 h
    unfold insert
    split
    · next hk => exact List.pairwise_cons.2 ⟨fun m hm => hk ▸ hfirst m hm, hrest⟩
    · split
      · next hlt =>
        refine List.pairwise_cons.2 ⟨fun m hm => ?_, h⟩
        rcases List.mem_cons.1 hm with rfl | hm
        · exact hlt
        · exact hlt.trans (hfirst m hm)
      · next hne hlt =>
        refine List.pairwise_cons.2 ⟨fun m hm => ?_, ih hrest⟩
        rcases mem_insert hm with rfl | hm
        · exact lt_of_le_of_ne (not_lt.1 hlt) (Ne.symm hne)
        · exact hfirst m hm

/-- By induction on the members that are still to come, with those set so far general. -/
theorem sorted_foldl_insert (ns : List (String × α)) (h : Sorted ms) :
    Sorted (ns.foldl (fun acc m => insert m.1 m.2 acc) ms) := by
  induction ns generalizing ms with
  | nil => exact h
  | cons n ns ih => exact ih (sorted_insert n.1 n.2 h)

theorem sorted_ofList (ns : List (String × α)) : Sorted (ofList ns) :=
  sorted_foldl_insert ns List.Pairwise.nil

theorem mem_foldl_insert (ns : List (String × α))
    (h : m ∈ ns.foldl (fun acc m => insert m.1 m.2 acc) ms) : m ∈ ns ∨ m ∈ ms := by
  induction ns generalizing ms with
  | nil => exact .inr h
  | cons n ns ih =>
    rcases ih h with hm | hm
    · exact .inl (List.mem_cons_of_mem n hm)
    · rcases mem_insert hm with rfl | hm
      · exact .inl List.mem_cons_self
      · exact .inr hm

theorem mem_ofList {ns : List (String × α)} (h : m ∈ ofList ns) : m ∈ ns :=
  (mem_foldl_insert ns h).resolve_right List.not_mem_nil

/-! ## Values of names -/

theorem get?_eq_none (h : ∀ m ∈ ms, m.1 ≠ name) : get? ms name = none := by
  induction ms with
  | nil => rfl
  | cons m ms ih =>
    rw [get?_cons, if_neg (h m List.mem_cons_self).symm]
    exact ih fun n hn => h n (List.mem_cons_of_mem m hn)

theorem mem_of_get? (h : get? ms name = some v) : (name, v) ∈ ms := by
  induction ms with
  | nil => cases h
  | cons m ms ih =>
    rw [get?_cons] at h
    by_cases hname : name = m.1
    · rw [if_pos hname] at h
      obtain rfl := Option.some.inj h
      rw [hname]
      exact List.mem_cons_self
    · rw [if_neg hname] at h
      exact List.mem_cons_of_mem m (ih h)

theorem get?_append (ms ns : Members α) (name : String) :
    get? (ms ++ ns) name = (get? ms name).or (get? ns name) := by
  induction ms with
  | nil => rfl
  | cons m ms ih =>
    rw [List.cons_append, get?_cons, get?_cons, ih]
    split
    · rfl
    · rfl

theorem get?_foldl_insert (ns : List (String × α)) (hns : (ns.map (·.1)).Nodup) (name : String) :
    get? (ns.foldl (fun acc m => insert m.1 m.2 acc) ms) name = (get? ns name).or (get? ms name) := by
  induction ns generalizing ms with
  | nil => rfl
  | cons n ns ih =>
    obtain ⟨hnew, hrest⟩ := List.nodup_cons.1 hns
    rw [List.foldl_cons, ih hrest, get?_insert, get?_cons]
    by_cases hname : name = n.1
    · have hnone : get? ns name = none := get?_eq_none fun m hm heq =>
        hnew (List.mem_map.2 ⟨m, hm, heq.trans hname⟩)
      rw [if_pos hname, if_pos hname, hnone]
      rfl
    · rw [if_neg hname, if_neg hname]

/-- Members that are brought into order keep their values, if no name stands twice. -/
theorem get?_ofList {ns : List (String × α)} (hns : (ns.map (·.1)).Nodup) (name : String) :
    get? (ofList ns) name = get? ns name := by
  rw [ofList, get?_foldl_insert ns hns, get?_nil, Option.or_none]

theorem get?_filter (p : String → Bool) (ms : Members α) (name : String) :
    get? (ms.filter fun m => p m.1) name = if p name then get? ms name else none := by
  induction ms with
  | nil => exact (ite_self none).symm
  | cons m ms ih =>
    rw [List.filter_cons, get?_cons]
    by_cases hname : name = m.1
    · subst hname
      cases hp : p m.1 with
      | true => simp [get?_cons]
      | false =>
        rw [hp] at ih
        simpa using ih
    · cases hm : p m.1 with
      | true => simp only [if_true, get?_cons, if_neg hname, ih]
      | false => simpa [hname] using ih

/-- Members in order are the same if every name has the same value. -/
theorem ext_of_sorted (hms : Sorted ms) (hns : Sorted ns) (h : ∀ name, get? ms name = get? ns name) :
    ms = ns := by
  induction ms generalizing ns with
  | nil =>
    cases ns with
    | nil => rfl
    | cons n ns =>
      have hn := h n.1
      rw [get?_cons, if_pos rfl] at hn
      cases hn
  | cons m ms ih =>
    obtain ⟨hfirst, hrest⟩ := List.pairwise_cons.1 hms
    have hm := h m.1
    rw [get?_cons, if_pos rfl] at hm
    cases ns with
    | nil => cases hm
    | cons n ns =>
      obtain ⟨hfirst', hrest'⟩ := List.pairwise_cons.1 hns
      have hn := h n.1
      rw [get?_cons n, if_pos rfl] at hn
      -- The first name of either list is not before that of the other.
      have hle : n.1 ≤ m.1 := by
        rcases List.mem_cons.1 (mem_of_get? hm.symm) with heq | hmem
        · exact le_of_eq (congrArg Prod.fst heq).symm
        · exact le_of_lt (hfirst' _ hmem)
      have hge : m.1 ≤ n.1 := by
        rcases List.mem_cons.1 (mem_of_get? hn) with heq | hmem
        · exact le_of_eq (congrArg Prod.fst heq).symm
        · exact le_of_lt (hfirst _ hmem)
      have hname : n.1 = m.1 := le_antisymm hle hge
      have hvalue : m = n := by
        rw [get?_cons, if_pos hname.symm] at hm
        exact Prod.ext hname.symm (Option.some.inj hm)
      subst hvalue
      refine congrArg (m :: ·) (ih hrest hrest' fun name => ?_)
      by_cases heq : name = m.1
      · rw [get?_eq_none fun n hn => heq ▸ (ne_of_lt (hfirst n hn)).symm,
          get?_eq_none fun n hn => heq ▸ (ne_of_lt (hfirst' n hn)).symm]
      · have hname := h name
        rwa [get?_cons, get?_cons, if_neg heq, if_neg heq] at hname

/-- Members in order stay as they are. -/
theorem ofList_of_sorted (h : Sorted ms) : ofList ms = ms :=
  ext_of_sorted (sorted_ofList ms) h (get?_ofList h.nodup)

theorem Sorted.filter (p : String × α → Bool) (h : Sorted ms) : Sorted (ms.filter p) :=
  List.Pairwise.filter p h

end JiraQuery.Members
