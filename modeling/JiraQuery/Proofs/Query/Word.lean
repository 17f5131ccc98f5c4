import JiraQuery.Proofs.Jql.Lexeme
import JiraQuery.Query.Catalog

/-!
# Bare words

What a query writes without quotes: numbers, and the references to fields that are known by a number
or that every server has. Main statements: `isWord_integer`, `isWord_float` and `isWord_numbered`.
-/

namespace JiraQuery

open Jql (Spells isWordChar)

theorem isWordChar_of_isDigit {c : Char} (h : c.isDigit) : isWordChar c := by
  have hall : ∀ n : Fin 128, (Char.ofNat n).isDigit → isWordChar (Char.ofNat n) := by decide
  have hlt : c.toNat < 128 := by
    simp only [Char.isDigit, Bool.and_eq_true, decide_eq_true_eq, ge_iff_le,
      UInt32.le_iff_toNat_le] at h
    have h9 : c.toNat ≤ 57 := h.2
    omega
  simpa using hall ⟨c.toNat, hlt⟩ (by simpa using h)

/-- Word characters, and at least one of them. -/
structure IsWord (s : List Char) : Prop where
  ne_nil : s ≠ []
  all : ∀ c ∈ s, isWordChar c

namespace IsWord

instance (s : List Char) : Decidable (IsWord s) :=
  decidable_of_iff (s ≠ [] ∧ s.all isWordChar = true)
    ⟨fun h => ⟨h.1, List.all_eq_true.1 h.2⟩, fun h => ⟨h.ne_nil, List.all_eq_true.2 h.all⟩⟩

theorem spells {w : String} (h : IsWord w.toList) : Spells w [.word w] :=
  Jql.spells_word (fun hw => h.ne_nil (String.toList_eq_nil_iff.2 hw)) h.all

theorem append {s t : List Char} (hs : IsWord s) (ht : ∀ c ∈ t, isWordChar c) : IsWord (s ++ t) where
  ne_nil h := hs.ne_nil (List.append_eq_nil_iff.1 h).1
  all c hc := (List.mem_append.1 hc).elim (hs.all c) (ht c)

theorem cons {c : Char} {s : List Char} (hc : isWordChar c) (hs : ∀ d ∈ s, isWordChar d) :
    IsWord (c :: s) where
  ne_nil := List.cons_ne_nil c s
  all d hd := by
    rcases List.mem_cons.1 hd with rfl | hd
    · exact hc
    · exact hs d hd

end IsWord

/-! ## Numbers -/

theorem isWord_repr (n : Nat) : IsWord n.repr.toList where
  ne_nil h := Nat.repr_ne_empty (String.toList_eq_nil_iff.1 h)
  all c hc := by
    rw [Nat.toList_repr] at hc
    exact isWordChar_of_isDigit (Nat.isDigit_of_mem_toDigits (by decide) (by decide) hc)

theorem isWord_integer (n : Int) : IsWord (toString n).toList := by
  rw [Int.toString_eq_repr, Int.repr_eq_if]
  split
  · exact isWord_repr _
  · rw [String.toList_append]
    exact .cons (by decide) (isWord_repr _).all

theorem isWord_positional (d : Number.Decimal) : IsWord d.positional := by
  have hd : IsWord d.digitChars := isWord_repr d.digits
  have hz : ∀ n, ∀ c ∈ List.replicate n '0', isWordChar c := by
    intro n c hc
    rw [List.eq_of_mem_replicate hc]
    decide
  have hpoint : isWordChar '.' := by decide
  unfold Number.Decimal.positional
  simp only
  split
  · exact hd.append (hz _)
  · split
    · have htail : IsWord ('.' :: d.digitChars.drop (d.digitChars.length - (-d.exponent).toNat)) :=
        .cons hpoint fun c hc => hd.all c (List.mem_of_mem_drop hc)
      refine ⟨by simp, fun c hc => ?_⟩
      rcases List.mem_append.1 hc with hc | hc
      · exact hd.all c (List.mem_of_mem_take hc)
      · exact htail.all c hc
    · have hplaces : ∀ c ∈ List.replicate ((-d.exponent).toNat - d.digitChars.length) '0' ++
          d.digitChars, isWordChar c := by
        intro c hc
        exact (List.mem_append.1 hc).elim (hz _ c) (hd.all c)
      exact .cons (by decide) (IsWord.cons hpoint hplaces).all

/-- Numbers in queries are positional at any size. -/
theorem finite_floatLayout (d : Number.Decimal) : Literal.floatLayout.finite d = d.positional := by
  simp [Number.Layout.finite, Literal.floatLayout]

theorem isWord_float (x : Float) : IsWord (Literal.floatLayout.render x).toList := by
  unfold Number.Layout.render
  split
  · decide
  · split
    · decide
    · decide
  · rw [String.toList_ofList, finite_floatLayout]
    split
    · exact .cons (by decide) (isWord_positional _).all
    · exact isWord_positional _

/-! ## References by number -/

theorem isDigit_of_customFieldNumber? {id number : String} (h : customFieldNumber? id = some number) :
    ∀ c ∈ number.toList, c.isDigit := by
  obtain ⟨ds, -, hds⟩ := Option.bind_eq_some_iff.1 h
  split at hds
  · next hdigits =>
    obtain rfl : String.ofList ds = number := by simpa using hds
    rw [String.toList_ofList]
    simp only [Bool.and_eq_true, List.all_eq_true] at hdigits
    exact hdigits.2
  · simp at hds

theorem isDigit_of_fieldNumber? {id number : String} (h : fieldNumber? id = some number) :
    ∀ c ∈ number.toList, c.isDigit := by
  rcases Option.or_eq_some_iff.1 h with h | ⟨-, h⟩
  · exact isDigit_of_customFieldNumber? h
  · split at h
    · next hdigits =>
      obtain rfl : id = number := by simpa using h
      simp only [Bool.and_eq_true, List.all_eq_true] at hdigits
      exact hdigits.2
    · simp at h

theorem toList_numbered (number : String) :
    (FieldRef.numbered number).toList = 'c' :: 'f' :: '[' :: (number.toList ++ [']']) := by
  simp [FieldRef.numbered]

theorem isWord_numbered {number : String} (h : ∀ c ∈ number.toList, c.isDigit) :
    IsWord (FieldRef.numbered number).toList := by
  rw [toList_numbered]
  have hclose : ∀ c ∈ number.toList ++ [']'], isWordChar c := by
    intro c hc
    rcases List.mem_append.1 hc with hc | hc
    · exact isWordChar_of_isDigit (h c hc)
    · rw [List.mem_singleton.1 hc]
      decide
  exact .cons (by decide) (IsWord.cons (by decide) (IsWord.cons (by decide) hclose).all).all

theorem isWord_jqlName (f : SystemField) : IsWord f.jqlName.toList := by
  cases f <;> decide

end JiraQuery
