import JiraQuery.Proofs.Toml.Values

/-!
# Sections that are read back

Every line of a section is one statement and every blank line is none, so that a file says what its sections
say one after the other. Main statement: `reads_render`.
-/

namespace JiraQuery.Toml

variable {s t : List Char} {c : Char} {key : String} {p : String × Scalar} {x : Section}
variable {ys zs : List Statement}

/-! ## Keys -/

/-- Whether a key stands without quotes. -/
def isBareKey (key : String) : Bool :=
  !key.toList.isEmpty && key.toList.all isBareKeyChar

theorem exists_cons_of_isBareKey (hkey : isBareKey key = true) :
    ∃ c r, key.toList = c :: r ∧ ∀ d ∈ c :: r, isBareKeyChar d = true := by
  obtain ⟨hne, hall⟩ := Bool.and_eq_true_iff.1 hkey
  cases hchars : key.toList with
  | nil => simp [hchars] at hne
  | cons c r => exact ⟨c, r, rfl, by simpa [hchars] using hall⟩

theorem ne_of_isBareKeyChar {d : Char} (hc : isBareKeyChar c = true) (hd : isBareKeyChar d = false) : c ≠ d := by
  rintro rfl
  rw [hc] at hd
  cases hd

theorem isSpace_of_isBareKeyChar (hc : isBareKeyChar c = true) : isSpace c = false := by
  rw [isSpace, Bool.or_eq_false_iff, decide_eq_false_iff_not, decide_eq_false_iff_not]
  exact ⟨ne_of_isBareKeyChar hc (by decide), ne_of_isBareKeyChar hc (by decide)⟩

/-- A key is read up to what cannot belong to it. -/
theorem key?_bare (hkey : isBareKey key = true) (hbare : ∀ c ∈ s.head?, isBareKeyChar c = false)
    (hdot : ∀ c ∈ (skipSpace s).head?, c ≠ '.') : key? (key.toList ++ s) = some (([], key), skipSpace s) := by
  obtain ⟨c, r, hchars, hall⟩ := exists_cons_of_isBareKey hkey
  have hc : isBareKeyChar c = true := hall c List.mem_cons_self
  obtain ⟨htake, hdrop⟩ := run_append hall hbare
  have hpart : keyPart? (c :: r ++ s) = some (key, s) := by
    have hdouble : c ≠ '"' := ne_of_isBareKeyChar hc (by decide)
    have hsingle : c ≠ '\x27' := ne_of_isBareKeyChar hc (by decide)
    unfold keyPart?
    split
    · simp_all
    · simp_all
    · simp only [htake, hdrop, List.isEmpty_cons, Bool.false_eq_true, if_false]
      rw [← hchars, String.ofList_toList]
  have hparts : keyParts? maxDepth (c :: r ++ s) = some ([key], skipSpace s) := by
    have hspace : skipSpace (c :: r ++ s) = c :: r ++ s :=
      skipSpace_of_head (by simpa using isSpace_of_isBareKeyChar hc)
    show (keyPart? (skipSpace (c :: r ++ s))).bind _ = _
    rw [hspace, hpart]
    dsimp only [Option.bind_some]
    split
    · next heq => exact absurd rfl (hdot '.' (by rw [heq]; rfl))
    · rfl
  unfold key?
  rw [hchars, hparts]
  rfl

/-! ## Lines -/

/-- The line of a pair. -/
def pairLine (p : String × Scalar) : String :=
  p.1 ++ " = " ++ p.2.render ++ "\n"

/-- What the line of a pair says. -/
def pairStatement (p : String × Scalar) : Statement :=
  .pair ([], p.1) p.2.toJson

theorem pairLine_append (p : String × Scalar) (t : List Char) :
    (pairLine p).toList ++ t = p.1.toList ++ ' ' :: '=' :: ' ' :: (p.2.render.toList ++ '\n' :: t) := by
  simp [pairLine]

theorem pair?_line (hkey : isBareKey p.1 = true) (hfits : p.2.Fits) (t : List Char) :
    pair? ((pairLine p).toList ++ t) = some (pairStatement p, t) := by
  have hread : key? (p.1.toList ++ ' ' :: '=' :: ' ' :: (p.2.render.toList ++ '\n' :: t)) =
      some (([], p.1), '=' :: ' ' :: (p.2.render.toList ++ '\n' :: t)) :=
    key?_bare hkey (by simp; decide) (by simp [skipSpace, isSpace])
  have hspace : skipSpace (' ' :: (p.2.render.toList ++ '\n' :: t)) = p.2.render.toList ++ '\n' :: t :=
    skipSpace_render p.2 _
  have hvalue : ∀ fuel, value? (fuel + 2) maxDepth (p.2.render.toList ++ '\n' :: t) =
      some (p.2.toJson, '\n' :: t) := fun fuel => value?_render (Nat.le_add_left 2 fuel) (by decide) hfits t
  unfold pair?
  rw [pairLine_append, hread]
  simp only [hspace, hvalue]
  rfl

/-- The header of a table, or of one of several. -/
def headerLine (key : String) (several : Bool) : String :=
  if several then "[[" ++ key ++ "]]" else "[" ++ key ++ "]"

theorem header?_line (hkey : isBareKey key = true) (several : Bool) (t : List Char) :
    ∃ r, (headerLine key several).toList ++ '\n' :: t = '[' :: r ∧
      header? r = some (.header ([], key) several, t) := by
  cases several with
  | true =>
    refine ⟨'[' :: (key.toList ++ ']' :: ']' :: '\n' :: t), by simp [headerLine], ?_⟩
    have hread : key? (key.toList ++ ']' :: ']' :: '\n' :: t) = some (([], key), ']' :: ']' :: '\n' :: t) :=
      key?_bare hkey (by simp; decide) (by simp [skipSpace, isSpace])
    unfold header?
    simp only [hread]
    rfl
  | false =>
    refine ⟨key.toList ++ ']' :: '\n' :: t, by simp [headerLine], ?_⟩
    have hread : key? (key.toList ++ ']' :: '\n' :: t) = some (([], key), ']' :: '\n' :: t) :=
      key?_bare hkey (by simp; decide) (by simp [skipSpace, isSpace])
    obtain ⟨c, r, hchars, hall⟩ := exists_cons_of_isBareKey hkey
    have hbracket : c ≠ '[' := ne_of_isBareKeyChar (hall c List.mem_cons_self) (by decide)
    unfold header?
    split
    · next heq =>
      rw [hchars] at heq
      exact absurd (List.cons.inj heq).1 hbracket
    · rw [hread]
      rfl

/-! ## What a text says -/

/-- Whether a text is read as certain statements. -/
def Reads (s : List Char) (ys : List Statement) : Prop :=
  ∀ fuel, s.length < fuel → statements? fuel s = some ys

theorem reads_nil : Reads [] [] := by
  intro fuel hfuel
  obtain ⟨fuel, rfl⟩ : ∃ k, fuel = k + 1 := ⟨fuel - 1, by omega⟩
  rfl

theorem reads_blank (h : Reads t ys) : Reads ('\n' :: t) ys := by
  intro fuel hfuel
  obtain ⟨fuel, rfl⟩ : ∃ k, fuel = k + 1 := ⟨fuel - 1, by omega⟩
  exact h fuel (by simpa using hfuel)

theorem reads_pair (hkey : isBareKey p.1 = true) (hfits : p.2.Fits) (h : Reads t ys) :
    Reads ((pairLine p).toList ++ t) (pairStatement p :: ys) := by
  intro fuel hfuel
  obtain ⟨fuel, rfl⟩ : ∃ k, fuel = k + 1 := ⟨fuel - 1, by omega⟩
  have hrest := h fuel (by simp [pairLine] at hfuel; omega)
  have hpair := pair?_line hkey hfits t
  obtain ⟨c, r, hchars, hall⟩ := exists_cons_of_isBareKey hkey
  have hc := hall c List.mem_cons_self
  rw [pairLine_append, hchars, List.cons_append] at hpair ⊢
  have hspace : ∀ u, skipSpace (c :: u) = c :: u := fun u =>
    skipSpace_of_head (by simpa using isSpace_of_isBareKeyChar hc)
  have hopen : c ≠ '[' := ne_of_isBareKeyChar hc (by decide)
  have hskip : ¬(c = '#' ∨ c = '\n' ∨ c = '\r') := by
    rintro (rfl | rfl | rfl) <;> exact absurd hc (by decide)
  unfold statements?
  rw [hspace]
  split
  · next heq => cases heq
  · next heq => exact absurd (List.cons.inj heq).1 hopen
  · next d u _ heq =>
    obtain ⟨rfl, rfl⟩ := List.cons.inj heq
    rw [if_neg hskip, hpair]
    simp [hrest]

theorem reads_header (hkey : isBareKey key = true) (several : Bool) (h : Reads t ys) :
    Reads ((headerLine key several).toList ++ '\n' :: t) (.header ([], key) several :: ys) := by
  intro fuel hfuel
  obtain ⟨fuel, rfl⟩ : ∃ k, fuel = k + 1 := ⟨fuel - 1, by omega⟩
  have hrest := h fuel (by simp at hfuel; omega)
  obtain ⟨r, hline, hheader⟩ := header?_line hkey several t
  rw [hline]
  show (header? r).bind _ = _
  rw [hheader]
  simp [hrest]

/-! ## What sections say -/

/-- What a section says, if all of it can be read: below a header its pairs, or its pairs alone. -/
inductive Section.Says : Section → List Statement → Prop
  | front {pairs : List (String × Scalar)} (hpairs : ∀ p ∈ pairs, isBareKey p.1 = true ∧ p.2.Fits) :
    Says { pairs } (pairs.map pairStatement)
  | table {key : String} (several : Bool) {pairs : List (String × Scalar)} (hkey : isBareKey key = true)
    (hpairs : ∀ p ∈ pairs, isBareKey p.1 = true ∧ p.2.Fits) :
    Says { header := some (headerLine key several), pairs }
      (.header ([], key) several :: pairs.map pairStatement)

theorem reads_pairs {pairs : List (String × Scalar)} (hpairs : ∀ p ∈ pairs, isBareKey p.1 = true ∧ p.2.Fits)
    (h : Reads t zs) :
    Reads ((String.join (pairs.map pairLine)).toList ++ t) (pairs.map pairStatement ++ zs) := by
  induction pairs with
  | nil => exact h
  | cons p pairs ih =>
    obtain ⟨⟨hkey, hfits⟩, hrest⟩ := List.forall_mem_cons.1 hpairs
    have hpair := reads_pair hkey hfits (ih hrest)
    simpa [String.join_cons] using hpair

theorem Section.render_table (header : String) (pairs : List (String × Scalar)) :
    Section.render { header := some header, pairs } = header ++ "\n" ++ String.join (pairs.map pairLine) := by
  show String.join ((header ++ "\n") :: pairs.map pairLine) = _
  exact String.join_cons

theorem reads_section (hx : x.Says ys) (h : Reads t zs) : Reads (x.render.toList ++ t) (ys ++ zs) := by
  cases hx with
  | front hpairs => exact reads_pairs hpairs h
  | table several hkey hpairs =>
    have htable := reads_header hkey several (reads_pairs hpairs h)
    rw [Section.render_table]
    simpa using htable

/-- Sections with a blank line between them, by induction on the sections. -/
theorem reads_joined {xs : List Section} {yss : List (List Statement)} (h : List.Forall₂ Section.Says xs yss) :
    Reads (Text.joined "\n" (xs.map Section.render)).toList yss.flatten := by
  induction h with
  | nil => exact reads_nil
  | @cons x ys xs yss hx hxs ih =>
    have hlast := reads_section hx reads_nil
    cases hxs with
    | nil => simpa using hlast
    | @cons x' ys' xs yss hx' hxs =>
      have hblank := reads_section hx (reads_blank ih)
      simpa [Text.joined_cons_cons] using hblank

/-- Sections that are left out say nothing. -/
theorem exists_says_filter {xs : List Section} {yss : List (List Statement)}
    (h : List.Forall₂ Section.Says xs yss) :
    ∃ zss, List.Forall₂ Section.Says (xs.filter fun x => x.header.isSome || !x.pairs.isEmpty) zss ∧
      zss.flatten = yss.flatten := by
  induction h with
  | nil => exact ⟨[], .nil, rfl⟩
  | @cons x ys xs yss hx hxs ih =>
    obtain ⟨zss, hzss, hflatten⟩ := ih
    by_cases hshown : (x.header.isSome || !x.pairs.isEmpty) = true
    · refine ⟨ys :: zss, ?_, by simp [hflatten]⟩
      rw [List.filter_cons, if_pos hshown]
      exact .cons hx hzss
    · refine ⟨zss, ?_, ?_⟩
      · rw [List.filter_cons, if_neg hshown]
        exact hzss
      · cases hx with
        | table => simp at hshown
        | front => simp_all

/-- A file says what its sections say. -/
theorem reads_render {xs : List Section} {yss : List (List Statement)} (h : List.Forall₂ Section.Says xs yss) :
    Reads (render xs).toList yss.flatten := by
  obtain ⟨zss, hzss, hflatten⟩ := exists_says_filter h
  rw [← hflatten]
  exact reads_joined hzss

end JiraQuery.Toml
