import JiraQuery.Proofs.Jql.Lexeme

/-!
# Texts that differ within their quotes

Two query texts are read in step if they have the same characters outside of quotes, in the same order, and
a quoted text at the same places. A quoted text may stand for any other one, whatever characters it has and
whatever follows it. Main statements: `InStep.append`, `inStep_quote`, and `InStep.lexemes?_eq`, texts that
are read in step are cut into the same lexemes but for what is in the quotes.
-/

namespace JiraQuery

namespace Text.Quoted

/-- Puts a backslash in front of each occurrence of a character. -/
def marked (c : Char) (s : List Char) : List Char :=
  s.flatMap fun d => if d = c then ['\\', d] else [d]

/-- Backslashes are marked first, so that those in front of quotes stay as they are. -/
theorem escape_eq_marked (s : List Char) : escape s = marked '"' (marked '\\' s) := by
  induction s with
  | nil => rfl
  | cons c s ih =>
    unfold marked at ih ⊢
    rw [escape, List.flatMap_cons, List.flatMap_append, ih]
    by_cases hb : c = '\\'
    · subst hb
      rfl
    · by_cases hq : c = '"'
      · subst hq
        rfl
      · simp [hb, hq]

example : unescape (marked '\\' (marked '"' ['"']) ++ ['"']) = some (['\\'], ['"']) := by decide

/-- A quoted text and what follows it are told from one another. -/
theorem quote_append_inj {t t' : String} {s s' : List Char}
    (h : (quote t).toList ++ s = (quote t').toList ++ s') : t = t' ∧ s = s' := by
  have hread := congrArg unquote h
  unfold quote at hread
  rw [String.toList_ofList, String.toList_ofList, unquote_quote, unquote_quote] at hread
  obtain ⟨ht, hs⟩ := Prod.mk.inj (Option.some.inj hread)
  exact ⟨String.toList_inj.1 ht, hs⟩

theorem quote_injective : Function.Injective quote := by
  intro t t' h
  have happend : (quote t).toList ++ [] = (quote t').toList ++ [] := by rw [h]
  exact (quote_append_inj happend).1

end Text.Quoted

namespace Jql

open Text.Quoted (quote unescape)

/-- The same characters outside of quotes, and quoted texts at the same places. -/
inductive InStep : List Char → List Char → Prop
  | nil : InStep [] []
  | bare {c : Char} {a b : List Char} (hc : c ≠ '"') : InStep a b → InStep (c :: a) (c :: b)
  | quoted {a b t u rest rest' : List Char} (ha : unescape a = some (t, rest))
      (hb : unescape b = some (u, rest')) : InStep rest rest' → InStep ('"' :: a) ('"' :: b)

/-- Whether the quotes in a text are closed. -/
def ClosesQuotes (s : String) : Prop :=
  InStep s.toList s.toList

namespace InStep

variable {a b c d : List Char}

theorem append (h : InStep a b) (h' : InStep c d) : InStep (a ++ c) (b ++ d) := by
  induction h with
  | nil => exact h'
  | bare hc _ ih => exact .bare hc ih
  | quoted ha hb _ ih => exact .quoted (unescape_append c ha) (unescape_append d hb) ih

/-- A text without quotes. -/
theorem of_bare {s : List Char} (h : '"' ∉ s) : InStep s s := by
  induction s with
  | nil => exact .nil
  | cons c s ih =>
    rw [List.mem_cons, not_or] at h
    exact .bare (Ne.symm h.1) (ih h.2)

end InStep

/-- Any quoted text may stand for any other one. -/
theorem inStep_quote (t u : String) : InStep (quote t).toList (quote u).toList := by
  have hread : ∀ s : String, ∃ rest, (quote s).toList = '"' :: rest ∧ unescape rest = some (s.toList, []) := by
    intro s
    exact ⟨_, String.toList_ofList, Text.Quoted.unescape_escape s.toList []⟩
  obtain ⟨a, ha, hra⟩ := hread t
  obtain ⟨b, hb, hrb⟩ := hread u
  rw [ha, hb]
  exact .quoted hra hrb .nil

/-! ## Lexemes -/

/-- A lexeme without what is in its quotes. -/
def Lexeme.masked : Lexeme → Lexeme
  | quoted _ => quoted ""
  | l => l

theorem lexemes?_sign {c : Char} (s : List Char) (hc : isSignChar c) :
    lexemes? (c :: s) = (lexemes? (s.dropWhile isSignChar)).map
      (.sign (String.ofList (c :: s.takeWhile isSignChar)) :: ·) := by
  have halone : ∀ d, isSignChar d → Text.isBlank d = false ∧ d ≠ '(' ∧ d ≠ ')' ∧ d ≠ ',' ∧ d ≠ '"' := by
    simp only [isSignChar, List.contains_iff_mem, List.mem_cons, List.not_mem_nil, or_false, forall_eq_or_imp,
      forall_eq]
    decide
  obtain ⟨hb, ho, hp, hk, hq⟩ := halone c hc
  rw [lexemes?]
  simp [hb, ho, hp, hk, hq, hc]

/-- A run of characters other than quotes is the same in both texts. -/
theorem InStep.span {a b : List Char} {p : Char → Bool} (hp : p '"' = false) (h : InStep a b) :
    a.takeWhile p = b.takeWhile p ∧ InStep (a.dropWhile p) (b.dropWhile p) := by
  induction h with
  | nil => exact ⟨rfl, .nil⟩
  | @bare c a b hc h ih =>
    obtain ⟨htake, hdrop⟩ := ih
    by_cases hpc : p c
    · simp [hpc, htake, hdrop]
    · simpa [hpc] using InStep.bare hc h
  | quoted ha hb h =>
    simpa [hp] using InStep.quoted ha hb h

/-- A lexeme more in front of what is the same but for the quotes. -/
theorem map_masked_cons {l l' : Lexeme} {x y : Option (List Lexeme)} (hl : l.masked = l'.masked)
    (h : x.map (List.map Lexeme.masked) = y.map (List.map Lexeme.masked)) :
    (x.map (l :: ·)).map (List.map Lexeme.masked) = (y.map (l' :: ·)).map (List.map Lexeme.masked) := by
  cases x with
  | none => cases y with
    | none => rfl
    | some ms => cases h
  | some ls => cases y with
    | none => cases h
    | some ms =>
      have hrest : ls.map Lexeme.masked = ms.map Lexeme.masked := Option.some.inj h
      simp [hl, hrest]

/-- Texts that are read in step are cut into the same lexemes, but for what is in the quotes, or neither of
them is. -/
theorem InStep.lexemes?_eq {a b : List Char} (h : InStep a b) :
    (lexemes? a).map (List.map Lexeme.masked) = (lexemes? b).map (List.map Lexeme.masked) := by
  fun_induction lexemes? a generalizing b with
  | case1 =>
    cases h
    simp
  | case2 c s hb ih =>
    cases h with
    | bare hc h => rw [ih h, lexemes?_blank _ hb]
    | quoted => exact absurd hb (by decide)
  | case3 s hb ih =>
    cases h with
    | bare hc h =>
      rw [lexemes?_opening]
      exact map_masked_cons rfl (ih h)
  | case4 s hb ho ih =>
    cases h with
    | bare hc h =>
      rw [lexemes?_closing]
      exact map_masked_cons rfl (ih h)
  | case5 s hb ho hp ih =>
    cases h with
    | bare hc h =>
      rw [lexemes?_comma]
      exact map_masked_cons rfl (ih h)
  | case6 s t rest hu hb ho hp hk ih =>
    cases h with
    | bare hc h => exact absurd rfl hc
    | quoted ha hu' h =>
      obtain ⟨rfl, rfl⟩ := Prod.mk.inj (Option.some.inj (hu.symm.trans ha))
      rw [lexemes?_quoted hu']
      exact map_masked_cons rfl (ih h)
  | case7 s hu =>
    cases h with
    | bare hc h => exact absurd rfl hc
    | quoted ha hu' h => cases hu.symm.trans ha
  | case8 c s hb ho hp hk hq hsign ih =>
    cases h with
    | quoted => exact absurd rfl hq
    | bare hc h =>
      obtain ⟨htake, hdrop⟩ := h.span (p := isSignChar) (by decide)
      rw [lexemes?_sign _ hsign, htake]
      exact map_masked_cons rfl (ih hdrop)
  | case9 c s hb ho hp hk hq hsign hword ih =>
    cases h with
    | quoted => exact absurd rfl hq
    | bare hc h =>
      obtain ⟨htake, hdrop⟩ := h.span (p := isWordChar) (by decide)
      rw [lexemes?_word _ hword, htake]
      exact map_masked_cons rfl (ih hdrop)
  | case10 c s hb ho hp hk hq hsign hword =>
    cases h with
    | quoted => exact absurd rfl hq
    | bare hc h =>
      rw [lexemes?]
      simp [hb, ho, hp, hk, hq, hsign, hword]

/-- A run of characters other than quotes, and what closes its quotes. -/
theorem InStep.of_dropWhile {s : List Char} {p : Char → Bool} (hp : p '"' = false)
    (h : InStep (s.dropWhile p) (s.dropWhile p)) : InStep s s := by
  have hrun : '"' ∉ s.takeWhile p := by
    intro hq
    rw [List.mem_takeWhile_imp hq] at hp
    cases hp
  have hall := (InStep.of_bare hrun).append h
  rwa [List.takeWhile_append_dropWhile] at hall

/-- A text that is cut into lexemes closes its quotes. -/
theorem inStep_of_lexemes? {s : List Char} {ls : List Lexeme} (h : lexemes? s = some ls) : InStep s s := by
  fun_induction lexemes? s generalizing ls with
  | case1 => exact .nil
  | case2 c s hb ih =>
    have hq : c ≠ '"' := by
      rintro rfl
      exact absurd hb (by decide)
    exact .bare hq (ih h)
  | case3 s hb ih | case4 s hb ho ih | case5 s hb ho hp ih =>
    obtain ⟨_, hls, -⟩ := Option.map_eq_some_iff.1 h
    exact .bare (by decide) (ih hls)
  | case6 s t rest hu hb ho hp hk ih =>
    obtain ⟨_, hls, -⟩ := Option.map_eq_some_iff.1 h
    exact .quoted hu hu (ih hls)
  | case7 => cases h
  | case8 c s hb ho hp hk hq hsign ih =>
    obtain ⟨_, hls, -⟩ := Option.map_eq_some_iff.1 h
    exact .bare hq (.of_dropWhile (by decide) (ih hls))
  | case9 c s hb ho hp hk hq hsign hword ih =>
    obtain ⟨_, hls, -⟩ := Option.map_eq_some_iff.1 h
    exact .bare hq (.of_dropWhile (by decide) (ih hls))
  | case10 => cases h

theorem Spells.closesQuotes {s : String} {ls : List Lexeme} (h : Spells s ls) : ClosesQuotes s :=
  inStep_of_lexemes? h

/-- Behind a text that is cut into lexemes, a quoted text is one lexeme, and what follows it is cut as it is
by itself. -/
theorem lexemes?_quote_append {before : String} {ls : List Lexeme} (h : Spells before ls) (t : String)
    (after : List Char) : lexemes? (before.toList ++ ((quote t).toList ++ after)) =
      (lexemes? after).map (ls ++ .quoted t :: ·) := by
  have hquote : (quote t).toList ++ after = '"' :: (Text.Quoted.escape t.toList ++ '"' :: after) := by
    simp [quote, Text.Quoted.quoteChars]
  rw [hquote, lexemes?_append h (breaks_cons (by decide) (by decide)),
    lexemes?_quoted (Text.Quoted.unescape_escape t.toList after), String.ofList_toList, Option.map_map]
  rfl

end Jql

end JiraQuery
