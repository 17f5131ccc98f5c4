import JiraQuery.Proofs.Outcome
import JiraQuery.Query.Literal
import JiraQuery.Text.Blank
import Mathlib

/-!
# Lexemes of a query text

A query text is cut into lexemes: bare words, quoted texts, comparison signs, and the punctuation of
lists and groups. Main statement: `lexemes?_append`, a text that has been cut stays so cut in front of
anything that does not go on with its last word or sign.
-/

namespace JiraQuery.Jql

inductive Lexeme
  /-- Letters, digits and the like, without quotes. -/
  | word (text : String)
  | quoted (text : String)
  /-- A comparison sign. -/
  | sign (text : String)
  | opening | closing | comma
  deriving DecidableEq, Repr

/-- What comparison signs are made of. -/
def isSignChar (c : Char) : Bool :=
  ['=', '!', '<', '>', '~'].contains c

/-- What bare words are made of: all that has no other part in a text. -/
def isWordChar (c : Char) : Bool :=
  !Text.isBlank c && !isSignChar c && !(['"', '\'', '(', ')', ','].contains c)

theorem length_lt_of_unescape {s t rest : List Char}
    (h : Text.Quoted.unescape s = some (t, rest)) : rest.length < s.length := by
  fun_induction Text.Quoted.unescape s generalizing t with
  | case1 => simp at h
  | case2 => simp at h
  | case3 c s ih =>
    obtain ⟨t, hr⟩ := exists_of_map_eq_some h fun _ => rfl
    have := ih hr
    simp only [List.length_cons]
    omega
  | case4 => simp_all
  | case5 c s _ _ _ ih =>
    obtain ⟨t, hr⟩ := exists_of_map_eq_some h fun _ => rfl
    have := ih hr
    simp only [List.length_cons]
    omega

theorem length_dropWhile_lt (p : Char → Bool) (c : Char) (s : List Char) :
    (s.dropWhile p).length < (c :: s).length :=
  Nat.lt_succ_of_le (List.dropWhile_suffix p).length_le

/-- Cuts a text into lexemes, as long as its characters have a place in one. -/
def lexemes? : List Char → Option (List Lexeme)
  | [] => some []
  | c :: s =>
    if Text.isBlank c then lexemes? s
    else if c = '(' then (lexemes? s).map (.opening :: ·)
    else if c = ')' then (lexemes? s).map (.closing :: ·)
    else if c = ',' then (lexemes? s).map (.comma :: ·)
    else if c = '"' then
      match _h : Text.Quoted.unescape s with
      | some (t, rest) => (lexemes? rest).map (.quoted (String.ofList t) :: ·)
      | none => none
    else if isSignChar c then
      (lexemes? (s.dropWhile isSignChar)).map (.sign (String.ofList (c :: s.takeWhile isSignChar)) :: ·)
    else if isWordChar c then
      (lexemes? (s.dropWhile isWordChar)).map (.word (String.ofList (c :: s.takeWhile isWordChar)) :: ·)
    else none
termination_by s => s.length
decreasing_by
  · exact Nat.lt_succ_self _
  · exact Nat.lt_succ_self _
  · exact Nat.lt_succ_self _
  · exact Nat.lt_succ_self _
  · exact Nat.lt_succ_of_lt (length_lt_of_unescape _h)
  · exact length_dropWhile_lt _ _ _
  · exact length_dropWhile_lt _ _ _

@[simp] theorem lexemes?_nil : lexemes? [] = some [] := by
  rw [lexemes?]

theorem lexemes?_blank {c : Char} (s : List Char) (hc : Text.isBlank c) :
    lexemes? (c :: s) = lexemes? s := by
  rw [lexemes?, if_pos hc]

@[simp] theorem lexemes?_space (s : List Char) : lexemes? (' ' :: s) = lexemes? s :=
  lexemes?_blank s (by decide)

@[simp] theorem lexemes?_opening (s : List Char) :
    lexemes? ('(' :: s) = (lexemes? s).map (.opening :: ·) := by
  rw [lexemes?, if_neg (by decide), if_pos rfl]

@[simp] theorem lexemes?_closing (s : List Char) :
    lexemes? (')' :: s) = (lexemes? s).map (.closing :: ·) := by
  rw [lexemes?, if_neg (by decide), if_neg (by decide), if_pos rfl]

@[simp] theorem lexemes?_comma (s : List Char) :
    lexemes? (',' :: s) = (lexemes? s).map (.comma :: ·) := by
  rw [lexemes?, if_neg (by decide), if_neg (by decide), if_neg (by decide), if_pos rfl]

theorem lexemes?_quoted {s t rest : List Char} (h : Text.Quoted.unescape s = some (t, rest)) :
    lexemes? ('"' :: s) = (lexemes? rest).map (.quoted (String.ofList t) :: ·) := by
  rw [lexemes?, if_neg (by decide), if_neg (by decide), if_neg (by decide), if_neg (by decide),
    if_pos rfl]
  split
  · next t' rest' h' =>
    obtain ⟨rfl, rfl⟩ : t' = t ∧ rest' = rest := by simpa using h'.symm.trans h
    rfl
  · next h' => simp [h] at h'

/-- A character of a word or a sign is none of those that stand alone. -/
theorem ne_of_isWordChar {c : Char} (h : isWordChar c) :
    Text.isBlank c = false ∧ isSignChar c = false ∧ c ≠ '(' ∧ c ≠ ')' ∧ c ≠ ',' ∧ c ≠ '"' := by
  obtain ⟨⟨hb, hs⟩, hq, -, ho, hp, hk⟩ : (Text.isBlank c = false ∧ isSignChar c = false) ∧
      c ≠ '"' ∧ c ≠ '\'' ∧ c ≠ '(' ∧ c ≠ ')' ∧ c ≠ ',' := by simpa [isWordChar] using h
  exact ⟨hb, hs, ho, hp, hk, hq⟩

/-- A word, and whatever follows it. -/
theorem lexemes?_word {c : Char} (s : List Char) (hc : isWordChar c) :
    lexemes? (c :: s) = (lexemes? (s.dropWhile isWordChar)).map
      (.word (String.ofList (c :: s.takeWhile isWordChar)) :: ·) := by
  obtain ⟨hb, hs, ho, hp, hk, hq⟩ := ne_of_isWordChar hc
  rw [lexemes?]
  simp [hb, hs, ho, hp, hk, hq, hc]

/-! ## Texts one after the other -/

/-- Whether a text does not go on with a word or a sign that stands in front of it. -/
def Breaks (t : List Char) : Prop :=
  ∀ c ∈ t.head?, isWordChar c = false ∧ isSignChar c = false

theorem breaks_cons {c : Char} {t : List Char} (hw : isWordChar c = false)
    (hs : isSignChar c = false) : Breaks (c :: t) := by
  intro d hd
  obtain rfl : c = d := by simpa using hd
  exact ⟨hw, hs⟩

theorem unescape_append {s t rest : List Char} (u : List Char)
    (h : Text.Quoted.unescape s = some (t, rest)) :
    Text.Quoted.unescape (s ++ u) = some (t, rest ++ u) := by
  fun_induction Text.Quoted.unescape s generalizing t with
  | case1 => simp at h
  | case2 => simp at h
  | case3 c s ih =>
    obtain ⟨r, hr, hrest⟩ := Option.map_eq_some_iff.1 h
    obtain ⟨rfl, rfl⟩ := Prod.mk.injEq .. ▸ hrest
    simp [Text.Quoted.unescape, ih hr]
  | case4 s => simp_all [Text.Quoted.unescape]
  | case5 c s hlast hescaped hc ih =>
    obtain ⟨r, hr, hrest⟩ := Option.map_eq_some_iff.1 h
    obtain ⟨rfl, rfl⟩ := Prod.mk.injEq .. ▸ hrest
    have hb : c ≠ '\\' := by
      rintro rfl
      cases s with
      | nil => exact hlast rfl rfl
      | cons d s => exact hescaped d s rfl rfl
    rw [List.cons_append, Text.Quoted.unescape, if_neg hc, ih hr]
    · rfl
    · intro h'; exact absurd h' hb
    · intro _ _ h'; exact absurd h' hb

/-- A run of characters ends where the text after it has no such character. -/
theorem takeWhile_dropWhile_append {p : Char → Bool} (s : List Char) {t : List Char}
    (ht : ∀ c ∈ t.head?, p c = false) :
    (s ++ t).takeWhile p = s.takeWhile p ∧ (s ++ t).dropWhile p = s.dropWhile p ++ t := by
  have hnil : t.takeWhile p = [] ∧ t.dropWhile p = t := by
    cases t with
    | nil => exact ⟨rfl, rfl⟩
    | cons c t => simp [ht c rfl]
  induction s with
  | nil => exact hnil
  | cons c s ih =>
    by_cases hc : p c
    · simp [hc, ih]
    · simp [hc]

theorem lexemes?_append {s t : List Char} {ls : List Lexeme} (h : lexemes? s = some ls)
    (ht : Breaks t) : lexemes? (s ++ t) = (lexemes? t).map (ls ++ ·) := by
  have hw := fun c hc => (ht c hc).1
  have hs := fun c hc => (ht c hc).2
  fun_induction lexemes? s generalizing ls with
  | case1 => simp_all
  | case2 c s hb ih => simp [lexemes?, hb, ih h]
  | case3 s hb ih =>
    obtain ⟨ls, hl, rfl⟩ := Option.map_eq_some_iff.1 h
    simp [ih hl, Function.comp_def]
  | case4 s hb ho ih =>
    obtain ⟨ls, hl, rfl⟩ := Option.map_eq_some_iff.1 h
    simp [ih hl, Function.comp_def]
  | case5 s hb ho hp ih =>
    obtain ⟨ls, hl, rfl⟩ := Option.map_eq_some_iff.1 h
    simp [ih hl, Function.comp_def]
  | case6 s text rest hu hb ho hp hk ih =>
    obtain ⟨ls, hl, rfl⟩ := Option.map_eq_some_iff.1 h
    rw [List.cons_append, lexemes?_quoted (unescape_append t hu), ih hl]
    simp [Function.comp_def]
  | case7 => simp at h
  | case8 c s hb ho hp hk hq hsign ih =>
    obtain ⟨ls, hl, rfl⟩ := Option.map_eq_some_iff.1 h
    obtain ⟨htake, hdrop⟩ := takeWhile_dropWhile_append s hs
    simp [lexemes?, hb, ho, hp, hk, hq, hsign, htake, hdrop, ih hl, Function.comp_def]
  | case9 c s hb ho hp hk hq hsign hword ih =>
    obtain ⟨ls, hl, rfl⟩ := Option.map_eq_some_iff.1 h
    obtain ⟨htake, hdrop⟩ := takeWhile_dropWhile_append s hw
    rw [List.cons_append, lexemes?_word _ hword, htake, hdrop, ih hl]
    simp [Function.comp_def]
  | case10 => simp at h

/-! ## What texts are made of -/

/-- Whether a text is cut into certain lexemes. -/
def Spells (text : String) (ls : List Lexeme) : Prop :=
  lexemes? text.toList = some ls

theorem Spells.append {a b : String} {ls ms : List Lexeme} (ha : Spells a ls) (hb : Spells b ms)
    (hbreak : Breaks b.toList) : Spells (a ++ b) (ls ++ ms) := by
  unfold Spells at *
  rw [String.toList_append, lexemes?_append ha hbreak, hb]
  rfl

/-- A bare word. -/
theorem spells_word {w : String} (hne : w ≠ "") (hw : ∀ c ∈ w.toList, isWordChar c) :
    Spells w [.word w] := by
  unfold Spells
  cases hl : w.toList with
  | nil => exact absurd (String.toList_eq_nil_iff.1 hl) hne
  | cons c s =>
    rw [hl] at hw
    have hs : ∀ d ∈ s, isWordChar d := fun d hd => hw d (List.mem_cons_of_mem c hd)
    have htake : (s ++ []).takeWhile isWordChar = s ++ [] := List.takeWhile_append_of_pos hs
    have hdrop : (s ++ []).dropWhile isWordChar = [] := List.dropWhile_append_of_pos hs
    rw [List.append_nil] at htake hdrop
    rw [lexemes?_word s (hw c List.mem_cons_self), htake, hdrop, ← hl]
    simp

theorem spells_quote (t : String) : Spells (Text.Quoted.quote t) [.quoted t] := by
  have h := Text.Quoted.unescape_escape t.toList []
  unfold Spells Text.Quoted.quote Text.Quoted.quoteChars
  rw [String.toList_ofList, lexemes?_quoted h]
  simp

/-- Two texts with a space between them. -/
theorem Spells.spaced {a b : String} {ls ms : List Lexeme} (ha : Spells a ls) (hb : Spells b ms) :
    Spells (a ++ " " ++ b) (ls ++ ms) := by
  have hlist : (" " ++ b).toList = ' ' :: b.toList := by simp
  have hspaced : Spells (" " ++ b) ms := by
    unfold Spells at *
    rw [hlist, lexemes?_space, hb]
  rw [String.append_assoc]
  exact ha.append hspaced (hlist ▸ breaks_cons (by decide) (by decide))

theorem Spells.enclosed {a : String} {ls : List Lexeme} (ha : Spells a ls) :
    Spells ("(" ++ a ++ ")") (.opening :: (ls ++ [.closing])) := by
  have hclosed : Spells (a ++ ")") (ls ++ [.closing]) :=
    ha.append (by simp [Spells]) (breaks_cons (by decide) (by decide))
  have hlist : ("(" ++ (a ++ ")")).toList = '(' :: (a ++ ")").toList := by simp
  unfold Spells at *
  rw [String.append_assoc, hlist, lexemes?_opening, hclosed]
  rfl

/-- Lists of lexemes with a comma between them. -/
def separated : List (List Lexeme) → List Lexeme
  | [] => []
  | [ls] => ls
  | ls :: rest => ls ++ .comma :: separated rest

/-- Texts one after the other with a comma between them. -/
theorem spells_joined {texts : List String} {lists : List (List Lexeme)}
    (h : List.Forall₂ Spells texts lists) :
    Spells (Text.joined ", " texts) (separated lists) := by
  induction h with
  | nil => simp [Spells, separated]
  | @cons a ls texts lists ha hrest ih =>
    cases hrest with
    | nil => exact ha
    | @cons b ms texts lists hb hrest =>
      have hlist : (", " ++ Text.joined ", " (b :: texts)).toList =
          ',' :: ' ' :: (Text.joined ", " (b :: texts)).toList := by simp
      have hcomma : Spells (", " ++ Text.joined ", " (b :: texts))
          (.comma :: separated (ms :: lists)) := by
        unfold Spells at *
        rw [hlist, lexemes?_comma, lexemes?_space, ih]
        rfl
      have hall := ha.append hcomma (hlist ▸ breaks_cons (by decide) (by decide))
      rw [← String.append_assoc] at hall
      exact hall

end JiraQuery.Jql
