import JiraQuery.Toml.Printer
import JiraQuery.Toml.Text
import Mathlib

/-!
# Quoted text that is read back

Every text is read back from its quotes, whatever characters it has and whichever quotes were chosen for it.
Between three quotes up to two may stand in a row; together with those at the end they are at most five,
and all but the last three belong to the text. Main statement: `text?_quoteChars`.
-/

namespace JiraQuery.Toml

variable {q c : Char} {escapes lines : Bool} {fuel seen : ℕ} {s t rest acc : List Char}

/-- A run of characters ends where the first character of another kind stands. -/
theorem run_append {p : Char → Bool} (hs : ∀ c ∈ s, p c = true) (ht : ∀ c ∈ t.head?, p c = false) :
    (s ++ t).takeWhile p = s ∧ (s ++ t).dropWhile p = t := by
  rw [List.takeWhile_append_of_pos hs, List.dropWhile_append_of_pos hs]
  cases t with
  | nil => exact ⟨List.append_nil s, rfl⟩
  | cons c t =>
    have hc : ¬p c = true := by simpa using ht c rfl
    rw [List.takeWhile_cons_of_neg hc, List.dropWhile_cons_of_neg hc]
    exact ⟨List.append_nil s, rfl⟩

/-! ## Escapes -/

/-- A character stands for itself, or an escape stands for it, which no line break follows. -/
theorem escapeChar_cases (lines : Bool) (hc : c ≠ '"') :
    (escapeChar lines c = [c] ∧ c ≠ '\\' ∧ (isPlain c = true ∨ lines = true ∧ c = '\n')) ∨
      ∃ u, escapeChar lines c = '\\' :: u ∧
        ∀ t, escape? (u ++ t) = some (c, t) ∧ continuation? (u ++ t) = none := by
  by_cases hbreak : lines = true ∧ c = '\n'
  · obtain ⟨rfl, rfl⟩ := hbreak
    exact .inl ⟨rfl, by decide, .inr ⟨rfl, rfl⟩⟩
  by_cases hcontrol : c.toNat < 0x20
  · -- the control characters one by one
    have hall : ∀ n < 0x20, ¬(lines = true ∧ Char.ofNat n = '\n') →
        ∃ u, escapeChar lines (Char.ofNat n) = '\\' :: u ∧
          ∀ t, escape? (u ++ t) = some (Char.ofNat n, t) ∧ continuation? (u ++ t) = none := by
      intro n hn hbreak
      by_cases hten : n = 10
      · subst hten
        obtain rfl : lines = false := by simpa using fun hlines => hbreak ⟨hlines, rfl⟩
        exact ⟨_, rfl, fun t => ⟨rfl, rfl⟩⟩
      · interval_cases n <;> first | exact absurd rfl hten | exact ⟨_, rfl, fun t => ⟨rfl, rfl⟩⟩
    have hchar := hall c.toNat hcontrol
    rw [Char.ofNat_toNat] at hchar
    exact .inr (hchar hbreak)
  by_cases hdelete : c = Char.ofNat 0x7F
  · subst hdelete
    exact .inr ⟨_, rfl, fun t => ⟨rfl, rfl⟩⟩
  by_cases hbackslash : c = '\\'
  · subst hbackslash
    exact .inr ⟨_, rfl, fun t => ⟨rfl, rfl⟩⟩
  · have hne : ∀ d : Char, c ≠ d → c.toNat ≠ d.toNat := fun d hd h => hd (Char.toNat_inj.1 h)
    have hdelete' : c.toNat ≠ 0x7F := hne _ hdelete
    have hbackslash' : c.toNat ≠ 0x5C := hne _ hbackslash
    have hplain : isPlain c = true := by
      simp [isPlain, hdelete', Nat.le_of_not_lt hcontrol]
    refine .inl ⟨?_, hbackslash, .inl hplain⟩
    unfold escapeChar
    split <;> first | omega | exact if_neg (by omega)

theorem length_le_length_escapeChars (lines : Bool) (seen : ℕ) (s : List Char) :
    s.length ≤ (escapeChars lines seen s).length := by
  induction s generalizing seen with
  | nil => exact Nat.le_refl 0
  | cons c s ih =>
    have hrest := ih 0
    by_cases hc : c = '"'
    · have hquote := ih (seen + 1)
      subst hc
      rw [escapeChars, if_pos rfl]
      split_ifs <;> simp only [List.length_cons] <;> omega
    · have hpos : 0 < (escapeChar lines c).length := by
        rcases escapeChar_cases lines hc with ⟨h, -, -⟩ | ⟨u, h, -⟩
        · simp [h]
        · simp [h]
      simp only [escapeChars, if_neg hc, List.length_append, List.length_cons]
      omega

/-! ## Text on one line -/

/-- A character is read back from what is written for it. -/
theorem basicText?_escapeChar (hc : c ≠ '"') (fuel : ℕ) (acc t : List Char) :
    basicText? (fuel + 1) acc (escapeChar false c ++ t) = basicText? fuel (c :: acc) t := by
  rcases escapeChar_cases false hc with ⟨hself, hbackslash, hplain⟩ | ⟨u, hescape, hread⟩
  · have hplain : isPlain c = true := hplain.resolve_right (by simp)
    rw [hself]
    simp [basicText?, hc, hbackslash, hplain]
  · rw [hescape]
    simp [basicText?, (hread t).1]

theorem basicText?_escapeChars (hfuel : s.length < fuel) (acc : List Char) :
    basicText? fuel acc (escapeChars false 0 s ++ '"' :: rest) =
      some (String.ofList (acc.reverse ++ s), rest) := by
  induction s generalizing fuel acc with
  | nil =>
    obtain ⟨k, rfl⟩ : ∃ k, fuel = k + 1 := ⟨fuel - 1, by omega⟩
    simp [escapeChars, basicText?]
  | cons c s ih =>
    obtain ⟨k, rfl⟩ : ∃ k, fuel = k + 1 := ⟨fuel - 1, by omega⟩
    have hlength : s.length < k := by simpa using hfuel
    have hrest := ih hlength (c :: acc)
    rw [List.reverse_cons, List.append_assoc] at hrest
    by_cases hc : c = '"'
    · subst hc
      exact hrest
    · have hchars : escapeChars false 0 (c :: s) = escapeChar false c ++ escapeChars false 0 s := by
        simp [escapeChars, hc]
      rw [hchars, List.append_assoc, basicText?_escapeChar hc, hrest]
      rfl

theorem literalText?_append (hs : ∀ c ∈ s, isPlain c = true ∧ c ≠ '\x27') :
    literalText? (s ++ '\x27' :: rest) = some (String.ofList s, rest) := by
  obtain ⟨htake, hdrop⟩ := run_append (p := fun c => isPlain c && c ≠ '\x27') (s := s)
    (t := '\x27' :: rest) (by simpa using hs) (by simp)
  unfold literalText?
  simp only [htake, hdrop]
  rfl

/-! ## Text over several lines -/

/-- How a text is written between three quotes `q`, of which so many stand in front of it: a quote as it
is if less than two are in front, and every other character in a way that reads as this character. -/
inductive Lined (q : Char) (escapes : Bool) : ℕ → List Char → List Char → Prop
  | nil {seen : ℕ} : Lined q escapes seen [] []
  | quote {seen : ℕ} {s t : List Char} (hseen : seen < 2) (hrest : Lined q escapes (seen + 1) s t) :
    Lined q escapes seen (q :: s) (q :: t)
  | char {seen : ℕ} {c d : Char} {u s t : List Char} (hd : d ≠ q)
    (hread : ∀ fuel acc t, linesText? q escapes (fuel + 1) acc (d :: (u ++ t)) =
      linesText? q escapes fuel (c :: acc) t)
    (hrest : Lined q escapes 0 s t) : Lined q escapes seen (c :: s) (d :: (u ++ t))

/-- What becomes of quotes in a row hangs on how many they are. -/
theorem linesText?_quotes (n : ℕ) (ht : ∀ c ∈ t.head?, c ≠ q) :
    linesText? q escapes (fuel + 1) acc (List.replicate (n + 1) q ++ t) =
      if n + 1 < 3 then linesText? q escapes fuel (List.replicate (n + 1) q ++ acc) t
      else if n + 1 ≤ 5 then
        some (String.ofList (List.replicate (n + 1 - 3) q ++ acc).reverse, t)
      else none := by
  obtain ⟨htake, hdrop⟩ := run_append (p := (· = q)) (s := List.replicate n q) (t := t)
    (fun c hc => by simpa using List.eq_of_mem_replicate hc) (fun c hc => by simpa using ht c hc)
  have hcount : 1 + ((List.replicate n q ++ t).takeWhile (· = q)).length = n + 1 := by
    rw [htake, List.length_replicate, Nat.add_comm]
  rw [List.replicate_succ, List.cons_append, linesText?, if_pos rfl]
  simp only [hcount, hdrop]
  rfl

/-- A text is read back by the way it is written, by induction on how it is written. -/
theorem linesText?_lined {w : List Char} (h : Lined q escapes seen s w) (hseen : seen ≤ 2)
    (hfuel : s.length + seen < fuel) (hrest : ∀ c ∈ rest.head?, c ≠ q) (acc : List Char) :
    linesText? q escapes fuel acc (List.replicate seen q ++ (w ++ (List.replicate 3 q ++ rest))) =
      some (String.ofList (acc.reverse ++ (List.replicate seen q ++ s)), rest) := by
  induction h generalizing fuel acc with
  | @nil seen =>
    obtain ⟨k, rfl⟩ : ∃ k, fuel = k + 1 := ⟨fuel - 1, by omega⟩
    rw [List.nil_append, ← List.append_assoc, List.replicate_append_replicate,
      linesText?_quotes (seen + 2) hrest, if_neg (by omega), if_pos (by omega)]
    simp
  | @quote seen s t hlt _ ih =>
    have hshift : ∀ u : List Char, List.replicate seen q ++ q :: u = List.replicate (seen + 1) q ++ u := by
      intro u
      rw [List.replicate_succ', List.append_assoc]
      rfl
    have hlength : s.length + (seen + 1) < fuel := by
      simp at hfuel
      omega
    have hread := ih (by omega) hlength acc
    rw [List.cons_append, hshift, hshift]
    exact hread
  | @char seen c d u s t hd hread _ ih =>
    have hstep : ∀ k, s.length + 1 < k → ∀ acc,
        linesText? q escapes k acc (d :: (u ++ t) ++ (List.replicate 3 q ++ rest)) =
          some (String.ofList (acc.reverse ++ c :: s), rest) := by
      intro k hk acc
      obtain ⟨k, rfl⟩ : ∃ j, k = j + 1 := ⟨k - 1, by omega⟩
      have hlength : s.length + 0 < k := by omega
      have hrest := ih (by omega) hlength (c :: acc)
      rw [List.cons_append, List.append_assoc, hread]
      simpa using hrest
    by_cases hzero : seen = 0
    · subst hzero
      exact hstep fuel (by simpa using hfuel) acc
    · obtain ⟨k, rfl⟩ : ∃ k, fuel = k + 1 := ⟨fuel - 1, by omega⟩
      obtain ⟨n, rfl⟩ : ∃ n, seen = n + 1 := ⟨seen - 1, by omega⟩
      rw [linesText?_quotes n (by simpa using hd), if_pos (by omega), hstep k (by simp at hfuel; omega)]
      simp

theorem linesText?_self (hq : c ≠ q) (hbackslash : escapes = true → c ≠ '\\')
    (hc : isPlain c = true ∨ c = '\n') (fuel : ℕ) (acc t : List Char) :
    linesText? q escapes (fuel + 1) acc (c :: t) = linesText? q escapes fuel (c :: acc) t := by
  have hescape : (escapes && decide (c = '\\')) = false := by simpa using hbackslash
  rw [linesText?, if_neg hq, hescape, if_neg Bool.false_ne_true]
  by_cases hplain : isPlain c = true
  · rw [if_pos hplain]
  · obtain rfl := hc.resolve_left hplain
    rw [if_neg hplain]
    rfl

theorem linesText?_escape {u : List Char} (hq : '\\' ≠ q)
    (hread : ∀ t, escape? (u ++ t) = some (c, t) ∧ continuation? (u ++ t) = none)
    (fuel : ℕ) (acc t : List Char) :
    linesText? q true (fuel + 1) acc ('\\' :: (u ++ t)) = linesText? q true fuel (c :: acc) t := by
  rw [linesText?, if_neg hq]
  simp [(hread t).1, (hread t).2]

/-- A text is escaped between three double quotes. -/
theorem lined_escapeChars (hseen : seen ≤ 2) (s : List Char) : Lined '"' true seen s (escapeChars true seen s) := by
  induction s generalizing seen with
  | nil => exact .nil
  | cons c s ih =>
    by_cases hc : c = '"'
    · subst hc
      rw [escapeChars, if_pos rfl, if_pos rfl]
      by_cases hlt : seen < 2
      · rw [if_pos hlt]
        exact .quote hlt (ih (by omega))
      · rw [if_neg hlt]
        exact .char (u := ['"']) (by decide) (linesText?_escape (by decide) fun t => ⟨rfl, rfl⟩) (ih (by omega))
    · rw [escapeChars, if_neg hc]
      rcases escapeChar_cases true hc with ⟨hself, hbackslash, hplain⟩ | ⟨u, hescape, hread⟩
      · rw [hself]
        exact .char (u := []) hc (linesText?_self hc (fun _ => hbackslash) (hplain.imp_right And.right))
          (ih (by omega))
      · rw [hescape]
        exact .char (by decide) (linesText?_escape (by decide) hread) (ih (by omega))

theorem hasRun_of_append {n : ℕ} (h : hasRun q n (t ++ s) = false) : hasRun q n s = false := by
  induction t with
  | nil => exact h
  | cons c t ih =>
    rw [List.cons_append, hasRun, Bool.or_eq_false_iff] at h
    exact ih h.2

/-- A text without three quotes in a row and without control characters stands as it is between three
quotes, if there are no escapes. -/
theorem lined_self (hseen : seen ≤ 2) (hrun : hasRun q 3 (List.replicate seen q ++ s) = false)
    (hs : ∀ c ∈ s, isPlain c = true ∨ c = '\n') : Lined q false seen s s := by
  induction s generalizing seen with
  | nil => exact .nil
  | cons c s ih =>
    obtain ⟨hc, hrest⟩ := List.forall_mem_cons.1 hs
    by_cases hq : c = q
    · subst hq
      have hshift : List.replicate seen c ++ c :: s = List.replicate (seen + 1) c ++ s := by
        rw [List.replicate_succ', List.append_assoc]
        rfl
      rw [hshift] at hrun
      have hlt : seen < 2 := by
        by_contra hle
        obtain rfl : seen = 2 := by omega
        simp [List.replicate_succ, hasRun] at hrun
      exact .quote hlt (ih (by omega) hrun hrest)
    · have hrun' : hasRun q 3 (List.replicate 0 q ++ s) = false := by
        have hcons := hasRun_of_append hrun
        rw [hasRun, Bool.or_eq_false_iff] at hcons
        exact hcons.2
      exact .char (u := []) hq (linesText?_self hq nofun hc) (ih (by omega) hrun' hrest)

/-! ## All quotes -/

/-- Where a text begins that has a line break in it, the first line break is not its own. -/
def opening (s : List Char) : List Char :=
  if s.contains '\n' then ['\n'] else []

theorem lineBreak?_opening {w : List Char} (hw : ∀ c ∈ w.head?, isPlain c = true ∨ '\n' ∈ s) :
    (lineBreak? (opening s ++ w)).getD (opening s ++ w) = w := by
  unfold opening
  by_cases hbreak : '\n' ∈ s
  · rw [if_pos (by simpa using hbreak)]
    rfl
  · rw [if_neg (by simpa using hbreak)]
    cases w with
    | nil => rfl
    | cons c w =>
      have hplain : isPlain c = true := (hw c rfl).resolve_right hbreak
      have hn : c ≠ '\n' := by
        rintro rfl
        exact absurd hplain (by decide)
      have hr : c ≠ '\r' := by
        rintro rfl
        exact absurd hplain (by decide)
      have hnone : lineBreak? (c :: w) = none := by
        unfold lineBreak?
        split <;> simp_all
      rw [List.nil_append, hnone]
      rfl

/-- What follows three quotes is read without the line break at its front. -/
theorem linesText?_opening {w : List Char} (h : Lined q escapes 0 s w) (hq : isPlain q = true)
    (hlength : s.length ≤ w.length) (hw : ∀ c ∈ w.head?, isPlain c = true ∨ '\n' ∈ s)
    (hrest : ∀ c ∈ rest.head?, c ≠ q) :
    let inside := opening s ++ (w ++ (List.replicate 3 q ++ rest))
    linesText? q escapes (inside.length + 1) [] ((lineBreak? inside).getD inside) =
      some (String.ofList s, rest) := by
  intro inside
  have hhead : ∀ c ∈ (w ++ (List.replicate 3 q ++ rest)).head?, isPlain c = true ∨ '\n' ∈ s := by
    cases w with
    | nil => simp [List.replicate_succ, hq]
    | cons c w => exact hw
  have hfuel : s.length + 0 < inside.length + 1 := by
    simp only [inside, List.length_append]
    omega
  rw [lineBreak?_opening hhead]
  exact linesText?_lined h (by omega) hfuel hrest []

theorem take_two_ne {w : List Char} (hw : ∀ c ∈ w.head?, c ≠ q) (hrest : ∀ c ∈ rest.head?, c ≠ q) :
    (w ++ q :: rest).take 2 ≠ [q, q] := by
  cases w with
  | cons c w =>
    have hc := hw c rfl
    simp [hc]
  | nil =>
    cases rest with
    | nil => simp
    | cons c rest =>
      have hc := hrest c rfl
      simp [hc]

theorem text?_basic (ht : t.take 2 ≠ ['"', '"']) : text? ('"' :: t) = basicText? (t.length + 1) [] t := by
  unfold text?
  split <;> simp_all

theorem text?_literal (ht : t.take 2 ≠ ['\x27', '\x27']) : text? ('\x27' :: t) = literalText? t := by
  unfold text?
  split <;> simp_all

theorem isPlain_of_not_isControl (h : isControl c = false) : isPlain c = true ∨ c = '\n' := by
  by_cases hbreak : c = '\n'
  · exact .inr hbreak
  · by_cases htab : c = '\t'
    · exact .inl (by simp [isPlain, htab])
    · refine .inl ?_
      simp [isControl, hbreak, htab] at h
      simp [isPlain, h]

theorem isPlain_of_any_isControl (h : ¬s.any isControl = true) : ∀ c ∈ s, isPlain c = true ∨ c = '\n' := by
  intro c hc
  apply isPlain_of_not_isControl
  simp only [List.any_eq_true, not_exists, not_and, Bool.not_eq_true] at h
  exact h c hc

/-- Where single quotes were chosen no character has to be escaped between them. -/
theorem of_quoteStyle_literal (h : quoteStyle s = .literal) :
    ∀ c ∈ s, isPlain c = true ∧ c ≠ '\x27' := by
  unfold quoteStyle at h
  dsimp only at h
  split_ifs at h with hcontrol _ _ hliteral
  simp only [Bool.and_eq_true, Bool.not_eq_true', List.contains_eq_mem, decide_eq_false_iff_not] at hliteral
  intro c hc
  refine ⟨(isPlain_of_any_isControl hcontrol c hc).resolve_right ?_, ?_⟩
  · rintro rfl
    exact hliteral.1 hc
  · rintro rfl
    exact hliteral.2 hc

theorem of_quoteStyle_literalLines (h : quoteStyle s = .literalLines) :
    (∀ c ∈ s, isPlain c = true ∨ c = '\n') ∧ hasRun '\x27' 3 s = false := by
  unfold quoteStyle at h
  dsimp only at h
  split_ifs at h with hcontrol _ _ _ _ hrun
  exact ⟨isPlain_of_any_isControl hcontrol, by simpa using hrun⟩

/-- What is written between double quotes begins with a character that stands for itself or with a
backslash. -/
theorem head_escapeChars {lines : Bool} (hc : c ∈ (escapeChars lines 0 s).head?) :
    (lines = false → c ≠ '"') ∧ (isPlain c = true ∨ '\n' ∈ s) := by
  cases s with
  | nil => cases hc
  | cons d s =>
    by_cases hd : d = '"'
    · subst hd
      cases lines with
      | false =>
        obtain rfl : '\\' = c := by simpa [escapeChars] using hc
        exact ⟨fun _ => by decide, .inl rfl⟩
      | true =>
        obtain rfl : '"' = c := by simpa [escapeChars] using hc
        exact ⟨nofun, .inl rfl⟩
    · rw [escapeChars, if_neg hd] at hc
      rcases escapeChar_cases lines hd with ⟨hself, -, hplain⟩ | ⟨u, hescape, -⟩
      · rw [hself] at hc
        obtain rfl : d = c := by simpa using hc
        exact ⟨fun _ => hd, hplain.imp_right fun h => by simp [h.2]⟩
      · rw [hescape] at hc
        obtain rfl : '\\' = c := by simpa using hc
        exact ⟨fun _ => by decide, .inl rfl⟩

/-- A text is read back from its quotes. -/
theorem text?_quoteChars (hrest : ∀ c ∈ rest.head?, c ≠ '"' ∧ c ≠ '\x27') (s : List Char) :
    text? (quoteChars s ++ rest) = some (String.ofList s, rest) := by
  have hdouble : ∀ c ∈ rest.head?, c ≠ '"' := fun c hc => (hrest c hc).1
  have hsingle : ∀ c ∈ rest.head?, c ≠ '\x27' := fun c hc => (hrest c hc).2
  have hlength := length_le_length_escapeChars
  cases hstyle : quoteStyle s with
  | basic =>
    have hchars : quoteChars s ++ rest = '"' :: (escapeChars false 0 s ++ '"' :: rest) := by
      simp [quoteChars, hstyle, QuoteStyle.delimiter, QuoteStyle.hasLines, QuoteStyle.hasEscapes]
    have hfuel : s.length < (escapeChars false 0 s ++ '"' :: rest).length + 1 := by
      have := hlength false 0 s
      simp only [List.length_append]
      omega
    rw [hchars, text?_basic (take_two_ne (fun c hc => (head_escapeChars hc).1 rfl) hdouble)]
    exact basicText?_escapeChars hfuel []
  | literal =>
    have hchars : quoteChars s ++ rest = '\x27' :: (s ++ '\x27' :: rest) := by
      simp [quoteChars, hstyle, QuoteStyle.delimiter, QuoteStyle.hasLines, QuoteStyle.hasEscapes]
    have hs := of_quoteStyle_literal hstyle
    rw [hchars, text?_literal (take_two_ne (fun c hc => (hs c (List.mem_of_mem_head? hc)).2) hsingle)]
    exact literalText?_append hs
  | basicLines =>
    have hchars : quoteChars s ++ rest = '"' :: '"' :: '"' ::
        (opening s ++ (escapeChars true 0 s ++ (List.replicate 3 '"' ++ rest))) := by
      simp [quoteChars, opening, hstyle, QuoteStyle.delimiter, QuoteStyle.hasLines, QuoteStyle.hasEscapes]
    rw [hchars]
    exact linesText?_opening (lined_escapeChars (Nat.zero_le 2) s) rfl (hlength true 0 s)
      (fun c hc => (head_escapeChars hc).2) hdouble
  | literalLines =>
    have hchars : quoteChars s ++ rest = '\x27' :: '\x27' :: '\x27' ::
        (opening s ++ (s ++ (List.replicate 3 '\x27' ++ rest))) := by
      simp [quoteChars, opening, hstyle, QuoteStyle.delimiter, QuoteStyle.hasLines, QuoteStyle.hasEscapes]
    obtain ⟨hs, hrun⟩ := of_quoteStyle_literalLines hstyle
    have hhead : ∀ c ∈ s.head?, isPlain c = true ∨ '\n' ∈ s := by
      intro c hc
      have hmem := List.mem_of_mem_head? hc
      refine (hs c hmem).imp_right ?_
      rintro rfl
      exact hmem
    rw [hchars]
    exact linesText?_opening (lined_self (Nat.zero_le 2) hrun hs) rfl (Nat.le_refl _) hhead hsingle

example : quote "C:\\jira" = "\x27C:\\jira\x27" := by
  decide +kernel

example : quote "it\x27s\n\\" = "\x27\x27\x27\nit\x27s\n\\\x27\x27\x27" := by
  decide +kernel

end JiraQuery.Toml
