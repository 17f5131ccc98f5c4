import JiraQuery.Proofs.Json.Members
import JiraQuery.Proofs.Json.Numeral

/-!
# What comes back from a text that was written

A document that is written and read again comes back with the members of its objects in order, and with
what its doubles come back as (`Json.again`). Main statement: `parse?_render`.
-/

namespace JiraQuery.Json

/-! ## Documents -/

/-- Induction on documents, by what holds of the items of a list and the members of an object. -/
theorem induct {motive : Json → Prop} (null : motive .null) (bool : ∀ b, motive (.bool b))
    (int : ∀ n, motive (.int n)) (float : ∀ x, motive (.float x)) (str : ∀ s, motive (.str s))
    (arr : ∀ xs, (∀ x ∈ xs, motive x) → motive (.arr xs))
    (obj : ∀ ms, (∀ m ∈ ms, motive m.2) → motive (.obj ms)) (j : Json) : motive j :=
  @Json.rec motive (fun xs => ∀ x ∈ xs, motive x) (fun ms => ∀ m ∈ ms, motive m.2) (fun m => motive m.2)
    null bool int float str arr obj (List.forall_mem_nil _)
    (fun _ _ hx hxs => List.forall_mem_cons.2 ⟨hx, hxs⟩) (List.forall_mem_nil _)
    (fun _ _ hm hms => List.forall_mem_cons.2 ⟨hm, hms⟩) (fun _ _ hvalue => hvalue) j

mutual

/-- The doubles in a document, in the order in which they are written. -/
def doubles : Json → List Float
  | .float x => [x]
  | .arr xs => doublesOfItems xs
  | .obj ms => doublesOfMembers ms
  | _ => []

def doublesOfItems : List Json → List Float
  | [] => []
  | x :: xs => doubles x ++ doublesOfItems xs

def doublesOfMembers : List (String × Json) → List Float
  | [] => []
  | m :: ms => doubles m.2 ++ doublesOfMembers ms

end

mutual

/-- A document with the members of its objects in order. -/
def canonical : Json → Json
  | .arr xs => .arr (canonicalItems xs)
  | .obj ms => ofMembers (canonicalMembers ms)
  | j => j

def canonicalItems : List Json → List Json
  | [] => []
  | x :: xs => canonical x :: canonicalItems xs

def canonicalMembers : List (String × Json) → List (String × Json)
  | [] => []
  | m :: ms => (m.1, canonical m.2) :: canonicalMembers ms

end

mutual

/-- What a document comes back as, if every double in it comes back as something. -/
def again : Json → Option Json
  | .float x => parse? (render (.float x))
  | .arr xs => (againItems xs).map .arr
  | .obj ms => (againMembers ms).map ofMembers
  | j => some j

def againItems : List Json → Option (List Json)
  | [] => some []
  | x :: xs => (again x).bind fun y => (againItems xs).map (y :: ·)

def againMembers : List (String × Json) → Option (List (String × Json))
  | [] => some []
  | m :: ms => (again m.2).bind fun y => (againMembers ms).map ((m.1, y) :: ·)

end

/-- Whether a double comes back from its text. -/
def Rereads (x : Float) : Prop :=
  parse? (render (.float x)) = some (.float x)

/-- Whether a document is the given double. -/
def isDouble (x : Float) : Json → Bool
  | .float y => y = x
  | _ => false

theorem rereads_iff {x : Float} : Rereads x ↔ (parse? (render (.float x))).any (isDouble x) = true := by
  unfold Rereads
  cases parse? (render (.float x)) with
  | none => simp
  | some j =>
    cases j with
    | float y => simp [isDouble]
    | _ => simp [isDouble]

instance (x : Float) : Decidable (Rereads x) :=
  decidable_of_iff _ rereads_iff.symm

@[simp] theorem doubles_arr (xs : List Json) : (arr xs).doubles = xs.flatMap doubles := by
  show doublesOfItems xs = _
  induction xs with
  | nil => rfl
  | cons x xs ih => rw [doublesOfItems, ih, List.flatMap_cons]

@[simp] theorem doubles_obj (ms : List (String × Json)) :
    (obj ms).doubles = ms.flatMap fun m => m.2.doubles := by
  show doublesOfMembers ms = _
  induction ms with
  | nil => rfl
  | cons m ms ih => rw [doublesOfMembers, ih, List.flatMap_cons]

@[simp] theorem canonical_arr (xs : List Json) : (arr xs).canonical = arr (xs.map canonical) := by
  show arr (canonicalItems xs) = _
  refine congrArg arr ?_
  induction xs with
  | nil => rfl
  | cons x xs ih => rw [canonicalItems, ih, List.map_cons]

@[simp] theorem canonical_obj (ms : List (String × Json)) :
    (obj ms).canonical = ofMembers (ms.map fun m => (m.1, m.2.canonical)) := by
  show ofMembers (canonicalMembers ms) = _
  refine congrArg ofMembers ?_
  induction ms with
  | nil => rfl
  | cons m ms ih => rw [canonicalMembers, ih, List.map_cons]

theorem againItems_eq_map {xs : List Json} (h : ∀ x ∈ xs, x.again = some x.canonical) :
    againItems xs = some (xs.map canonical) := by
  induction xs with
  | nil => rfl
  | cons x xs ih =>
    rw [againItems, h x List.mem_cons_self, ih fun y hy => h y (List.mem_cons_of_mem x hy)]
    rfl

theorem againMembers_eq_map {ms : List (String × Json)} (h : ∀ m ∈ ms, m.2.again = some m.2.canonical) :
    againMembers ms = some (ms.map fun m => (m.1, m.2.canonical)) := by
  induction ms with
  | nil => rfl
  | cons m ms ih =>
    rw [againMembers, h m List.mem_cons_self, ih fun n hn => h n (List.mem_cons_of_mem m hn)]
    rfl

theorem againMembers_append (ms ns : List (String × Json)) :
    againMembers (ms ++ ns) = (againMembers ms).bind fun ms' => (againMembers ns).map (ms' ++ ·) := by
  induction ms with
  | nil => cases h : againMembers ns <;> simp [againMembers, h]
  | cons m ms ih =>
    rw [List.cons_append, againMembers, ih, againMembers]
    cases m.2.again with
    | none => rfl
    | some y =>
      cases againMembers ms with
      | none => rfl
      | some ms' => cases againMembers ns <;> rfl

/-- A document whose doubles all come back comes back, in order. -/
theorem again_eq_canonical {j : Json} (h : ∀ x ∈ j.doubles, Rereads x) : j.again = some j.canonical := by
  induction j using induct with
  | null => rfl
  | bool b => rfl
  | int n => rfl
  | str s => rfl
  | float x => exact h x (List.mem_singleton_self x)
  | arr xs ih =>
    rw [doubles_arr] at h
    rw [again, canonical_arr, againItems_eq_map fun x hx => ih x hx fun d hd =>
      h d (List.mem_flatMap.2 ⟨x, hx, hd⟩)]
    rfl
  | obj ms ih =>
    rw [doubles_obj] at h
    rw [again, canonical_obj, againMembers_eq_map fun m hm => ih m hm fun d hd =>
      h d (List.mem_flatMap.2 ⟨m, hm, hd⟩)]
    rfl

/-! ## Strings -/

namespace Parser

variable {fuel depth : ℕ} {s rest : List Char}

/-- A character is read back from what is written for it. -/
theorem string?_escapeChar (c : Char) (fuel : ℕ) (acc s : List Char) :
    string? (fuel + 1) acc (escapeChar c ++ s) = string? fuel (c :: acc) s := by
  by_cases hcontrol : c.toNat < 0x20
  · have hall : ∀ n < 0x20, string? (fuel + 1) acc (escapeChar (Char.ofNat n) ++ s) =
        string? fuel (Char.ofNat n :: acc) s := by
      intro n hn
      interval_cases n <;> rfl
    have hc := hall c.toNat hcontrol
    rwa [Char.ofNat_toNat] at hc
  · by_cases hquote : c = '"'
    · subst hquote
      rfl
    · by_cases hbackslash : c = '\\'
      · subst hbackslash
        rfl
      · unfold escapeChar
        rw [if_neg hquote, if_neg hbackslash, if_pos (Nat.le_of_not_lt hcontrol)]
        show string? (fuel + 1) acc (c :: s) = _
        rw [string?, if_neg hquote, if_neg hbackslash, if_neg hcontrol]

theorem string?_flatMap (cs acc : List Char) (hfuel : cs.length < fuel) :
    string? fuel acc (cs.flatMap escapeChar ++ '"' :: rest) =
      some (String.ofList (acc.reverse ++ cs), rest) := by
  induction cs generalizing fuel acc with
  | nil =>
    obtain ⟨k, rfl⟩ : ∃ k, fuel = k + 1 := ⟨fuel - 1, by omega⟩
    rw [List.append_nil]
    rfl
  | cons c cs ih =>
    obtain ⟨k, rfl⟩ : ∃ k, fuel = k + 1 := ⟨fuel - 1, by omega⟩
    rw [List.flatMap_cons, List.append_assoc, string?_escapeChar, ih (c :: acc) (by simpa using hfuel),
      List.reverse_cons, List.append_assoc]
    rfl

theorem escapeChar_ne_nil (c : Char) : escapeChar c ≠ [] := by
  unfold escapeChar
  split
  · exact List.cons_ne_nil _ _
  · split
    · exact List.cons_ne_nil _ _
    · split
      · exact List.cons_ne_nil _ _
      · split <;> exact List.cons_ne_nil _ _

theorem length_le_flatMap_escapeChar (cs : List Char) : cs.length ≤ (cs.flatMap escapeChar).length := by
  induction cs with
  | nil => exact Nat.le_refl 0
  | cons c cs ih =>
    have hpos : 0 < (escapeChar c).length := List.length_pos_iff.2 (escapeChar_ne_nil c)
    rw [List.flatMap_cons, List.length_append, List.length_cons]
    omega

theorem toList_quoted (text : String) :
    (quoted text).toList = '"' :: (text.toList.flatMap escapeChar ++ ['"']) :=
  String.toList_ofList

/-- A string is read back from its text. -/
theorem string?_quoted (text : String) {s : List Char}
    (hs : (quoted text).toList ++ rest = '"' :: s) : string? (s.length + 1) [] s = some (text, rest) := by
  rw [toList_quoted] at hs
  obtain rfl : text.toList.flatMap escapeChar ++ '"' :: rest = s := by
    simpa using (List.cons.inj hs).2
  have hlength := length_le_flatMap_escapeChar text.toList
  rw [string?_flatMap text.toList [] (by rw [List.length_append, List.length_cons]; omega)]
  simp

/-! ## Documents -/

/-- The characters with which something else than a number begins. -/
def telling : List Char := [' ', '\n', '\t', '\r', '[', ']', '\x7b', '"', 'n', 't', 'f']

theorem isSpace_iff {c : Char} : isSpace c = true ↔ c = ' ' ∨ c = '\n' ∨ c = '\t' ∨ c = '\r' := by
  simp [isSpace, or_assoc]

theorem skipSpace_cons {c : Char} (hc : isSpace c = false) (s : List Char) : skipSpace (c :: s) = c :: s :=
  List.dropWhile_cons_of_neg (by simp [hc])

theorem isSpace_of_not_mem_telling {c : Char} (hc : c ∉ telling) : isSpace c = false := by
  cases hspace : isSpace c with
  | false => rfl
  | true =>
    rcases isSpace_iff.1 hspace with rfl | rfl | rfl | rfl
    · exact absurd (by decide) hc
    · exact absurd (by decide) hc
    · exact absurd (by decide) hc
    · exact absurd (by decide) hc

/-- What begins with no other character is read as a number. -/
theorem value?_of_not_mem_telling {c : Char} (hc : c ∉ telling) (s : List Char) :
    value? (fuel + 1) depth (c :: s) = number? (c :: s) := by
  have hne : ∀ d ∈ telling, c ≠ d := fun d hd heq => hc (heq ▸ hd)
  have hprefix : ∀ d ∈ telling, ∀ word, (d :: word).isPrefixOf? (c :: s) = none := by
    intro d hd word
    rw [List.isPrefixOf?, beq_false_of_ne (hne d hd).symm]
    rfl
  have hnull : "null".toList.isPrefixOf? (c :: s) = none := hprefix 'n' (by decide) ['u', 'l', 'l']
  have htrue : "true".toList.isPrefixOf? (c :: s) = none := hprefix 't' (by decide) ['r', 'u', 'e']
  have hfalse : "false".toList.isPrefixOf? (c :: s) = none := hprefix 'f' (by decide) ['a', 'l', 's', 'e']
  have hconstant : constant? (c :: s) = none := by
    unfold constant?
    rw [hnull, htrue, hfalse]
  unfold value?
  rw [skipSpace_cons (isSpace_of_not_mem_telling hc)]
  split
  · next heq => exact absurd (List.cons.inj heq).1 (hne _ (by decide))
  · next heq => exact absurd (List.cons.inj heq).1 (hne _ (by decide))
  · next heq => exact absurd (List.cons.inj heq).1 (hne _ (by decide))
  · rw [hconstant]
    rfl

/-- A numeral begins with a digit or with a minus sign. -/
theorem text_eq_cons (m : Numeral) : ∃ c s, m.text = c :: s ∧ c ∉ telling := by
  obtain ⟨negative, whole, places, power⟩ := m
  cases negative with
  | true => exact ⟨'-', _, rfl, by decide⟩
  | false =>
    cases hwhole : whole.chars with
    | nil => exact absurd hwhole whole.ne_nil
    | cons c cs =>
      have hdigit := whole.isDigit c (by rw [hwhole]; exact List.mem_cons_self)
      refine ⟨c, cs ++ (Numeral.placesText places ++ Numeral.powerText power), ?_, fun hc => ?_⟩
      · simp only [Numeral.text, hwhole]
        rfl
      · have hall : telling.all (!·.isDigit) = true := by decide
        have hno := List.all_eq_true.1 hall c hc
        rw [hdigit] at hno
        cases hno

theorem number?_word {word : List Char} (h : word ∈ wordTexts) (s : List Char) : number? (word ++ s) = none := by
  simp only [wordTexts, List.mem_cons, List.not_mem_nil, or_false] at h
  rcases h with rfl | rfl | rfl
  · rfl
  · rfl
  · rfl

theorem word_eq_cons {word : List Char} (h : word ∈ wordTexts) : ∃ c s, word = c :: s ∧ c ∉ telling := by
  simp only [wordTexts, List.mem_cons, List.not_mem_nil, or_false] at h
  rcases h with rfl | rfl | rfl
  · exact ⟨'N', _, rfl, by decide⟩
  · exact ⟨'i', _, rfl, by decide⟩
  · exact ⟨'-', _, rfl, by decide⟩

end Parser

theorem parse?_eq_number? {text : String} {c : Char} {s : List Char} (htext : text.toList = c :: s)
    (hc : c ∉ Parser.telling) :
    parse? text = match Parser.number? (c :: s) with
      | some (j, rest) => if (Parser.skipSpace rest).isEmpty then some j else none
      | none => none := by
  unfold parse?
  rw [htext]
  show (match Parser.value? (2 * (c :: s).length + 1 + 1) 128 (c :: s) with
    | some (j, rest) => if (Parser.skipSpace rest).isEmpty then some j else none
    | none => none) = _
  rw [Parser.value?_of_not_mem_telling hc]

theorem parse?_numeral {text : String} {m : Numeral} (htext : text.toList = m.text) :
    parse? text = m.value? := by
  obtain ⟨c, s, hm, hc⟩ := Parser.text_eq_cons m
  have hread := Parser.number?_numeral m (s := []) (fun _ h => by cases h)
  rw [List.append_nil, hm] at hread
  rw [parse?_eq_number? (htext.trans hm) hc, hread]
  cases m.value? <;> rfl

theorem parse?_word {text : String} (htext : text.toList ∈ wordTexts) : parse? text = none := by
  obtain ⟨c, s, hword, hc⟩ := Parser.word_eq_cons htext
  have hread := Parser.number?_word htext []
  rw [List.append_nil, hword] at hread
  rw [parse?_eq_number? hword hc, hread]

/-! ## Texts of documents -/

/-- Whether the whole numbers of a document have 64 bits and it has at most so many levels. -/
inductive Fits : ℕ → Json → Prop
  | null {n : ℕ} : Fits n .null
  | bool {n : ℕ} (b : Bool) : Fits n (.bool b)
  | int {n : ℕ} {i : Int} (hlow : -0x8000000000000000 ≤ i) (hhigh : i < 0x10000000000000000) :
    Fits n (.int i)
  | float {n : ℕ} (x : Float) : Fits n (.float x)
  | str {n : ℕ} (s : String) : Fits n (.str s)
  | arr {n : ℕ} {xs : List Json} (h : ∀ x ∈ xs, Fits n x) : Fits (n + 1) (.arr xs)
  | obj {n : ℕ} {ms : List (String × Json)} (h : ∀ m ∈ ms, Fits n m.2) : Fits (n + 1) (.obj ms)

/-- No value begins with a blank or with the end of a list. -/
theorem render_eq_cons (j : Json) :
    ∃ c s, (render j).toList = c :: s ∧ Parser.isSpace c = false ∧ c ≠ ']' := by
  have hnumber : ∀ {text : List Char}, (∃ c s, text = c :: s ∧ c ∉ Parser.telling) →
      ∃ c s, text = c :: s ∧ Parser.isSpace c = false ∧ c ≠ ']' := by
    rintro text ⟨c, s, htext, hc⟩
    exact ⟨c, s, htext, Parser.isSpace_of_not_mem_telling hc, fun heq => hc (heq ▸ by decide)⟩
  cases j with
  | null => exact ⟨'n', _, rfl, by decide, by decide⟩
  | bool b => cases b with
    | true => exact ⟨'t', _, rfl, by decide, by decide⟩
    | false => exact ⟨'f', _, rfl, by decide, by decide⟩
  | int n =>
    refine hnumber ?_
    rw [render, toList_toString_int]
    exact Parser.text_eq_cons _
  | float x =>
    refine hnumber ?_
    rw [render]
    rcases exists_numeral_float x with ⟨m, hm⟩ | hword
    · rw [hm]
      exact Parser.text_eq_cons m
    · exact Parser.word_eq_cons hword
  | str s => exact ⟨'"', _, Parser.toList_quoted s, by decide, by decide⟩
  | arr xs =>
    refine ⟨'[', (Text.joined "," (renderItems xs)).toList ++ [']'], ?_, by decide, by decide⟩
    simp [render, String.toList_append]
  | obj ms =>
    refine ⟨'\x7b', (Text.joined "," (renderMembers ms)).toList ++ ['\x7d'], ?_, by decide, by decide⟩
    simp [render, String.toList_append]

/-- The text of the items of a list. -/
def itemsText (xs : List Json) : List Char :=
  (Text.joined "," (renderItems xs)).toList

/-- The text of a member of an object. -/
def memberText (m : String × Json) : List Char :=
  (quoted m.1).toList ++ ':' :: (render m.2).toList

/-- The text of the members of an object. -/
def membersText (ms : List (String × Json)) : List Char :=
  (Text.joined "," (renderMembers ms)).toList

theorem toList_render_arr (xs : List Json) : (render (.arr xs)).toList = '[' :: (itemsText xs ++ [']']) := by
  simp [render, itemsText, String.toList_append]

theorem toList_render_obj (ms : List (String × Json)) :
    (render (.obj ms)).toList = '\x7b' :: (membersText ms ++ ['\x7d']) := by
  simp [render, membersText, String.toList_append]

theorem itemsText_singleton (x : Json) : itemsText [x] = (render x).toList := rfl

theorem itemsText_cons_cons (x y : Json) (xs : List Json) :
    itemsText (x :: y :: xs) = (render x).toList ++ ',' :: itemsText (y :: xs) := by
  simp [itemsText, renderItems, Text.joined_cons_cons, String.toList_append]

theorem membersText_singleton (m : String × Json) : membersText [m] = memberText m := by
  simp [membersText, memberText, renderMembers, String.toList_append]

theorem membersText_cons_cons (m n : String × Json) (ms : List (String × Json)) :
    membersText (m :: n :: ms) = memberText m ++ ',' :: membersText (n :: ms) := by
  simp [membersText, memberText, renderMembers, Text.joined_cons_cons, String.toList_append]

theorem itemsText_eq_cons (x : Json) (xs : List Json) :
    ∃ c s, itemsText (x :: xs) = c :: s ∧ Parser.isSpace c = false ∧ c ≠ ']' := by
  obtain ⟨c, s, hx, hc⟩ := render_eq_cons x
  cases xs with
  | nil => exact ⟨c, s, hx, hc⟩
  | cons y xs => exact ⟨c, s ++ ',' :: itemsText (y :: xs), by rw [itemsText_cons_cons, hx]; rfl, hc⟩

theorem membersText_eq_cons (m : String × Json) (ms : List (String × Json)) :
    ∃ s, membersText (m :: ms) = '"' :: s := by
  cases ms with
  | nil => exact ⟨_, by rw [membersText_singleton, memberText, Parser.toList_quoted]; rfl⟩
  | cons n ms => exact ⟨_, by rw [membersText_cons_cons, memberText, Parser.toList_quoted]; rfl⟩

/-- Whether a document comes back from its text inside another one, within so many levels less one. -/
def ComesBack (depth : ℕ) (j : Json) : Prop :=
  ∀ (fuel : ℕ) (rest : List Char), Closes rest → 2 * (render j).toList.length ≤ fuel + 1 →
    Parser.value? fuel depth ((render j).toList ++ rest) = j.again.map (·, rest)

namespace Parser

variable {fuel depth : ℕ} {rest : List Char}

theorem value?_list {c : Char} (hspace : isSpace c = false) (hc : c ≠ ']') (s : List Char) :
    value? (fuel + 1) (depth + 2) ('[' :: c :: s) = items? fuel (depth + 1) [] (c :: s) := by
  rw [value?, skipSpace_cons (by decide)]
  simp only [skipSpace_cons hspace]
  split
  · next heq => exact absurd (List.cons.inj heq).1 hc
  · rfl

theorem value?_object (s : List Char) :
    value? (fuel + 1) (depth + 2) ('\x7b' :: '"' :: s) = fields? fuel (depth + 1) [] ('"' :: s) := by
  rw [value?, skipSpace_cons (by decide)]
  simp only [skipSpace_cons (show isSpace '"' = false by decide)]
  rfl

theorem closes_cons {c : Char} (hc : c = ',' ∨ c = ']' ∨ c = '\x7d') (s : List Char) : Closes (c :: s) := by
  intro d hd
  obtain rfl := Option.some.inj hd
  exact hc

theorem length_render_pos (j : Json) : 0 < (render j).toList.length := by
  obtain ⟨c, s, hj, -⟩ := render_eq_cons j
  rw [hj]
  exact Nat.succ_pos _

/-- The items of a list are read to its end, which uses up two steps for every character at most. -/
theorem items?_itemsText (xs : List Json) (hxs : ∀ x ∈ xs, ComesBack depth x) (hne : xs ≠ [])
    (acc : List Json) (rest : List Char) (hfuel : 2 * (itemsText xs).length ≤ fuel) :
    items? fuel depth acc (itemsText xs ++ ']' :: rest) =
      (againItems xs).map fun ys => (.arr (acc.reverse ++ ys), rest) := by
  induction xs generalizing fuel acc with
  | nil => exact absurd rfl hne
  | cons x xs ih =>
    have hpos := length_render_pos x
    cases xs with
    | nil =>
      rw [itemsText_singleton] at hfuel ⊢
      obtain ⟨k, rfl⟩ : ∃ k, fuel = k + 1 := ⟨fuel - 1, by omega⟩
      have hx := hxs x List.mem_cons_self k _ (closes_cons (.inr (.inl rfl)) rest) hfuel
      rw [items?, hx, againItems]
      cases x.again with
      | none => rfl
      | some y =>
        show some (Json.arr (y :: acc).reverse, rest) = some (Json.arr (acc.reverse ++ [y]), rest)
        rw [List.reverse_cons]
    | cons y xs =>
      -- One step is spent on this item; the comma after it pays for the step to the next one.
      rw [itemsText_cons_cons, List.append_assoc] at *
      rw [List.length_append, List.length_cons] at hfuel
      obtain ⟨k, rfl⟩ : ∃ k, fuel = k + 1 := ⟨fuel - 1, by omega⟩
      have hx := hxs x List.mem_cons_self k _
        (closes_cons (.inl rfl) (itemsText (y :: xs) ++ ']' :: rest)) (by omega)
      rw [List.cons_append, items?, hx, againItems]
      cases x.again with
      | none => rfl
      | some z =>
        have hleft : 2 * (itemsText (y :: xs)).length ≤ k := by omega
        have hrest := ih (fun w hw => hxs w (List.mem_cons_of_mem x hw)) (List.cons_ne_nil y xs) (z :: acc) hleft
        show items? k depth (z :: acc) (itemsText (y :: xs) ++ ']' :: rest) = _
        rw [hrest]
        cases againItems (y :: xs) with
        | none => rfl
        | some zs => simp

/-- A member of an object is read up to its value. -/
theorem fields?_memberText (m : String × Json) (acc : List (String × Json)) (s : List Char) :
    fields? (fuel + 1) depth acc (memberText m ++ s) =
      match value? fuel depth ((render m.2).toList ++ s) with
      | none => none
      | some (x, s) => match skipSpace s with
        | ',' :: s => fields? fuel depth ((m.1, x) :: acc) s
        | '\x7d' :: s => some (ofMembers ((m.1, x) :: acc).reverse, s)
        | _ => none := by
  have htext : memberText m ++ s =
      '"' :: (m.1.toList.flatMap escapeChar ++ '"' :: ':' :: ((render m.2).toList ++ s)) := by
    simp [memberText, toList_quoted]
  have hname : string? ((m.1.toList.flatMap escapeChar ++ '"' :: ':' :: ((render m.2).toList ++ s)).length + 1) []
      (m.1.toList.flatMap escapeChar ++ '"' :: ':' :: ((render m.2).toList ++ s)) =
        some (m.1, ':' :: ((render m.2).toList ++ s)) := by
    refine string?_quoted m.1 ?_
    rw [toList_quoted]
    simp
  have hskip : ∀ t, skipSpace ('"' :: t) = '"' :: t := fun t => skipSpace_cons (by decide) t
  rw [htext, fields?]
  simp only [hskip, hname]
  rfl

/-- The members of an object are read to its end. -/
theorem fields?_membersText (ms : List (String × Json)) (hms : ∀ m ∈ ms, ComesBack depth m.2)
    (hne : ms ≠ []) (acc : List (String × Json)) (rest : List Char)
    (hfuel : 2 * (membersText ms).length ≤ fuel) :
    fields? fuel depth acc (membersText ms ++ '\x7d' :: rest) =
      (againMembers ms).map fun ns => (ofMembers (acc.reverse ++ ns), rest) := by
  induction ms generalizing fuel acc with
  | nil => exact absurd rfl hne
  | cons m ms ih =>
    have hlength : (render m.2).toList.length < (memberText m).length := by
      simp only [memberText, List.length_append, List.length_cons]
      omega
    cases ms with
    | nil =>
      rw [membersText_singleton] at hfuel ⊢
      obtain ⟨k, rfl⟩ : ∃ k, fuel = k + 1 := ⟨fuel - 1, by omega⟩
      have hm := hms m List.mem_cons_self k _ (closes_cons (.inr (.inr rfl)) rest) (by omega)
      rw [fields?_memberText, hm, againMembers]
      cases m.2.again with
      | none => rfl
      | some y =>
        show some (ofMembers ((m.1, y) :: acc).reverse, rest) =
          some (ofMembers (acc.reverse ++ [(m.1, y)]), rest)
        rw [List.reverse_cons]
    | cons n ms =>
      rw [membersText_cons_cons, List.append_assoc] at *
      rw [List.length_append, List.length_cons] at hfuel
      obtain ⟨k, rfl⟩ : ∃ k, fuel = k + 1 := ⟨fuel - 1, by omega⟩
      have hm := hms m List.mem_cons_self k _
        (closes_cons (.inl rfl) (membersText (n :: ms) ++ '\x7d' :: rest)) (by omega)
      rw [List.cons_append, fields?_memberText, hm, againMembers]
      cases m.2.again with
      | none => rfl
      | some z =>
        have hleft : 2 * (membersText (n :: ms)).length ≤ k := by omega
        have hrest := ih (fun w hw => hms w (List.mem_cons_of_mem m hw)) (List.cons_ne_nil n ms)
          ((m.1, z) :: acc) hleft
        show fields? k depth ((m.1, z) :: acc) (membersText (n :: ms) ++ '\x7d' :: rest) = _
        rw [hrest]
        cases againMembers (n :: ms) with
        | none => rfl
        | some zs => simp

end Parser

theorem ComesBack.of_succ {j : Json} {depth : ℕ}
    (h : ∀ (fuel : ℕ) (rest : List Char), Closes rest → 2 * (render j).toList.length ≤ fuel + 2 →
      Parser.value? (fuel + 1) depth ((render j).toList ++ rest) = j.again.map (·, rest)) :
    ComesBack depth j := by
  intro fuel rest hrest hfuel
  have hpos := Parser.length_render_pos j
  obtain ⟨k, rfl⟩ : ∃ k, fuel = k + 1 := ⟨fuel - 1, by omega⟩
  exact h k rest hrest hfuel

/-- A text that is read as a number comes back as one. -/
theorem value?_numeral {m : Numeral} {fuel depth : ℕ} {rest : List Char} (hrest : Closes rest) :
    Parser.value? (fuel + 1) depth (m.text ++ rest) = m.value?.map (·, rest) := by
  rw [← Parser.number?_numeral m hrest]
  obtain ⟨c, s, hm, hc⟩ := Parser.text_eq_cons m
  rw [hm]
  exact Parser.value?_of_not_mem_telling hc (s ++ rest)

/-- Every document comes back as what `again` says. -/
theorem comesBack {n : ℕ} {j : Json} (h : Fits n j) : ComesBack (n + 1) j := by
  induction h with
  | null => exact .of_succ fun _ _ _ _ => rfl
  | bool b => cases b with
    | true => exact .of_succ fun _ _ _ _ => rfl
    | false => exact .of_succ fun _ _ _ _ => rfl
  | str s =>
    refine .of_succ fun fuel rest _ _ => ?_
    have htext : (quoted s).toList ++ rest = '"' :: (s.toList.flatMap escapeChar ++ '"' :: rest) := by
      simp [Parser.toList_quoted]
    have hread := Parser.string?_quoted s htext
    rw [render, htext, Parser.value?, Parser.skipSpace_cons (by decide)]
    simp only [hread]
    rfl
  | int hlow hhigh =>
    refine .of_succ fun fuel rest hrest _ => ?_
    rw [render, toList_toString_int, value?_numeral hrest, Numeral.value?_ofInt hlow hhigh]
    rfl
  | float x =>
    refine .of_succ fun fuel rest hrest _ => ?_
    rw [again, render]
    rcases exists_numeral_float x with ⟨m, hm⟩ | hword
    · rw [parse?_numeral hm, hm, value?_numeral hrest]
    · obtain ⟨c, s, htext, hc⟩ := Parser.word_eq_cons hword
      rw [parse?_word hword]
      have hnone := Parser.number?_word hword rest
      rw [htext] at hnone ⊢
      exact (Parser.value?_of_not_mem_telling hc (s ++ rest)).trans hnone
  | @arr n xs _ ih =>
    refine .of_succ fun fuel rest _ hfuel => ?_
    rw [toList_render_arr] at hfuel ⊢
    rw [List.length_cons, List.length_append, List.length_singleton] at hfuel
    -- The brackets pay for the step into the list.
    have htext : '[' :: (itemsText xs ++ [']']) ++ rest = '[' :: (itemsText xs ++ ']' :: rest) := by simp
    rw [htext]
    cases xs with
    | nil => rfl
    | cons x xs =>
      obtain ⟨c, s, hitems, hspace, hc⟩ := itemsText_eq_cons x xs
      have hfuel' : 2 * (itemsText (x :: xs)).length ≤ fuel := by omega
      have hread := Parser.items?_itemsText (x :: xs) ih (List.cons_ne_nil x xs) [] rest hfuel'
      rw [hitems, List.cons_append] at hread ⊢
      rw [Parser.value?_list hspace hc, hread, again, Option.map_map]
      rfl
  | @obj n ms _ ih =>
    refine .of_succ fun fuel rest _ hfuel => ?_
    rw [toList_render_obj] at hfuel ⊢
    rw [List.length_cons, List.length_append, List.length_singleton] at hfuel
    have htext : '\x7b' :: (membersText ms ++ ['\x7d']) ++ rest =
        '\x7b' :: (membersText ms ++ '\x7d' :: rest) := by simp
    rw [htext]
    cases ms with
    | nil => rfl
    | cons m ms =>
      obtain ⟨s, hmembers⟩ := membersText_eq_cons m ms
      have hfuel' : 2 * (membersText (m :: ms)).length ≤ fuel := by omega
      have hread := Parser.fields?_membersText (m :: ms) ih (List.cons_ne_nil m ms) [] rest hfuel'
      rw [hmembers, List.cons_append] at hread ⊢
      rw [Parser.value?_object, hread, again, Option.map_map]
      rfl

/-- What a document comes back as, if it is not too deep. -/
theorem parse?_render {j : Json} (h : Fits 127 j) : parse? (render j) = j.again := by
  have hread := comesBack h (2 * (render j).toList.length + 2) [] (fun _ h => by cases h) (by omega)
  rw [List.append_nil] at hread
  unfold parse?
  simp only [hread]
  cases j.again <;> rfl

end JiraQuery.Json
