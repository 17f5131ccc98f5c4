import JiraQuery.Net.Path
import JiraQuery.Proofs.Text.Percent

/-!
# Reading paths

A path is taken apart at its separators, and the parts are decoded. What callers give is encoded, and no
separator occurs in it then. Main statements: `read?_withParameters` and `segments?_ofSegments`.
-/

namespace JiraQuery

namespace Text

theorem toList_joined (c : Char) (texts : List String) :
    (joined (String.singleton c) texts).toList = [c].intercalate (texts.map String.toList) := by
  induction texts with
  | nil => rfl
  | cons s rest ih =>
    cases rest with
    | nil => simp [List.intercalate]
    | cons t rest =>
      rw [joined_cons_cons, String.toList_append, String.toList_append, ih]
      simp [List.intercalate_cons_cons]

theorem eq_or_exists_mem_of_mem_joined {c d : Char} {texts : List String}
    (hd : d ∈ (joined (String.singleton c) texts).toList) : d = c ∨ ∃ s ∈ texts, d ∈ s.toList := by
  induction texts with
  | nil => cases hd
  | cons s rest ih =>
    cases rest with
    | nil => exact .inr ⟨s, List.mem_cons_self, hd⟩
    | cons t rest =>
      simp only [joined_cons_cons, String.toList_append, String.toList_singleton, List.mem_append,
        List.mem_singleton] at hd
      rcases hd with (hs | rfl) | hrest
      · exact .inr ⟨s, List.mem_cons_self, hs⟩
      · exact .inl rfl
      · refine (ih hrest).imp_right ?_
        rintro ⟨u, hu, hmem⟩
        exact ⟨u, List.mem_cons_of_mem s hu, hmem⟩

namespace Percent

/-- The characters that divide a path. -/
def separators : List Char := ['?', '&', '=', '/']

theorem ofNat_not_mem_separators {b : UInt8} (h : isPlain b = true) : Char.ofNat b.toNat ∉ separators := by
  have hdivides : ∀ c ∈ separators, isPlain (UInt8.ofNat c.toNat) = false := by
    simp only [separators, List.mem_cons, List.not_mem_nil, or_false, forall_eq_or_imp, forall_eq]
    exact ⟨rfl, rfl, rfl, rfl⟩
  intro hmem
  have hplain := hdivides _ hmem
  rw [toNat_ofNat_byte, UInt8.ofNat_toNat, h] at hplain
  cases hplain

theorem hexDigit_not_mem_separators : ∀ n < 16, hexDigit n ∉ separators := by
  decide

theorem not_mem_encodeByte {c : Char} (hc : c ∈ separators) (b : UInt8) : c ∉ encodeByte b := by
  have hlt := b.toNat_lt
  unfold encodeByte
  split
  · next hplain =>
    intro hmem
    obtain rfl := List.mem_singleton.1 hmem
    exact ofNat_not_mem_separators hplain hc
  · intro hmem
    simp only [List.mem_cons, List.not_mem_nil, or_false] at hmem
    rcases hmem with rfl | rfl | rfl
    · exact absurd hc (by decide)
    · exact hexDigit_not_mem_separators _ (by omega) hc
    · exact hexDigit_not_mem_separators _ (by omega) hc

/-- What is encoded does not divide a path. -/
theorem not_mem_encode {c : Char} (hc : c ∈ separators) (s : String) : c ∉ (encode s).toList := by
  rw [encode, String.toList_ofList, encodeChars]
  intro hmem
  obtain ⟨d, -, hd⟩ := List.mem_flatMap.1 hmem
  obtain ⟨b, -, hb⟩ := List.mem_flatMap.1 hd
  exact not_mem_encodeByte hc b hb

end Percent

end Text

namespace Path

open Text (Percent.encode Percent.decode? Percent.decode?_encode Percent.not_mem_encode)

variable {path : String} {ps : List (String × String)}

/-- Decodes a part of a path. -/
def part? (s : List Char) : Option String :=
  Percent.decode? (String.ofList s)

/-- The segments of a path without a query part. -/
def segments? (path : String) : Option (List String) :=
  (path.toList.splitOn '/').mapM part?

/-- A name and a value, with an equals sign between them. -/
def parameter? (s : List Char) : Option (String × String) :=
  match s.splitOn '=' with
  | [name, value] => do return (← part? name, ← part? value)
  | _ => none

/-- What stands before the query part, and the parameters in the query part. -/
def read? (path : String) : Option (String × List (String × String)) :=
  match path.toList.splitOn '?' with
  | [front] => some (String.ofList front, [])
  | [front, query] => ((query.splitOn '&').mapM parameter?).map (String.ofList front, ·)
  | _ => none

/-- Whether a name is encoded as it is. -/
def IsName (name : String) : Prop :=
  Percent.encode name = name

instance (name : String) : Decidable (IsName name) :=
  inferInstanceAs (Decidable (Percent.encode name = name))

theorem part?_encode (s : String) : part? (Percent.encode s).toList = some s := by
  rw [part?, String.ofList_toList, Percent.decode?_encode]

theorem splitOn_joined {c : Char} (texts : List String) (hne : texts ≠ [])
    (h : ∀ s ∈ texts, c ∉ s.toList) :
    (Text.joined (String.singleton c) texts).toList.splitOn c = texts.map String.toList := by
  rw [Text.toList_joined]
  refine List.splitOn_intercalate c (fun l hl => ?_) (by simpa using hne)
  obtain ⟨s, hs, rfl⟩ := List.mem_map.1 hl
  exact h s hs

/-- What can be read in its written form is read from a list of written forms. -/
theorem mapM_read_map {α β γ : Type} {read? : β → Option γ} {write : α → β} {value : α → γ} {xs : List α}
    (h : ∀ x ∈ xs, read? (write x) = some (value x)) :
    (xs.map write).mapM read? = some (xs.map value) := by
  induction xs with
  | nil => rfl
  | cons x xs ih =>
    obtain ⟨hx, hxs⟩ := List.forall_mem_cons.1 h
    rw [List.map_cons, List.mapM_cons, hx, ih hxs]
    rfl

/-- Segments are read back from the path that they make. -/
theorem segments?_ofSegments {segments : List String} (h : segments ≠ []) :
    segments? (ofSegments segments) = some segments := by
  have hsplit : (ofSegments segments).toList.splitOn '/' =
      (segments.map Percent.encode).map String.toList := by
    refine splitOn_joined _ (by simpa using h) fun s hs => ?_
    obtain ⟨s, -, rfl⟩ := List.mem_map.1 hs
    exact Percent.not_mem_encode (by decide) s
  have hread : (segments.map fun s => (Percent.encode s).toList).mapM part? = some (segments.map id) :=
    mapM_read_map fun s _ => part?_encode s
  rw [segments?, hsplit, List.map_map]
  exact hread.trans (congrArg some (List.map_id segments))

theorem parameter?_text {p : String × String} (hp : IsName p.1) :
    parameter? (p.1 ++ "=" ++ Percent.encode p.2).toList = some p := by
  have hsplit : (p.1 ++ "=" ++ Percent.encode p.2).toList.splitOn '=' =
      [(Percent.encode p.1).toList, (Percent.encode p.2).toList] := by
    rw [hp]
    refine splitOn_joined (c := '=') [p.1, Percent.encode p.2] (by simp) fun s hs => ?_
    simp only [List.mem_cons, List.not_mem_nil, or_false] at hs
    rcases hs with rfl | rfl
    · rw [← hp]
      exact Percent.not_mem_encode (by decide) p.1
    · exact Percent.not_mem_encode (by decide) p.2
  rw [parameter?, hsplit]
  simp [part?_encode]

/-- A parameter as it is written. -/
def parameterText (p : String × String) : String :=
  p.1 ++ "=" ++ Percent.encode p.2

theorem not_mem_parameterText {c : Char} (hc : c ∈ Text.Percent.separators) (hne : c ≠ '=')
    {p : String × String} (hp : IsName p.1) : c ∉ (parameterText p).toList := by
  have hname : c ∉ p.1.toList := by
    rw [← hp]
    exact Percent.not_mem_encode hc p.1
  have hvalue := Percent.not_mem_encode hc p.2
  simp [parameterText, hname, hvalue, hne]

/-- Between parameters there are ampersands, and none within them. -/
theorem splitOn_parameters (hne : ps ≠ []) (hps : ∀ p ∈ ps, IsName p.1) :
    (parameters ps).toList.splitOn '&' = ps.map fun p => (parameterText p).toList := by
  have htexts : (parameters ps).toList.splitOn '&' = (ps.map parameterText).map String.toList := by
    refine splitOn_joined _ (by simpa using hne) fun s hs => ?_
    obtain ⟨p, hp, rfl⟩ := List.mem_map.1 hs
    exact not_mem_parameterText (by decide) (by decide) (hps p hp)
  rwa [List.map_map] at htexts

theorem question_not_mem_parameters (hps : ∀ p ∈ ps, IsName p.1) : '?' ∉ (parameters ps).toList := by
  intro hmem
  rcases Text.eq_or_exists_mem_of_mem_joined (c := '&') hmem with heq | ⟨s, hs, hmem⟩
  · exact absurd heq (by decide)
  · obtain ⟨p, hp, rfl⟩ := List.mem_map.1 hs
    exact not_mem_parameterText (by decide) (by decide) (hps p hp) hmem

/-- Parameters with such names are read back, whatever their values are. -/
theorem read?_withParameters (hpath : '?' ∉ path.toList) (hps : ∀ p ∈ ps, IsName p.1) :
    read? (withParameters path ps) = some (path, ps) := by
  by_cases hne : ps = []
  · subst hne
    have hsplit : path.toList.splitOn '?' = [path.toList] :=
      splitOn_joined [path] (by simp) (by simpa using hpath)
    show read? path = _
    rw [read?, hsplit]
    simp
  · have hpath' : withParameters path ps = path ++ "?" ++ parameters ps := if_neg (by simpa using hne)
    have hsplit : (path ++ "?" ++ parameters ps).toList.splitOn '?' =
        [path.toList, (parameters ps).toList] :=
      splitOn_joined [path, parameters ps] (by simp)
        (by simpa using ⟨hpath, question_not_mem_parameters hps⟩)
    have hread : (ps.map fun p => (parameterText p).toList).mapM parameter? = some (ps.map id) :=
      mapM_read_map fun p hp => parameter?_text (hps p hp)
    rw [hpath', read?, hsplit]
    simp [splitOn_parameters hne hps, hread]

end Path

end JiraQuery
