import JiraQuery.Net.ServerUrl
import Mathlib

/-!
# Addresses and the slashes at their end

An address loses the slashes at its end. One that is nothing but its scheme loses those of the scheme with
them, and what is left is refused. Main statement: `normalize_eq_ok_iff`.
-/

namespace JiraQuery.Text

variable {p : Char → Bool} {s t : List Char}

/-- What satisfies `p` to the end is dropped, and more may go with it. -/
theorem trimEndWhile_append_of_all (ht : ∀ c ∈ t, p c = true) (s : List Char) :
    trimEndWhile p (s ++ t) = trimEndWhile p s := by
  unfold trimEndWhile
  rw [List.reverse_append, List.dropWhile_append_of_pos (by simpa using ht)]

/-- Nothing is dropped in front of a character that stays. -/
theorem trimEndWhile_append_of_exists (ht : ∃ c ∈ t, p c = false) (s : List Char) :
    trimEndWhile p (s ++ t) = s ++ trimEndWhile p t := by
  have hstays : (t.reverse.dropWhile p).isEmpty = false := by
    simpa [List.dropWhile_eq_nil_iff] using ht
  unfold trimEndWhile
  rw [List.reverse_append, List.dropWhile_append, hstays]
  simp

theorem mem_of_mem_trimEndWhile {c : Char} (hc : c ∈ trimEndWhile p s) : c ∈ s := by
  obtain ⟨t, hs, -⟩ := trimEndWhile_append p s
  rw [hs]
  exact List.mem_append_left t hc

end JiraQuery.Text

namespace JiraQuery.ServerUrl

open Text (isBlank trimChars trimEndWhile)

variable {url : String} {scheme rest : List Char}

/-- What an address on the web begins with. -/
def schemes : List (List Char) :=
  ["https://".toList, "http://".toList]

/-- Nothing but a scheme, slashes and white space after them. -/
def IsBare (url : String) : Prop :=
  ∃ scheme ∈ schemes, ∃ slashes blanks : List Char, url.toList = scheme ++ (slashes ++ blanks) ∧
    (∀ c ∈ slashes, c = '/') ∧ ∀ c ∈ blanks, isBlank c = true

theorem hasScheme_iff {s : List Char} : hasScheme s = true ↔ ∃ scheme ∈ schemes, ∃ rest, s = scheme ++ rest := by
  unfold hasScheme isSecure
  simp only [Bool.or_eq_true, List.isPrefixOf_iff_prefix, List.prefix_iff_exists_append_eq, schemes,
    List.mem_cons, List.not_mem_nil, or_false, exists_eq_or_imp, exists_eq_left, eq_comm (a := s)]

/-- No white space stands at the front of an address with a scheme, nor within the scheme. -/
theorem trimChars_scheme (hscheme : scheme ∈ schemes) (rest : List Char) :
    trimChars (scheme ++ rest) = scheme ++ trimEndWhile isBlank rest := by
  have hfront : ∀ s, (scheme ++ s).dropWhile isBlank = scheme ++ s := by
    intro s
    have hh : ¬isBlank 'h' = true := by decide
    simp only [schemes, List.mem_cons, List.not_mem_nil, or_false] at hscheme
    rcases hscheme with rfl | rfl
    · exact List.dropWhile_cons_of_neg (a := 'h') hh
    · exact List.dropWhile_cons_of_neg (a := 'h') hh
  have hend : ∀ scheme ∈ schemes, trimEndWhile isBlank scheme = scheme := by decide
  unfold trimChars
  rw [hfront]
  by_cases hblank : ∀ c ∈ rest, isBlank c = true
  · have hnil : trimEndWhile isBlank rest = [] := Text.trimEndWhile_append_of_all hblank []
    rw [Text.trimEndWhile_append_of_all hblank, hend scheme hscheme, hnil, List.append_nil]
  · rw [Text.trimEndWhile_append_of_exists (by simpa using hblank)]

theorem trimmed_of_slashes (hscheme : scheme ∈ schemes) (hurl : url.toList = scheme ++ rest)
    (hslashes : ∀ c ∈ trimEndWhile isBlank rest, c = '/') : trimmed url = trimEndWhile (· = '/') scheme := by
  unfold trimmed
  rw [hurl, trimChars_scheme hscheme]
  exact Text.trimEndWhile_append_of_all (by simpa using hslashes) scheme

theorem trimmed_of_place (hscheme : scheme ∈ schemes) (hurl : url.toList = scheme ++ rest)
    (hplace : ∃ c ∈ trimEndWhile isBlank rest, c ≠ '/') :
    trimmed url = scheme ++ trimEndWhile (· = '/') (trimEndWhile isBlank rest) := by
  unfold trimmed
  rw [hurl, trimChars_scheme hscheme]
  exact Text.trimEndWhile_append_of_exists (by simpa using hplace) scheme

/-- The scheme of a bare address is left without its slashes, and so is none. -/
theorem normalize_of_isBare (h : IsBare url) :
    normalize url = .error (.invalidUrl "https:") ∨ normalize url = .error (.invalidUrl "http:") := by
  obtain ⟨scheme, hscheme, slashes, blanks, hurl, hslashes, hblanks⟩ := h
  have hrest : ∀ c ∈ trimEndWhile isBlank (slashes ++ blanks), c = '/' := by
    rw [Text.trimEndWhile_append_of_all hblanks]
    exact fun c hc => hslashes c (Text.mem_of_mem_trimEndWhile hc)
  unfold normalize
  rw [trimmed_of_slashes hscheme hurl hrest]
  simp only [schemes, List.mem_cons, List.not_mem_nil, or_false] at hscheme
  rcases hscheme with rfl | rfl
  · exact .inl rfl
  · exact .inr rfl

/-- An address with a scheme is accepted if, and only if, it names a place. -/
theorem normalize_eq_ok_iff (h : hasScheme url.toList = true) :
    (∃ base, normalize url = .ok base) ↔ ¬IsBare url := by
  obtain ⟨scheme, hscheme, rest, hurl⟩ := hasScheme_iff.1 h
  constructor
  · rintro ⟨base, hbase⟩ hbare
    rcases normalize_of_isBare hbare with herror | herror
    · cases herror.symm.trans hbase
    · cases herror.symm.trans hbase
  · intro hnot
    obtain ⟨blanks, hrest, hblanks⟩ := Text.trimEndWhile_append isBlank rest
    have hplace : ∃ c ∈ trimEndWhile isBlank rest, c ≠ '/' := by
      by_contra hslashes
      push Not at hslashes
      exact hnot ⟨scheme, hscheme, _, blanks, hrest ▸ hurl, hslashes, hblanks⟩
    have htrimmed := trimmed_of_place hscheme hurl hplace
    have hkept : hasScheme (trimmed url) = true := hasScheme_iff.2 ⟨scheme, hscheme, _, htrimmed⟩
    exact ⟨_, if_pos hkept⟩

end JiraQuery.ServerUrl
