import JiraQuery.Proofs.Net.Addresses
import JiraQuery.Proofs.Net.Sending

/-!
# Addresses in normal form

An address is trimmed of white space and then of the slashes at its end, each of them once. White space in
front of these slashes is therefore left, and a further round goes on with it. Any other address is settled
in one round. Main statement: `settles_iff`.
-/

namespace JiraQuery

namespace Text

variable {p : Char → Bool} {s : List Char}

/-- Nothing is dropped if the last character stays. -/
theorem trimEndWhile_of_getLast? (h : ∀ c ∈ s.getLast?, p c = false) : trimEndWhile p s = s := by
  unfold trimEndWhile
  rw [List.dropWhile_eq_self_iff.2, List.reverse_reverse]
  intro hlength
  have hlast : s.reverse[0] ∈ s.getLast? := by
    rw [← List.head?_reverse, List.head?_eq_getElem?, Option.mem_def]
    exact List.getElem?_eq_getElem hlength
  simpa using h _ hlast

end Text

namespace ServerUrl

open Text (isBlank trimChars trimEndWhile)

variable {url base path : String}

/-- White space in front of the slashes at the end. -/
def HidesBlank (url : String) : Prop :=
  ∃ (front slashes blanks : List Char) (c : Char), url.toList = front ++ c :: (slashes ++ blanks) ∧
    isBlank c = true ∧ slashes ≠ [] ∧ (∀ s ∈ slashes, s = '/') ∧ ∀ b ∈ blanks, isBlank b = true

/-! ## One round -/

theorem normalize_eq_ok_iff_trimmed :
    normalize url = .ok base ↔ hasScheme base.toList = true ∧ trimmed url = base.toList := by
  have hbase : trimmed url = base.toList ↔ String.ofList (trimmed url) = base := by
    rw [← String.toList_inj, String.toList_ofList]
  unfold normalize
  rw [hbase]
  dsimp only
  constructor
  · intro h
    split at h
    · next hscheme =>
      obtain rfl := Except.ok.inj h
      exact ⟨by rwa [String.toList_ofList], rfl⟩
    · cases h
  · rintro ⟨hscheme, rfl⟩
    rw [String.toList_ofList] at hscheme
    exact if_pos hscheme

/-- What a round takes off an address. It stops behind white space only if there were slashes. -/
theorem exists_trimmed (url : String) :
    ∃ before slashes after : List Char, url.toList = before ++ (trimmed url ++ (slashes ++ after)) ∧
      (∀ s ∈ slashes, s = '/') ∧ (∀ b ∈ after, isBlank b = true) ∧
      (slashes = [] → ∀ c ∈ (trimmed url).getLast?, isBlank c = false) := by
  obtain ⟨after, hafter, hblanks⟩ := Text.trimEndWhile_append isBlank (url.toList.dropWhile isBlank)
  obtain ⟨slashes, hslashes, hall⟩ : ∃ slashes, trimChars url.toList = trimmed url ++ slashes ∧ _ :=
    Text.trimEndWhile_append (· = '/') (trimChars url.toList)
  refine ⟨url.toList.takeWhile isBlank, slashes, after, ?_, by simpa using hall, hblanks, ?_⟩
  · calc url.toList
        = url.toList.takeWhile isBlank ++ url.toList.dropWhile isBlank :=
          List.takeWhile_append_dropWhile.symm
      _ = url.toList.takeWhile isBlank ++ (trimChars url.toList ++ after) := congrArg _ hafter
      _ = url.toList.takeWhile isBlank ++ (trimmed url ++ (slashes ++ after)) := by
          rw [hslashes, List.append_assoc]
  · rintro rfl c hc
    rw [List.append_nil] at hslashes
    exact Text.getLast?_trimEndWhile (hslashes ▸ hc)

/-- Slashes behind white space are taken off, and the white space is not. -/
theorem trimmed_of_hidesBlank (h : HidesBlank url) :
    trimmed url = [] ∨ ∃ front c, trimmed url = front ++ [c] ∧ isBlank c = true := by
  obtain ⟨front, slashes, blanks, c, hurl, hc, hne, hslashes, hblanks⟩ := h
  have hsolid : ∀ s ∈ slashes.getLast?, isBlank s = false := by
    intro s hs
    rw [hslashes s (List.mem_of_mem_getLast? hs)]
    decide
  have hplain : c ≠ '/' := by
    rintro rfl
    exact absurd hc (by decide)
  unfold trimmed trimChars
  rw [hurl]
  by_cases hfront : ∀ d ∈ front, isBlank d = true
  · left
    have hstart : (front ++ c :: (slashes ++ blanks)).dropWhile isBlank = slashes ++ blanks := by
      obtain ⟨s, rest, rfl⟩ := List.exists_cons_of_ne_nil hne
      have hs : isBlank s = false := by
        rw [hslashes s List.mem_cons_self]
        decide
      rw [List.dropWhile_append_of_pos hfront, List.dropWhile_cons_of_pos hc, List.cons_append,
        List.dropWhile_cons_of_neg (by simpa using hs)]
    rw [hstart, Text.trimEndWhile_append_of_all hblanks, Text.trimEndWhile_of_getLast? hsolid]
    exact Text.trimEndWhile_append_of_all (by simpa using hslashes) []
  · right
    have hstays : (front.dropWhile isBlank).isEmpty = false := by
      simpa [List.dropWhile_eq_nil_iff] using hfront
    have hstart : (front ++ c :: (slashes ++ blanks)).dropWhile isBlank =
        front.dropWhile isBlank ++ [c] ++ (slashes ++ blanks) := by
      rw [List.dropWhile_append, hstays]
      simp
    refine ⟨front.dropWhile isBlank, c, ?_, hc⟩
    have hsome : ∃ s ∈ slashes, isBlank s = false := by
      obtain ⟨s, rest, rfl⟩ := List.exists_cons_of_ne_nil hne
      exact ⟨s, List.mem_cons_self, by rw [hslashes s List.mem_cons_self]; decide⟩
    rw [hstart, ← List.append_assoc, Text.trimEndWhile_append_of_all hblanks,
      Text.trimEndWhile_append_of_exists hsome, Text.trimEndWhile_of_getLast? hsolid,
      Text.trimEndWhile_append_of_all (by simpa using hslashes), Text.trimEndWhile_of_getLast?]
    simpa using hplain

section
variable (h : normalize url = .ok base)
include h

theorem head?_of_normalize : ∀ c ∈ base.toList.head?, isBlank c = false := by
  obtain ⟨hscheme, -⟩ := normalize_eq_ok_iff_trimmed.1 h
  obtain ⟨scheme, hmem, rest, hbase⟩ := hasScheme_iff.1 hscheme
  rw [hbase]
  simp only [schemes, List.mem_cons, List.not_mem_nil, or_false] at hmem
  rcases hmem with rfl | rfl
  · intro c hc
    obtain rfl : 'h' = c := by simpa using hc
    decide
  · intro c hc
    obtain rfl : 'h' = c := by simpa using hc
    decide

theorem getLast?_of_normalize : ∀ c ∈ base.toList.getLast?, c ≠ '/' := by
  obtain ⟨-, htrimmed⟩ := normalize_eq_ok_iff_trimmed.1 h
  intro c hc
  rw [← htrimmed] at hc
  simpa using Text.getLast?_trimEndWhile hc

theorem hidesBlank_iff_getLast? :
    HidesBlank url ↔ ∃ c ∈ base.toList.getLast?, isBlank c = true := by
  obtain ⟨hscheme, htrimmed⟩ := normalize_eq_ok_iff_trimmed.1 h
  rw [← htrimmed] at hscheme ⊢
  constructor
  · intro hhides
    rcases trimmed_of_hidesBlank hhides with hnil | ⟨front, c, hfront, hc⟩
    · rw [hnil] at hscheme
      exact absurd hscheme (by decide)
    · exact ⟨c, by simp [hfront], hc⟩
  · rintro ⟨c, hlast, hc⟩
    obtain ⟨before, slashes, after, hurl, hslashes, hblanks, hstop⟩ := exists_trimmed url
    obtain ⟨front, hfront⟩ := List.getLast?_eq_some_iff.1 hlast
    refine ⟨before ++ front, slashes, after, c, ?_, hc, ?_, hslashes, hblanks⟩
    · simpa [hfront] using hurl
    · intro hnil
      rw [hstop hnil c hlast] at hc
      cases hc

/-- A further round changes nothing if there is no white space for it. -/
theorem normalize_eq_self_iff :
    normalize base = .ok base ↔ ∀ c ∈ base.toList.getLast?, isBlank c = false := by
  obtain ⟨hscheme, -⟩ := normalize_eq_ok_iff_trimmed.1 h
  rw [normalize_eq_ok_iff_trimmed]
  constructor
  · rintro ⟨-, htrimmed⟩
    obtain ⟨before, slashes, after, hurl, -, -, hstop⟩ := exists_trimmed base
    have hnil : slashes = [] := by
      have hlength := congrArg List.length hurl
      rw [htrimmed] at hlength
      simp only [List.length_append] at hlength
      exact List.length_eq_zero_iff.1 (by omega)
    rw [← htrimmed]
    exact hstop hnil
  · intro hlast
    refine ⟨hscheme, ?_⟩
    have hstart : base.toList.dropWhile isBlank = base.toList := by
      cases hlist : base.toList with
      | nil => rfl
      | cons c s =>
        have hc : isBlank c = false := head?_of_normalize h c (by simp [hlist])
        exact List.dropWhile_cons_of_neg (by simpa using hc)
    have hslash : ∀ c ∈ base.toList.getLast?, decide (c = '/') = false := by
      intro c hc
      exact decide_eq_false (getLast?_of_normalize h c hc)
    unfold trimmed trimChars
    rw [hstart, Text.trimEndWhile_of_getLast? hlast, Text.trimEndWhile_of_getLast? hslash]

end

/-! ## Requests -/

/-- The slashes in front of a path are replaced by one. -/
theorem join_of_slashes {slashes rest : List Char} {d : Char} (base : String)
    (hpath : path.toList = slashes ++ d :: rest) (hslashes : ∀ s ∈ slashes, s = '/') (hd : d ≠ '/') :
    join base path = base ++ "/" ++ String.ofList (d :: rest) := by
  unfold join
  rw [hpath, List.dropWhile_append_of_pos (by simpa using hslashes),
    List.dropWhile_cons_of_neg (by simpa using hd)]

theorem exists_client (h : normalize url = .ok base) (auth : Option Auth) (settings : Settings) :
    ∃ c : Client, Client.create url auth settings = .ok c ∧ c.baseUrl = base := by
  unfold Client.create
  rw [h]
  exact ⟨_, rfl, rfl⟩

/-- What is made of an address that is accepted. It has no white space at its front and no slash at its end,
but white space at its end if, and only if, the address had some in front of the slashes at its own end. If
not, it is settled: a further round gives it back; and if so, a further round does not. A request for a path
goes to what was made, one slash and the path without the slashes at its front, and so does every request
that the client sends for it. -/
theorem settles_iff (h : normalize url = .ok base) :
    (∀ c ∈ base.toList.head?, isBlank c = false) ∧
    (∀ c ∈ base.toList.getLast?, c ≠ '/') ∧
    (HidesBlank url ↔ ∃ c ∈ base.toList.getLast?, isBlank c = true) ∧
    (normalize base = .ok base ↔ ¬HidesBlank url) ∧
    ∀ (auth : Option Auth) (settings : Settings), ∃ c, Client.create url auth settings = .ok c ∧
      ∀ (path : String) (slashes rest : List Char) (d : Char), path.toList = slashes ++ d :: rest →
        (∀ s ∈ slashes, s = '/') → d ≠ '/' →
        ∀ (method : String) (body : Option Json),
          (c.request method path body).url = base ++ "/" ++ String.ofList (d :: rest) ∧
          ∀ (token : Token) (l : Link), l.Adds (fun r => r.url = base ++ "/" ++ String.ofList (d :: rest))
            (c.executeRaw token method path body l).2 := by
  have hhides := hidesBlank_iff_getLast? h
  refine ⟨head?_of_normalize h, getLast?_of_normalize h, hhides, ?_, fun auth settings => ?_⟩
  · rw [normalize_eq_self_iff h, hhides]
    simp
  · obtain ⟨c, hcreate, hbase⟩ := exists_client h auth settings
    refine ⟨c, hcreate, fun path slashes rest d hpath hslashes hd method body => ?_⟩
    have hurl : (c.request method path body).url = base ++ "/" ++ String.ofList (d :: rest) := by
      rw [← join_of_slashes base hpath hslashes hd, ← hbase]
      rfl
    exact ⟨hurl, fun token l => Client.adds_executeRaw hurl l⟩

/-- An address with white space and slashes around it. -/
def paddedUrl : String := " https://jira.example.com/jira//\n"

/-- An address with white space between slashes. -/
def gappedUrl : String := "https://jira.example.com/ /"

/-- The first one is settled, and requests go to it; the second one is not. -/
theorem settles_padded :
    normalize paddedUrl = .ok "https://jira.example.com/jira" ∧ ¬HidesBlank paddedUrl ∧
    (∀ (auth : Option Auth) (settings : Settings), ∃ c, Client.create paddedUrl auth settings = .ok c ∧
      ∀ body, (c.request "GET" "//rest/api/2/priority" body).url =
        "https://jira.example.com/jira/rest/api/2/priority") ∧
    normalize gappedUrl = .ok "https://jira.example.com/ " ∧ HidesBlank gappedUrl := by
  have hpadded : normalize paddedUrl = .ok "https://jira.example.com/jira" := by rfl
  have hgapped : normalize gappedUrl = .ok "https://jira.example.com/ " := by rfl
  obtain ⟨-, -, -, hsettled, hclients⟩ := settles_iff hpadded
  obtain ⟨-, -, hhides, -, -⟩ := settles_iff hgapped
  refine ⟨hpadded, hsettled.1 rfl, fun auth settings => ?_, hgapped, hhides.2 ⟨' ', by decide, by decide⟩⟩
  obtain ⟨c, hcreate, hrequests⟩ := hclients auth settings
  refine ⟨c, hcreate, fun body => ?_⟩
  obtain ⟨hurl, -⟩ := hrequests "//rest/api/2/priority" ['/', '/'] "est/api/2/priority".toList 'r' rfl
    (by simp) (by decide) "GET" body
  exact hurl.trans (by decide)

/-- White space at the end of an address that was accepted, and another address in the next round. -/
theorem normalize_gapped_twice :
    normalize gappedUrl = .ok "https://jira.example.com/ " ∧
    (∃ c ∈ "https://jira.example.com/ ".toList.getLast?, isBlank c = true) ∧
    normalize "https://jira.example.com/ " = .ok "https://jira.example.com" :=
  ⟨rfl, ⟨' ', by decide, by decide⟩, rfl⟩

end ServerUrl

end JiraQuery
