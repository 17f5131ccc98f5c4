import JiraQuery.Config.Basic
import Mathlib

/-!
# Choosing a profile

Among the profiles of a valid configuration a name means one profile at most, and there is one to choose
as soon as there is any. Main statement: `validate_resolves`.
-/

namespace JiraQuery.Config

variable {c : Config} {p : Profile} {name : String}

/-- By induction on the profiles: those before the one that is looked for have other names. -/
theorem profile?_of_mem (hnames : (c.profiles.map (·.name)).Nodup) (hp : p ∈ c.profiles) :
    c.profile? p.name = some p := by
  obtain ⟨_, _, profiles⟩ := c
  unfold profile?
  dsimp only at hnames hp ⊢
  induction profiles with
  | nil => cases hp
  | cons q qs ih =>
    obtain ⟨hnew, hrest⟩ := List.nodup_cons.1 hnames
    by_cases hq : q.name = p.name
    · rcases List.mem_cons.1 hp with rfl | hmem
      · simp
      · exact absurd (List.mem_map.2 ⟨p, hmem, hq.symm⟩) hnew
    · have hmem : p ∈ qs := by
        rcases List.mem_cons.1 hp with rfl | hmem
        · exact absurd rfl hq
        · exact hmem
      rw [List.find?_cons_of_neg (by simp [hq])]
      exact ih hrest hmem

theorem resolve_some_of_profile? (h : c.profile? name = some p) : c.resolve (some name) = .ok p := by
  show (c.profile? name).elim _ _ = _
  rw [h]
  rfl

theorem resolve_some_of_missing (h : ∀ p ∈ c.profiles, p.name ≠ name) :
    c.resolve (some name) = .error (.profileNotFound name) := by
  have hnone : c.profile? name = none := List.find?_eq_none.2 (by simpa using h)
  show (c.profile? name).elim _ _ = _
  rw [hnone]
  rfl

theorem mem_names_iff : name ∈ c.profiles.map (·.name) ↔ ∃ p ∈ c.profiles, p.name = name := by
  simp

/-- Without a name the default profile is taken, or else the first one. -/
theorem Valid.resolve_none (h : c.Valid) : (c.profiles = [] ∧ ∃ e, c.resolve none = .error e) ∨
    ∃ p ∈ c.profiles, c.resolve none = .ok p ∧ ∀ name, c.defaultProfile = some name → p.name = name := by
  cases hdefault : c.defaultProfile with
  | some name =>
    obtain ⟨p, hp, rfl⟩ := mem_names_iff.1 (h.default_mem name hdefault)
    have hresolve : c.resolve none = c.resolve (some p.name) := by
      simp [resolve, hdefault]
    rw [hresolve, resolve_some_of_profile? (profile?_of_mem h.names_nodup hp)]
    exact .inr ⟨p, hp, rfl, fun _ hname => Option.some.inj hname⟩
  | none =>
    have hresolve : c.resolve none = c.profiles.head?.elim (.error (.profileNotFound "<default>")) .ok := by
      simp [resolve, hdefault]
    rw [hresolve]
    cases hprofiles : c.profiles with
    | nil => exact .inl ⟨rfl, _, rfl⟩
    | cons p ps => exact .inr ⟨p, List.mem_cons_self, rfl, nofun⟩

/-- A configuration is accepted if, and only if, its profiles are, their names are different and the
default one is there. In an accepted one every profile is found by its name, and nothing by any other; to
ask for no name fails if, and only if, there are no profiles, and gives the default profile, if one is
set. -/
theorem validate_resolves (c : Config) :
    (c.validate = .ok () ↔
      (∀ p ∈ c.profiles, p.validate = .ok ()) ∧ (c.profiles.map (·.name)).Nodup ∧
        ∀ name, c.defaultProfile = some name → ∃ p ∈ c.profiles, p.name = name) ∧
    (c.validate = .ok () →
      (∀ p ∈ c.profiles, c.resolve (some p.name) = .ok p) ∧
      (∀ name, (∀ p ∈ c.profiles, p.name ≠ name) →
        c.resolve (some name) = .error (.profileNotFound name)) ∧
      ((∃ e, c.resolve none = .error e) ↔ c.profiles = []) ∧
      ∀ p, c.resolve none = .ok p →
        p ∈ c.profiles ∧ ∀ name, c.defaultProfile = some name → p.name = name) := by
  constructor
  · rw [validate_eq_ok_iff]
    constructor
    · rintro ⟨hprofiles, hnames, hdefault⟩
      exact ⟨fun p hp => Profile.validate_eq_ok_iff.2 (hprofiles p hp), hnames,
        fun name hname => mem_names_iff.1 (hdefault name hname)⟩
    · rintro ⟨hprofiles, hnames, hdefault⟩
      exact ⟨fun p hp => Profile.validate_eq_ok_iff.1 (hprofiles p hp), hnames,
        fun name hname => mem_names_iff.2 (hdefault name hname)⟩
  · intro hvalid
    rw [validate_eq_ok_iff] at hvalid
    refine ⟨fun p hp => resolve_some_of_profile? (profile?_of_mem hvalid.names_nodup hp),
      fun name => resolve_some_of_missing, ?_⟩
    rcases hvalid.resolve_none with ⟨hempty, e, hfails⟩ | ⟨p, hp, hresolve, hdefault⟩
    · rw [hfails]
      exact ⟨⟨fun _ => hempty, fun _ => ⟨e, rfl⟩⟩, nofun⟩
    · rw [hresolve]
      constructor
      · constructor
        · rintro ⟨e, he⟩
          cases he
        · intro hempty
          rw [hempty] at hp
          cases hp
      · intro q hq
        obtain rfl := Except.ok.inj hq
        exact ⟨hp, hdefault⟩

def officeProfile : Profile where
  name := "office"
  url := "https://jira.example.com"
  email := "me@example.com"

def localProfile : Profile where
  name := "Office"
  url := "http://localhost:8080"
  email := "admin@localhost"
  tokenEnv := some "LOCAL_TOKEN"

/-- A configuration whose profiles have names that differ in case. -/
def twoProfiles : Config where
  defaultProfile := some "Office"
  profiles := [officeProfile, localProfile]

theorem validate_resolves_twoProfiles :
    twoProfiles.validate = .ok () ∧ twoProfiles.resolve (some "office") = .ok officeProfile ∧
      twoProfiles.resolve (some "Office") = .ok localProfile ∧
      twoProfiles.resolve (some "OFFICE") = .error (.profileNotFound "OFFICE") ∧
      ∀ e, twoProfiles.resolve none ≠ .error e := by
  have hvalid : twoProfiles.validate = .ok () := by decide +kernel
  obtain ⟨-, hresolves⟩ := validate_resolves twoProfiles
  obtain ⟨hnamed, hmissing, hnone, -⟩ := hresolves hvalid
  refine ⟨hvalid, hnamed officeProfile (by decide), hnamed localProfile (by decide),
    hmissing "OFFICE" (by decide), fun e he => ?_⟩
  cases hnone.1 ⟨e, he⟩

end JiraQuery.Config
