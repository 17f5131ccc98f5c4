import JiraQuery.Config.Profile
import JiraQuery.Config.Settings

/-!
# Configurations

Profiles, of which one may be the default, and settings. Main statement: `validate_eq_ok_iff`, which
says what a valid configuration is.
-/

namespace JiraQuery

structure Config where
  /-- The profile that is used if none is asked for. -/
  defaultProfile : Option String := none
  settings : Settings := {}
  profiles : List Profile := []
  deriving DecidableEq, Repr

namespace Config

/-- The profile with a name. -/
def profile? (c : Config) (name : String) : Option Profile :=
  c.profiles.find? (·.name = name)

/-- The profile with a name; without one the default profile, or else the first. -/
def resolve (c : Config) (name : Option String) : Except ConfigError Profile :=
  match name.or c.defaultProfile with
  | some name => (c.profile? name).elim (.error (.profileNotFound name)) .ok
  | none => c.profiles.head?.elim (.error (.profileNotFound "<default>")) .ok

/-- Checks profiles one after the other, given the names of those before. -/
def validateProfiles : List String → List Profile → Except ConfigError Unit
  | _, [] => .ok ()
  | names, p :: ps => do
    p.validate
    if names.contains p.name then
      throw (.validation ("duplicate profile name '" ++ p.name ++ "'"))
    validateProfiles (names ++ [p.name]) ps

/-- Checks each profile, the names of all, and that the default profile is one of them. -/
def validate (c : Config) : Except ConfigError Unit := do
  validateProfiles [] c.profiles
  match c.defaultProfile with
  | some name => if (c.profile? name).isNone then throw (.profileNotFound name)
  | none => return

/-! ## What is valid -/

/-- What a configuration has to satisfy. -/
structure Valid (c : Config) : Prop where
  profiles_valid : ∀ p ∈ c.profiles, p.Valid
  names_nodup : (c.profiles.map (·.name)).Nodup
  default_mem : ∀ name, c.defaultProfile = some name → name ∈ c.profiles.map (·.name)

theorem validateProfiles_eq_ok_iff {names : List String} {ps : List Profile} :
    validateProfiles names ps = .ok () ↔
      (∀ p ∈ ps, p.Valid) ∧ (∀ p ∈ ps, p.name ∉ names) ∧ (ps.map (·.name)).Nodup := by
  induction ps generalizing names with
  | nil => simp [validateProfiles]
  | cons p ps ih =>
    have step : validateProfiles names (p :: ps) = .ok () ↔
        p.Valid ∧ p.name ∉ names ∧ validateProfiles (names ++ [p.name]) ps = .ok () := by
      rw [validateProfiles, ← Profile.validate_eq_ok_iff]
      cases hp : p.validate with
      | error e => simp [bind, Except.bind]
      | ok u =>
        cases u
        by_cases hn : p.name ∈ names <;>
          simp [bind, Except.bind, throw, throwThe, MonadExceptOf.throw, hn]
    rw [step, ih]
    simp only [List.forall_mem_cons, List.map_cons, List.nodup_cons, List.mem_append,
      List.mem_singleton, not_or, List.mem_map, not_exists, not_and]
    constructor
    · rintro ⟨hv, hn, hvs, hns, hd⟩
      exact ⟨⟨hv, hvs⟩, ⟨hn, fun q hq => (hns q hq).1⟩, fun q hq => (hns q hq).2, hd⟩
    · rintro ⟨⟨hv, hvs⟩, ⟨hn, hns⟩, hp, hd⟩
      exact ⟨hv, hn, hvs, fun q hq => ⟨hns q hq, hp q hq⟩, hd⟩

theorem isNone_profile?_iff {c : Config} {name : String} :
    (c.profile? name).isNone ↔ name ∉ c.profiles.map (·.name) := by
  simp only [profile?, Option.isNone_iff_eq_none, List.find?_eq_none, decide_eq_true_eq,
    List.mem_map, not_exists, not_and]

theorem validate_eq_ok_iff {c : Config} : c.validate = .ok () ↔ c.Valid := by
  have split : c.validate = .ok () ↔ validateProfiles [] c.profiles = .ok () ∧
      ∀ name, c.defaultProfile = some name → name ∈ c.profiles.map (·.name) := by
    unfold validate
    cases validateProfiles [] c.profiles with
    | error e => simp [bind, Except.bind]
    | ok u =>
      cases hd : c.defaultProfile with
      | none => simp [bind, Except.bind, pure, Except.pure]
      | some name =>
        by_cases hn : name ∈ c.profiles.map (·.name)
        · have := mt isNone_profile?_iff.1 (not_not_intro hn)
          simp_all [bind, Except.bind, pure, Except.pure]
        · have := isNone_profile?_iff.2 hn
          simp_all [bind, Except.bind, throw, throwThe, MonadExceptOf.throw]
  rw [split, validateProfiles_eq_ok_iff]
  constructor
  · rintro ⟨⟨hv, _, hd⟩, hm⟩
    exact ⟨hv, hd, hm⟩
  · rintro ⟨hv, hd, hm⟩
    exact ⟨⟨hv, by simp, hd⟩, hm⟩

/-! ## On the wire -/

def toJson (c : Config) : Json :=
  .obj [("default_profile", encode c.defaultProfile), ("settings", encode c.settings),
    ("profiles", encode c.profiles)]

/-- Reads a configuration, given how to read records of up to so many fields. -/
def read? (record? : Nat → Json → Option Record) (j : Json) : Option Config := do
  let r ← record? 3 j
  return {
    defaultProfile := ← r.optional 0 "default_profile"
    settings := ← (r.find? 1 "settings").elim (some {}) fun j =>
      (record? 5 j).bind Settings.ofRecord?
    profiles := ← (r.find? 2 "profiles").elim (some []) fun j =>
      j.items?.bind (·.mapM fun j => (record? 4 j).bind Profile.ofRecord?) }

instance : Wire Config := ⟨toJson, read? Record.ofJsonWithin?⟩

end Config

end JiraQuery
