import JiraQuery.Config.File
import JiraQuery.Proofs.Json.Members
import JiraQuery.Proofs.Toml.Tables

/-!
# Files of configurations

The text that is written for a configuration is read as the same configuration: what was left out has the
default that it had. Main statement: `ofToml?_render`.
-/

namespace JiraQuery.Config

open Toml (Layout)

variable {c : Config}

/-! ## Files -/

/-- The parts of a file: the default profile, the settings and the profiles. -/
def layout (c : Config) : Layout where
  front := c.defaultProfile.toList.map (("default_profile", Toml.Scalar.text ·)) ++
    (if c.profiles.isEmpty then [("profiles", .emptyList)] else [])
  tableKey := "settings"
  table := (settingsSection c.settings).pairs
  itemsKey := "profiles"
  items := c.profiles.map fun p => (profileSection p).pairs

theorem sections_eq (c : Config) : c.sections = c.layout.sections := by
  have hprofiles : c.profiles.map profileSection = c.layout.items.map fun pairs =>
      { header := some (Toml.headerLine "profiles" true), pairs } := by
    simp only [layout, List.map_map]
    rfl
  unfold sections
  rw [hprofiles]
  rfl

/-- Whether every number of a configuration has 64 bits with a sign. -/
def IsWritable (c : Config) : Prop :=
  c.settings.timeoutSecs.toNat < 0x8000000000000000

theorem fits_ofUInt32 (n : UInt32) : (Toml.Scalar.whole n.toNat).Fits := by
  have hn := n.toNat_lt
  constructor
  · omega
  · omega

theorem front_keys (c : Config) : c.layout.front.map (·.1) =
    (if c.defaultProfile.isSome then ["default_profile"] else []) ++
      if c.profiles.isEmpty then ["profiles"] else [] := by
  unfold layout
  cases c.defaultProfile with
  | none => cases c.profiles with
    | nil => rfl
    | cons p ps => rfl
  | some name => cases c.profiles with
    | nil => rfl
    | cons p ps => rfl

theorem profile_keys (q : Profile) : (profileSection q).pairs.map (·.1) =
    ["name", "url", "email"] ++ if q.tokenEnv.isSome then ["token_env"] else [] := by
  unfold profileSection
  cases q.tokenEnv with
  | none => rfl
  | some value => rfl

theorem plain_profile (q : Profile) : Layout.ArePlain ((profileSection q).pairs.map (·.1)) := by
  rw [profile_keys]
  generalize q.tokenEnv.isSome = a
  revert a
  decide

theorem front_fits (c : Config) : ∀ p ∈ c.layout.front, p.2.Fits := by
  unfold layout
  intro p hp
  rcases List.mem_append.1 hp with hdefault | hempty
  · obtain ⟨name, -, rfl⟩ := List.mem_map.1 hdefault
    trivial
  · by_cases hprofiles : c.profiles.isEmpty = true
    · rw [if_pos hprofiles] at hempty
      obtain rfl := List.mem_singleton.1 hempty
      trivial
    · rw [if_neg hprofiles] at hempty
      cases hempty

theorem settings_fits (h : c.IsWritable) : ∀ p ∈ (settingsSection c.settings).pairs, p.2.Fits := by
  have htimeout : (Toml.Scalar.whole c.settings.timeoutSecs.toNat).Fits := by
    unfold IsWritable at h
    constructor
    · omega
    · omega
  simp only [settingsSection, List.forall_mem_cons, List.not_mem_nil, false_implies, implies_true, and_true]
  exact ⟨fits_ofUInt32 _, fits_ofUInt32 _, htimeout, fits_ofUInt32 _, trivial⟩

theorem profile_fits (q : Profile) : ∀ p ∈ (profileSection q).pairs, p.2.Fits := by
  unfold profileSection
  cases q.tokenEnv with
  | none => simp [Toml.Scalar.Fits]
  | some value => simp [Toml.Scalar.Fits]

theorem forall_mem_parts {P : List (String × Toml.Scalar) → Prop} (hfront : P c.layout.front)
    (hsettings : P (settingsSection c.settings).pairs) (hprofiles : ∀ q, P (profileSection q).pairs) :
    ∀ pairs ∈ c.layout.parts, P pairs := by
  unfold Layout.parts
  intro pairs hpairs
  rcases List.mem_cons.1 hpairs with rfl | hpairs
  · exact hfront
  · rcases List.mem_cons.1 hpairs with rfl | hpairs
    · exact hsettings
    · obtain ⟨q, -, rfl⟩ := List.mem_map.1 hpairs
      exact hprofiles q

theorem wellFormed_layout (h : c.IsWritable) : c.layout.WellFormed where
  tableKey_bare := by
    show Toml.isBareKey "settings" = true
    decide
  itemsKey_bare := by
    show Toml.isBareKey "profiles" = true
    decide
  keys := by
    apply forall_mem_parts
    · rw [front_keys]
      generalize c.defaultProfile.isSome = a
      generalize c.profiles.isEmpty = b
      revert a b
      decide
    · show Layout.ArePlain ["max_issues_per_request", "server_max_results", "timeout_secs", "max_retries",
        "user_privacy_mode"]
      decide
    · exact plain_profile
  fits := forall_mem_parts (front_fits c) (settings_fits h) profile_fits
  tableKey_new := by
    rw [front_keys]
    show "settings" ∉ _
    generalize c.defaultProfile.isSome = a
    generalize c.profiles.isEmpty = b
    revert a b
    decide
  itemsKey_new := by
    intro hne
    have hprofiles : c.profiles.isEmpty = false := by
      cases hps : c.profiles with
      | nil => exact absurd (by simp [layout, hps]) hne
      | cons p ps => rfl
    rw [front_keys, hprofiles]
    show "profiles" ∉ _ ∧ "profiles" ≠ "settings"
    generalize c.defaultProfile.isSome = a
    revert a
    decide

/-! ## Reading -/

/-- Members are found among all members as in the order in which they are written. -/
theorem get?_members {pairs : List (String × Toml.Scalar)} (hkeys : (pairs.map (·.1)).Nodup) (name : String) :
    (Members.ofList (Layout.members pairs)).get? name = Members.get? (Layout.members pairs) name := by
  apply Members.get?_ofList
  simpa [Layout.members, Function.comp_def] using hkeys

theorem ofRecord?_settings (s : Settings) :
    Settings.ofRecord? (.named (Members.ofList (Layout.members (settingsSection s).pairs))) = some s := by
  have hkeys : ((settingsSection s).pairs.map (·.1)).Nodup := by simp [settingsSection]
  have hsame : Settings.ofRecord? (.named (Members.ofList (Layout.members (settingsSection s).pairs))) =
      Settings.ofRecord? (.named (Layout.members (settingsSection s).pairs)) := by
    simp only [Settings.ofRecord?, Record.withDefault_named, get?_members hkeys]
  rw [hsame]
  exact LawfulWire.decode_encode s

theorem ofRecord?_profile (q : Profile) :
    Profile.ofRecord? (.named (Members.ofList (Layout.members (profileSection q).pairs))) = some q := by
  have hkeys := (plain_profile q).2
  have hsame : Profile.ofRecord? (.named (Members.ofList (Layout.members (profileSection q).pairs))) =
      Profile.ofRecord? (.named (Layout.members (profileSection q).pairs)) := by
    simp only [Profile.ofRecord?, Record.required_named, Record.optional_named, get?_members hkeys]
  have hmembers : Json.obj (Layout.members (profileSection q).pairs) = encode q := by
    obtain ⟨name, url, email, tokenEnv⟩ := q
    cases tokenEnv with
    | none => rfl
    | some value => rfl
  have hread : decode? (Json.obj (Layout.members (profileSection q).pairs)) = some q := by
    rw [hmembers, LawfulWire.decode_encode]
  rw [hsame]
  exact hread

theorem mapM_profiles (qs : List Profile) :
    (qs.map fun q => Json.ofMembers (Layout.members (profileSection q).pairs)).mapM
      (fun j => (Record.ofJson? j).bind Profile.ofRecord?) = some qs := by
  induction qs with
  | nil => rfl
  | cons q qs ih =>
    have hq : (Record.ofJson? (Json.ofMembers (Layout.members (profileSection q).pairs))).bind
        Profile.ofRecord? = some q := ofRecord?_profile q
    rw [List.map_cons, List.mapM_cons, hq, ih]
    rfl

theorem documentMembers_eq (c : Config) : c.layout.documentMembers =
    c.defaultProfile.toList.map (fun name => ("default_profile", Json.str name)) ++
      (if c.profiles.isEmpty then [("profiles", .arr [])] else []) ++
      [("settings", .ofMembers (Layout.members (settingsSection c.settings).pairs))] ++
      if c.profiles.isEmpty then []
      else [("profiles", .arr (c.profiles.map fun q => .ofMembers (Layout.members (profileSection q).pairs)))] := by
  unfold Layout.documentMembers layout Layout.members
  cases c.defaultProfile with
  | none => cases c.profiles with
    | nil => rfl
    | cons p ps => simp [Function.comp_def]
  | some name => cases c.profiles with
    | nil => rfl
    | cons p ps => simp [Function.comp_def, Toml.Scalar.toJson]

theorem read?_document (h : c.IsWritable) : read? (fun _ => Record.ofJson?) c.layout.document = some c := by
  have hget : ∀ name, (Members.ofList c.layout.documentMembers).get? name =
      Members.get? c.layout.documentMembers name :=
    Members.get?_ofList (Layout.nodup_documentMembers (wellFormed_layout h))
  have hdefault : Members.get? c.layout.documentMembers "default_profile" = c.defaultProfile.map Json.str := by
    rw [documentMembers_eq]
    cases c.defaultProfile <;> cases c.profiles <;> simp [Members.get?_cons]
  have hsettings : Members.get? c.layout.documentMembers "settings" =
      some (.ofMembers (Layout.members (settingsSection c.settings).pairs)) := by
    rw [documentMembers_eq]
    cases c.defaultProfile <;> cases c.profiles <;> simp [Members.get?_cons]
  have hprofiles : Members.get? c.layout.documentMembers "profiles" =
      some (.arr (c.profiles.map fun q => .ofMembers (Layout.members (profileSection q).pairs))) := by
    rw [documentMembers_eq]
    cases c.defaultProfile <;> cases c.profiles <;> simp [Members.get?_cons]
  have hreadDefault : (Record.named (Members.ofList c.layout.documentMembers)).optional 0 "default_profile" =
      some c.defaultProfile := by
    rw [Record.optional_named, hget, hdefault]
    cases c.defaultProfile with
    | none => rfl
    | some name => rfl
  have hreadSettings : ((Members.ofList c.layout.documentMembers).get? "settings").elim (some {})
      (fun j => (Record.ofJson? j).bind Settings.ofRecord?) = some c.settings := by
    rw [hget, hsettings]
    exact ofRecord?_settings c.settings
  have hreadProfiles : ((Members.ofList c.layout.documentMembers).get? "profiles").elim (some [])
      (fun j => j.items?.bind (·.mapM fun j => (Record.ofJson? j).bind Profile.ofRecord?)) = some c.profiles := by
    rw [hget, hprofiles]
    exact mapM_profiles c.profiles
  have hrecord : Record.ofJson? c.layout.document = some (.named (Members.ofList c.layout.documentMembers)) := rfl
  unfold read?
  simp only [hrecord, Option.bind_eq_bind, Option.bind_some, hreadDefault, Record.find?, hreadSettings,
    hreadProfiles]
  rfl

/-- A configuration is read back from its file. -/
theorem ofToml?_render (h : c.IsWritable) : ofToml? (Toml.render c.sections) = some c := by
  unfold ofToml?
  rw [sections_eq, Toml.parse?_render (wellFormed_layout h), Option.bind_some]
  exact read?_document h

example : Toml.render ({ settings := { timeoutSecs := 5 } } : Config).sections =
    "profiles = []\n\n[settings]\nmax_issues_per_request = 100\nserver_max_results = 100\ntimeout_secs = 5\n" ++
      "max_retries = 3\nuser_privacy_mode = true\n" := by
  decide +kernel

end JiraQuery.Config
