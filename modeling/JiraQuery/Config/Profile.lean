import JiraQuery.Config.Error
import JiraQuery.Json.Wire
import JiraQuery.Text.Blank

/-!
# Profiles

A profile names a server and a user of it. The token is not part of it: it is read from an environment
variable. Main statement: `validate_eq_ok_iff`, which says what a valid profile is.
-/

namespace JiraQuery

structure Profile where
  name : String
  url : String
  email : String
  /-- The environment variable with the token. -/
  tokenEnv : Option String := none
  deriving DecidableEq, Repr

namespace Profile

/-- The environment variable with the token of a profile that names none. -/
def defaultTokenEnv : String := "JIRA_API_TOKEN"

def tokenEnvVar (p : Profile) : String :=
  p.tokenEnv.getD defaultTokenEnv

/-- Whether a text starts like a web address. -/
def hasScheme (url : String) : Bool :=
  "https://".toList.isPrefixOf url.toList || "http://".toList.isPrefixOf url.toList

/-- Which rule a profile breaks first. -/
def fault? (p : Profile) : Option String :=
  if p.name.isEmpty then some "profile name cannot be empty"
  else if p.name.toList.any Text.isBlank then
    some ("profile name '" ++ p.name ++ "' cannot contain whitespace")
  else if p.url.isEmpty then some ("profile '" ++ p.name ++ "': URL cannot be empty")
  else if !hasScheme p.url then
    some ("profile '" ++ p.name ++ "': URL must start with http:// or https://")
  else if p.email.isEmpty then some ("profile '" ++ p.name ++ "': email cannot be empty")
  else if !p.email.toList.contains '@' then
    some ("profile '" ++ p.name ++ "': '" ++ p.email ++
      "' does not appear to be a valid email address")
  else none

def validate (p : Profile) : Except ConfigError Unit :=
  match p.fault? with
  | some reason => .error (.validation reason)
  | none => .ok ()

/-- The token, given the value of its environment variable. -/
def token (p : Profile) (value : Option String) : Except ConfigError String :=
  match value with
  | some token => .ok token
  | none => .error (.missingToken p.tokenEnvVar)

/-- What a profile has to satisfy. -/
structure Valid (p : Profile) : Prop where
  name_ne : p.name ≠ ""
  name_solid : ∀ c ∈ p.name.toList, Text.isBlank c = false
  url_scheme : hasScheme p.url
  email_at : '@' ∈ p.email.toList

theorem validate_eq_ok_iff {p : Profile} : p.validate = .ok () ↔ p.Valid := by
  have hurl : hasScheme p.url → p.url ≠ "" := by
    intro h he; rw [he] at h; exact absurd h (by decide)
  have hemail : '@' ∈ p.email.toList → p.email ≠ "" := by
    intro h he; simp [he] at h
  have hfault : p.validate = .ok () ↔ p.fault? = none := by
    unfold validate; cases p.fault? <;> simp
  rw [hfault]
  unfold fault?
  constructor
  · intro h
    (repeat' split at h) <;> simp_all [Profile.Valid.mk]
  · rintro ⟨h1, h2, h3, h4⟩
    simp_all

/-! ## On the wire -/

/-- A variable that is not set is left out. -/
def toJson (p : Profile) : Json :=
  .obj (("name", encode p.name) :: ("url", encode p.url) :: ("email", encode p.email) ::
    p.tokenEnv.toList.map fun v => ("token_env", encode (some v)))

def ofRecord? (r : Record) : Option Profile := do
  return {
    name := ← r.required 0 "name"
    url := ← r.required 1 "url"
    email := ← r.required 2 "email"
    tokenEnv := ← r.optional 3 "token_env" }

instance : Wire Profile := ⟨toJson, fun j => (Record.ofJsonWithin? 4 j).bind ofRecord?⟩

instance : LawfulWire Profile where
  decode_encode p := by
    show (Record.ofJsonWithin? 4 p.toJson).bind ofRecord? = some p
    obtain ⟨_, _, _, tokenEnv⟩ := p
    cases tokenEnv <;> simp [toJson, ofRecord?, Members.get?_cons]
  encode_ne_null _ := rfl

end Profile

end JiraQuery
