import JiraQuery.Config.Basic
import JiraQuery.Disk
import JiraQuery.Toml.Parser
import JiraQuery.Toml.Printer

/-!
# Configuration files

A configuration that is loaded is brought into range and checked; one that is saved is checked and
then written as it is.
-/

namespace JiraQuery.Config

open Toml (Section Scalar)

/-- The configuration file within the user's directory for configurations. -/
def defaultPath : String := "jqlkit/config.toml"

/-- Reads a configuration; what is left out has its default. -/
def ofToml? (text : String) : Option Config :=
  (Toml.parse? text).bind (read? fun _ => Record.ofJson?)

def load (d : Disk) (path : String) : Except ConfigError Config := do
  let text ← (d.read? path).elim (.error .read) .ok
  let c ← (ofToml? text).elim (.error .parse) .ok
  let c := { c with settings := c.settings.normalize }
  c.validate
  return c

/-! ## Writing -/

def settingsSection (s : Settings) : Section where
  header := some "[settings]"
  pairs := [("max_issues_per_request", .whole s.maxIssuesPerRequest.toNat),
    ("server_max_results", .whole s.serverMaxResults.toNat),
    ("timeout_secs", .whole s.timeoutSecs.toNat), ("max_retries", .whole s.maxRetries.toNat),
    ("user_privacy_mode", .flag s.userPrivacyMode)]

def profileSection (p : Profile) : Section where
  header := some "[[profiles]]"
  pairs := [("name", .text p.name), ("url", .text p.url), ("email", .text p.email)] ++
    p.tokenEnv.toList.map fun v => ("token_env", .text v)

/-- The sections of a file. A list without profiles stands at the front, where pairs belong. -/
def sections (c : Config) : List Section :=
  { pairs := c.defaultProfile.toList.map (("default_profile", Scalar.text ·)) ++
      (if c.profiles.isEmpty then [("profiles", .emptyList)] else []) } ::
    settingsSection c.settings :: c.profiles.map profileSection

/-- The text of a file; whole numbers in it have 64 bits with a sign. -/
def toToml? (c : Config) : Option String :=
  if c.settings.timeoutSecs.toNat < 0x8000000000000000 then some (Toml.render c.sections) else none

/-- Saves a configuration. Directories on the way stay even if the file is not written. -/
def save (c : Config) (path : String) (d : Disk) : Except ConfigError Unit × Disk :=
  match c.validate with
  | .error e => (.error e, d)
  | .ok () => match d.makeDirectories (Disk.parentPath path) with
    | (false, d) => (.error .createDir, d)
    | (true, d) => match c.toToml? with
      | none => (.error .serialize, d)
      | some text => match d.write? path text with
        | none => (.error .write, d)
        | some d => (.ok (), d)

end JiraQuery.Config
