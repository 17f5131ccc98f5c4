/-!
# Why a configuration is refused
-/

namespace JiraQuery

inductive ConfigError
  | noConfigDir
  | createDir
  | read
  | write
  | parse
  | serialize
  /-- A value breaks a rule, which the reason states. -/
  | validation (reason : String)
  | profileNotFound (name : String)
  /-- The environment variable for the token is not set. -/
  | missingToken (name : String)
  deriving DecidableEq, Repr

namespace ConfigError

/-- The message, where it is not left to the part that failed. -/
def message? : ConfigError → Option String
  | noConfigDir => some "could not determine configuration directory"
  | createDir => none
  | read => none
  | write => none
  | parse => none
  | serialize => none
  | validation reason => some ("invalid configuration: " ++ reason)
  | profileNotFound name => some ("profile '" ++ name ++ "' not found")
  | missingToken name => some ("API token not found in environment variable " ++ name)

/-- The message for people, where there is one. -/
def userMessage? : ConfigError → Option String
  | noConfigDir =>
    some "Could not find configuration directory. Please check your system settings."
  | read =>
    some "Could not read configuration file. Please check the file exists and is readable."
  | parse => some "Configuration file is invalid. Please check the file format."
  | missingToken name => some ("Set the " ++ name ++ " environment variable to your API token.")
  | e => e.message?.map ("Configuration error: " ++ ·)

end ConfigError

end JiraQuery
