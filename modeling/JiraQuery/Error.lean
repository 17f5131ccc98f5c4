import JiraQuery.Config.Error
import JiraQuery.Net.Error
import JiraQuery.Query.Error

/-!
# Errors

Everything that can go wrong, from the connection to the number of issues found.
-/

namespace JiraQuery

inductive Error
  | api (error : ApiError)
  | translation (error : TranslationError)
  | config (error : ConfigError)
  /-- Something that was looked up by name or id is not there. -/
  | notFound (message : String)
  /-- An issue was expected, and there is none. -/
  | empty
  /-- One issue was expected, and there are more. -/
  | moreThanOne

namespace Error

/-- The message for developers, where it is not left to the part that failed. -/
def message? : Error → Option String
  | api e => e.message?
  | translation e => some e.message
  | config e => e.message?
  | notFound message => some message
  | empty => some "Sequence contains no elements"
  | moreThanOne => some "Sequence contains more than one element"

/-- The message for people, where there is one. -/
def userMessage? : Error → Option String
  | api e => some e.userMessage
  | translation e => some ("Query cannot be translated to JQL: " ++ e.message)
  | config e => e.userMessage?
  | e => e.message?

def isNotFound : Error → Bool
  | notFound _ => true
  | api (.notFound _) => true
  | _ => false

def isCancelled : Error → Bool
  | api .cancelled => true
  | _ => false

end Error

end JiraQuery
