import JiraQuery.Net.Status

/-!
# Why a request fails

Each way in which a request to the server ends without an answer, and whether a second attempt makes
sense. Main statement: `isRetryable_ofStatus`, which gives the codes after which it does.
-/

namespace JiraQuery

inductive ApiError
  | unauthorized
  | forbidden
  /-- The resource that is not there. -/
  | notFound (what : String)
  | validation (message : String)
  | rateLimited
  | serverError (message : String)
  /-- The connection failed. -/
  | network
  | invalidUrl (url : String)
  /-- The answer is not what was asked for. -/
  | invalidResponse
  /-- The request has no form on the wire. -/
  | encode
  | conflict (message : String)
  | cancelled
  /-- A sum does not fit its word. It is not handed on as the others are: a program that checks its sums
  stops there. -/
  | overflow
  deriving DecidableEq, Repr

namespace ApiError

/-- The message for developers, where it is not left to the part that failed. -/
def message? : ApiError → Option String
  | unauthorized => some "Authentication failed: check your email and API token"
  | forbidden => some "Permission denied: you don't have access to this resource"
  | notFound what => some ("Resource not found: " ++ what)
  | validation message => some message
  | rateLimited => some "Rate limited: please wait before retrying"
  | serverError message => some ("JIRA server error: " ++ message)
  | network => none
  | invalidUrl url => some ("Invalid URL: " ++ url)
  | invalidResponse => none
  | encode => none
  | conflict message => some ("Conflict: " ++ message)
  | cancelled => some "Operation cancelled"
  | overflow => some "attempt to add with overflow"

/-- The message for people. -/
def userMessage : ApiError → String
  | unauthorized => "Authentication failed. Please check your email and API token."
  | forbidden => "Access denied. You don't have permission to access this resource."
  | notFound what => "'" ++ what ++ "' was not found."
  | validation message => "JIRA rejected the request: " ++ message
  | rateLimited => "Too many requests. Please wait a moment and try again."
  | serverError _ => "JIRA server error. Please try again later."
  | network => "Connection failed. Please check your internet connection."
  | invalidUrl _ => "Invalid JIRA URL in configuration."
  | invalidResponse => "Unexpected response from JIRA. Please try again."
  | encode => "Could not encode the request."
  | conflict _ => "The entity was modified by someone else. Please refresh and try again."
  | cancelled => "The operation was cancelled."
  | overflow => "attempt to add with overflow"

/-- The error for a response that is no success; `context` says what it is about. -/
def ofStatus (code : Nat) (context : String) : ApiError :=
  match code with
  | 400 => validation context
  | 401 => unauthorized
  | 403 => forbidden
  | 404 => notFound context
  | 409 => conflict context
  | 429 => rateLimited
  | _ =>
    if 500 ≤ code ∧ code ≤ 599 then serverError ("HTTP " ++ statusText code ++ ": " ++ context)
    else serverError ("Unexpected HTTP " ++ statusText code ++ ": " ++ context)

/-- Whether the failure may pass. -/
def isRetryable : ApiError → Bool
  | rateLimited | serverError _ | network => true
  | _ => false

/-- A code without a meaning of its own counts as a failure of the server. -/
theorem isRetryable_ofStatus (code : Nat) (context : String) :
    (ofStatus code context).isRetryable = !([400, 401, 403, 404, 409].contains code) := by
  unfold ofStatus
  split <;> try rfl
  have : [400, 401, 403, 404, 409].contains code = false := by simp_all
  rw [this]
  split <;> rfl

end ApiError

end JiraQuery
