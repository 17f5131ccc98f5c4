import JiraQuery.Json.Basic
import JiraQuery.Net.Auth

/-!
# Requests and what becomes of them
-/

namespace JiraQuery

structure Request where
  method : String
  url : String
  /-- The value of the `Authorization` header. -/
  authorization : Option String := none
  body : Option Json := none

namespace Request

/-- The form of documents, which every request accepts and every body has. -/
def mediaType : String := "application/json"

/-- Whether the headers have a form on the wire. -/
def isSendable (r : Request) : Bool :=
  r.authorization.all Auth.isHeaderText

end Request

/-- Cancels work in progress; many calls may share one token. -/
inductive Token
  | named (name : String)
  | numbered (number : Nat)
  deriving DecidableEq, Repr

/-- How an attempt to send a request ends. -/
inductive Outcome
  /-- A response; without a body if the connection broke while the body was read. -/
  | answered (status : Nat) (body : Option String)
  /-- The connection closed without a response. -/
  | dropped
  /-- A token was cancelled while the request was in flight. -/
  | interrupted (token : Token)
  deriving DecidableEq, Repr

/-- What a server does with a request. -/
structure Reply where
  outcome : Outcome
  /-- A token that is cancelled while the caller waits for another attempt. -/
  cancelOnRetry : Option Token := none
  deriving DecidableEq, Repr

/-- A server answers a request, knowing how many came before it. -/
abbrev Server := Nat → Request → Reply

end JiraQuery
