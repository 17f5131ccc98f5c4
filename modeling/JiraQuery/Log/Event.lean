import JiraQuery.Text.Escaped
import JiraQuery.Text.Joined

/-!
# Log events

What the library tells about its work: a level, the part that tells it, a message and named values.
-/

namespace JiraQuery

/-- How urgent an event is. -/
inductive Level
  | error | warn | info | debug | trace
  deriving DecidableEq, Repr

namespace Level

/-- Urgent events have small ranks. -/
def rank : Level → Nat
  | error => 0
  | warn => 1
  | info => 2
  | debug => 3
  | trace => 4

def label : Level → String
  | error => "ERROR"
  | warn => "WARN"
  | info => "INFO"
  | debug => "DEBUG"
  | trace => "TRACE"

def all : List Level := [.error, .warn, .info, .debug, .trace]

theorem mem_all (l : Level) : l ∈ all := by
  cases l <;> decide

end Level

structure Event where
  level : Level
  /-- The part of the library that the event is about. -/
  target : String
  message : String
  /-- Named values, in the form in which they are shown. -/
  fields : List (String × String) := []
  deriving DecidableEq, Repr

namespace Event

/-- The message, and after it the values. -/
def text (e : Event) : String :=
  Text.joined " " (e.message :: e.fields.map fun f => f.1 ++ "=" ++ f.2)

/-- Whether a value has a name; the message goes by the name `message`. -/
def hasField (e : Event) (name : String) : Bool :=
  name = "message" || e.fields.any (·.1 = name)

/-- A server that others can listen to. -/
def exposedServer (url : String) : Event where
  level := .warn
  target := "jqlkit::api::client"
  message := "URL does not use HTTPS: " ++ url ++ ". This is insecure for production use."

/-- A handle was made. -/
def connected (url : String) (pageSize : UInt32) : Event where
  level := .info
  target := "jqlkit::jira"
  message := "Created JIRA client"
  fields := [("url", Text.Escaped.quoted url), ("page_size", toString pageSize)]

/-- A search ended before its announced end. -/
def shortSearch (startAt total : UInt32) : Event where
  level := .warn
  target := "jqlkit::search"
  message := "Search returned an empty page before the reported total"
  fields := [("start_at", toString startAt), ("total", toString total)]

end Event

end JiraQuery
