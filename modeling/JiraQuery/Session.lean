import JiraQuery.Handle.Lookups
import JiraQuery.Handle.Query

/-!
# Sessions

Handles and streams by name, over one link. Copies of a handle share its cache; a handle that is
opened anew has a cache of its own.
-/

namespace JiraQuery

/-- A handle within a session. -/
structure Member where
  handle : Handle
  /-- Which cache it uses. -/
  cache : Nat

structure Session where
  link : Link
  members : List (String × Member) := []
  caches : List (Nat × MetadataCache) := []
  streams : List (String × IssueStream) := []
  /-- The number of the next cache. -/
  nextCache : Nat := 0

/-- How a handle is opened. -/
inductive Opening
  | server (url : String) (auth : Option Auth)
  /-- With a profile and the value of its token variable. -/
  | profile (profile : Profile) (value : Option String)

namespace Session

/-- The handle with a name. -/
def member? (s : Session) (name : String) : Option Member :=
  s.members.lookup name

/-- Gives a name to a handle. -/
def setMember (s : Session) (name : String) (m : Member) : Session :=
  { s with members := (name, m) :: s.members.filter (·.1 ≠ name) }

def cache (s : Session) (number : Nat) : MetadataCache :=
  (s.caches.lookup number).getD {}

/-- Opens a handle with a cache of its own. -/
def openHandle (s : Session) (name : String) (opening : Opening) (settings : Settings)
    (token : Token) : Except Error Handle × Session :=
  let (result, link) := match opening with
    | .server url auth => Handle.connect url auth settings token s.link
    | .profile profile value => Handle.connectProfile profile value settings token s.link
  let s := { s with link }
  match result with
  | .error e => (.error e, s)
  | .ok handle =>
    (.ok handle, { s.setMember name { handle, cache := s.nextCache } with nextCache := s.nextCache + 1 })

/-- Gives a second name to a handle. -/
def copyHandle (s : Session) (m : Member) (name : String) : Session :=
  s.setMember name m

/-- Makes a call with a certain cache. -/
def call {α : Type} (s : Session) (number : Nat) (r : Remote α) : Except Error α × Session :=
  let (result, site) := r.run { cache := s.cache number, link := s.link }
  (result, { s with
    link := site.link
    caches := (number, site.cache) :: s.caches.filter (·.1 ≠ number) })

def setStream (s : Session) (name : String) (stream : IssueStream) : Session :=
  { s with streams := (name, stream) :: s.streams.filter (·.1 ≠ name) }

/-- Asks a stream for a number of items, also beyond its end. -/
def poll (s : Session) (name : String) (stream : IssueStream) :
    Nat → List (Option (Except ApiError Issue)) × Session
  | 0 => ([], s.setStream name stream)
  | n + 1 =>
    let ((item, stream), link) := stream.next s.link
    let (rest, s) := poll { s with link } name stream n
    (item :: rest, s)

end Session

end JiraQuery
