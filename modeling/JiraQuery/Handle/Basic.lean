import JiraQuery.Cache.Metadata
import JiraQuery.Config.Profile
import JiraQuery.Error
import JiraQuery.Net.Client
import JiraQuery.Search.Stream

/-!
# Handles

A handle is what a program holds of a server: a client, settings and a token. What has been learnt
about the server is the `Site`, which copies of a handle share.
-/

namespace JiraQuery

structure Handle where
  client : Client
  settings : Settings
  /-- Cancels the calls made through the handle. -/
  token : Token

/-- What is known of a server, and the link to it. -/
structure Site where
  cache : MetadataCache := {}
  link : Link

/-- A call to a server. -/
abbrev Remote := ExceptT Error (StateM Site)

namespace Remote

/-- A call that only needs the link. -/
def viaLink {α : Type} (call : StateM Link (Except ApiError α)) : Remote α :=
  fun s => let (r, link) := call s.link; (r.mapError .api, { s with link })

/-- Passes through, or states the error of something that was looked up and is not there. -/
def notFoundAs {α : Type} (call : Remote α) (message : String) : Remote α :=
  tryCatch call fun e => throw (if e.isNotFound then .notFound message else e)

end Remote

namespace Handle

/-- A handle for a server; its settings are normalized. -/
def connect (url : String) (auth : Option Auth) (settings : Settings) (token : Token) (l : Link) :
    Except Error Handle × Link :=
  let settings := settings.normalize
  match Client.create url auth settings with
  | .error e => (.error (.api e), l)
  | .ok client =>
    let l := if ServerUrl.isExposed client.baseUrl then l.tell (.exposedServer client.baseUrl) else l
    (.ok { client, settings, token }, l.tell (.connected client.baseUrl settings.pageSize))

/-- A handle for the server of a profile, whose token variable has the given value. -/
def connectProfile (profile : Profile) (value : Option String) (settings : Settings) (token : Token)
    (l : Link) : Except Error Handle × Link :=
  match profile.validate, profile.token value with
  | .error e, _ | .ok _, .error e => (.error (.config e), l)
  | .ok _, .ok secret => connect profile.url (some (.basic profile.email secret)) settings token l

/-- Changes the page size of searches, within the limits of the server. -/
def setPageSize (h : Handle) (n : UInt32) : Handle :=
  { h with settings := h.settings.withMaxIssuesPerRequest n }

/-- The value that the server has at a path of its interface, given how to read its document. -/
def fetchWith {α : Type} (h : Handle) (read? : Json → Option α) (path : String) : Remote α :=
  .viaLink (h.client.execute h.token "GET" ("rest/api/2/" ++ path) none read?)

def fetch {α : Type} [Wire α] (h : Handle) : String → Remote α :=
  h.fetchWith decode?

/-- The issues that match a query, as a stream. -/
def streamJql (h : Handle) (jql : String) (options : SearchOptions) : IssueStream where
  pager := .start h.client h.token h.settings.pageSize jql options

/-- The issues that match a query. -/
def issuesFromJql (h : Handle) (jql : String) (options : SearchOptions) : Remote (List Issue) :=
  .viaLink (h.streamJql jql options).collect

/-- The number of issues that match a query. -/
def total (h : Handle) (jql : String) : Remote UInt32 :=
  .viaLink (searchTotal h.client h.token jql)

end Handle

end JiraQuery
