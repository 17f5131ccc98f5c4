import JiraQuery.Handle.Basic
import JiraQuery.Metadata.CreateMeta
import JiraQuery.Net.Path

/-!
# Collections of metadata

The collections that a handle fetches once and then has: each has its slot in the cache, those of a
project one slot per scope.
-/

namespace JiraQuery

/-- A place in the cache that holds a store. -/
structure Slot (α : Type) where
  read : MetadataCache → Store α
  write : MetadataCache → Store α → MetadataCache

namespace Slot

def customFields : Slot CustomField where
  read := MetadataCache.customFields
  write c s := { c with customFields := s }

def projectFields (scope : FieldScope) : Slot CustomField where
  read c := c.projectFields.get scope
  write c s := { c with projectFields := c.projectFields.set scope s }

def issueTypes : Slot IssueType where
  read := MetadataCache.issueTypes
  write c s := { c with issueTypes := s }

def projectIssueTypes (project : String) : Slot IssueType where
  read c := c.projectIssueTypes.get project
  write c s := { c with projectIssueTypes := c.projectIssueTypes.set project s }

def priorities : Slot Priority where
  read := MetadataCache.priorities
  write c s := { c with priorities := s }

def resolutions : Slot Resolution where
  read := MetadataCache.resolutions
  write c s := { c with resolutions := s }

def statuses : Slot Status where
  read := MetadataCache.statuses
  write c s := { c with statuses := s }

def projects : Slot Project where
  read := MetadataCache.projects
  write c s := { c with projects := s }

def components (project : String) : Slot Component where
  read c := c.components.get project
  write c s := { c with components := c.components.set project s }

def versions (project : String) : Slot Version where
  read c := c.versions.get project
  write c s := { c with versions := c.versions.set project s }

variable {α : Type} [Entity α]

/-- The collection of a slot, which is fetched unless the slot has all of it. A slot that did not
exist comes into being even if the fetch fails. -/
def collection (slot : Slot α) (fetch : Remote (List α)) : Remote (List α) :=
  ExceptT.mk do
    let (result, store) ← (slot.read (← get).cache).getOrPopulate fetch.run
    modify fun s => { s with cache := slot.write s.cache store }
    return result

/-- Adds an entity to a slot, unless its id is there. -/
def add (slot : Slot α) (x : α) : Remote Unit :=
  modify fun s => { s with cache := slot.write s.cache ((slot.read s.cache).tryAdd x).2 }

end Slot

namespace CreateMeta

/-- The path that tells the fields for new issues of a scope. -/
def path (scope : FieldScope) : String :=
  Path.withParameters "issue/createmeta" <|
    [("expand", "projects.issuetypes.fields"), ("projectKeys", scope.projectKey)] ++
    (scope.issueTypeId.toList.map ("issuetypeIds", ·)) ++
    (scope.issueTypeName.toList.map ("issuetypeNames", ·))

end CreateMeta

namespace Handle

variable (h : Handle)

/-- A project key for which there is no project. -/
def noProject (key : String) : String :=
  "Project with key '" ++ key ++ "' was not found on the Jira server."

/-- The custom fields of the server. -/
def customFields : Remote (List CustomField) :=
  Slot.customFields.collection do
    return (← h.fetch (α := List CustomField) "field").filter (·.custom)

/-- The custom fields that new issues of a scope may have. -/
def customFieldsFor (scope : FieldScope) : Remote (List CustomField) :=
  (Slot.projectFields scope).collection do
    match (← h.fetchWith CreateMeta.ofJson? (CreateMeta.path scope)).projects with
    | [] => throw (.notFound (noProject scope.projectKey))
    | p :: _ => return p.customFields

def issueTypes : Remote (List IssueType) :=
  Slot.issueTypes.collection (h.fetch "issuetype")

def issueTypesForProject (project : String) : Remote (List IssueType) :=
  (Slot.projectIssueTypes project).collection
    (h.fetch (Path.ofSegments ["project", project, "statuses"]))

def priorities : Remote (List Priority) :=
  Slot.priorities.collection (h.fetch "priority")

def resolutions : Remote (List Resolution) :=
  Slot.resolutions.collection (h.fetch "resolution")

def statuses : Remote (List Status) :=
  Slot.statuses.collection (h.fetch "status")

def projects : Remote (List Project) :=
  Slot.projects.collection (h.fetch "project?expand=lead,url")

/-- The components of a project, which learn the key of their project. -/
def components (project : String) : Remote (List Component) :=
  (Slot.components project).collection do
    let found ← h.fetch (α := List Component) (Path.ofSegments ["project", project, "components"])
    return found.map ({ · with project := some project })

def versions (project : String) : Remote (List Version) :=
  (Slot.versions project).collection (h.fetch (Path.ofSegments ["project", project, "versions"]))

/-- The user of the handle, who is asked for once. -/
def currentUser : Remote User := do
  match (← get).cache.currentUser with
  | some user => return user
  | none =>
    let user : User ← h.fetch "myself"
    modify fun s => { s with cache := { s.cache with currentUser := some user } }
    return user

end Handle

end JiraQuery
