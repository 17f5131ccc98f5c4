import JiraQuery.Handle.Collections
import JiraQuery.Metadata.Saved

/-!
# Looking things up

Single entities by id, key or name. Statuses, projects and custom fields are kept in the cache and
found there before the server is asked.
-/

namespace JiraQuery.Handle

variable (h : Handle)

/-- The status with an id or a name. A complete cache is not asked about again. -/
def status (key : String) : Remote Status := do
  let missing := "Could not find status '" ++ key ++ "'"
  let store := (← get).cache.statuses
  match store.getByIdOrName? key with
  | some status => return status
  | none =>
    if store.complete then throw (.notFound missing)
    let status ← (h.fetch (α := Status) (Path.ofSegments ["status", key])).notFoundAs missing
    Slot.statuses.add status
    return status

/-- The project with a key. -/
def project (key : String) : Remote Project := do
  match (← get).cache.projects.getById? key with
  | some project => return project
  | none =>
    let path := Path.ofSegments ["project", key] ++ "?expand=lead,url"
    let project ← (h.fetch (α := Project) path).notFoundAs (noProject key)
    Slot.projects.add project
    return project

/-- The custom field with an id or a name. -/
def customField (key : String) : Remote CustomField := do
  let missing := "Could not find custom field with id or name '" ++ key ++ "' on the Jira server"
  discard h.customFields
  match (← get).cache.customFields.getByIdOrName? key with
  | some field => return field
  | none => throw (.notFound missing)

/-- The parameter that names a user: in privacy mode users are known by their accounts. -/
def userParameter : String :=
  if h.settings.userPrivacyMode then "accountId" else "username"

def user (id : String) : Remote User :=
  h.fetch (Path.withParameters "user" [(h.userParameter, id)])

def issue (key : String) : Remote Issue :=
  h.fetch (Path.ofSegments ["issue", key])

/-! ## Saved filters -/

/-- The filters that the user has marked. -/
def favouriteFilters : Remote (List Filter) :=
  h.fetch "filter/favourite"

def filter (id : String) : Remote Filter :=
  (h.fetch (Path.ofSegments ["filter", id])).notFoundAs
    ("Could not find filter with id '" ++ id ++ "'")

def issuesFromFilter (id : String) (options : SearchOptions) : Remote (List Issue) := do
  h.issuesFromJql (← h.filter id).jql options

/-- The issues of the first favourite filter with a name, ignoring case. -/
def issuesFromFavourite (name : String) (options : SearchOptions) : Remote (List Issue) := do
  match (← h.favouriteFilters).find? (Text.sameName ·.name name) with
  | some filter => h.issuesFromJql filter.jql options
  | none => throw (.notFound ("Could not find favourite filter named '" ++ name ++ "'"))

/-! ## Screens -/

/-- The parameter for a project, unless its key is missing or blank. -/
def projectParameter (project : Option String) : List (String × String) :=
  ((project.map Text.trim).filter (!·.isEmpty)).toList.map ("projectKey", ·)

/-- The path of the fields on a tab of a screen. -/
def screenTabFieldsPath (screen tab : String) (project : Option String) : String :=
  Path.withParameters (Path.ofSegments ["screens", screen, "tabs", tab, "fields"])
    (projectParameter project)

/-- The fields that can be added to a screen. -/
def screenAvailableFields (screen : String) : Remote (List ScreenField) :=
  h.fetch (Path.ofSegments ["screens", screen, "availableFields"])

/-- The tabs of a screen, as seen from a project if one is given. -/
def screenTabs (screen : String) (project : Option String) : Remote (List ScreenTab) :=
  h.fetch (Path.withParameters (Path.ofSegments ["screens", screen, "tabs"])
    (projectParameter project))

/-- The fields on a tab of a screen, as seen from a project if one is given. -/
def screenTabFields (screen tab : String) (project : Option String) : Remote (List ScreenField) :=
  h.fetch (screenTabFieldsPath screen tab project)

end JiraQuery.Handle
