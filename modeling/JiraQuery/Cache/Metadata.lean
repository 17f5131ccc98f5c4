import JiraQuery.Cache.Scoped
import JiraQuery.Metadata.CustomField
import JiraQuery.Metadata.Lookup
import JiraQuery.Metadata.Project

/-!
# The metadata of a server

What a client has learnt about its server: a store for each kind of metadata, by scope where the
server tells it per project.
-/

namespace JiraQuery

structure MetadataCache where
  customFields : Store CustomField := {}
  projectFields : ScopedStore FieldScope CustomField := {}
  issueTypes : Store IssueType := {}
  projectIssueTypes : ScopedStore String IssueType := {}
  priorities : Store Priority := {}
  resolutions : Store Resolution := {}
  statuses : Store Status := {}
  projects : Store Project := {}
  components : ScopedStore String Component := {}
  versions : ScopedStore String Version := {}
  currentUser : Option User := none

end JiraQuery
