import JiraQuery.Metadata.CustomField

/-!
# Fields for new issues

What the server says about the fields that a new issue of a project may have, per issue type.
-/

namespace JiraQuery

namespace CreateMeta

/-- A field; its id is the name under which it is listed. -/
structure Field where
  name : String
  schema : Option FieldSchema := none
  deriving DecidableEq, Repr

/-- An issue type and its fields in ascending order of their ids. -/
structure IssueType where
  id : String
  name : String
  fields : Members Field := []
  deriving DecidableEq, Repr

structure Project where
  key : String
  issueTypes : List IssueType := []
  deriving DecidableEq, Repr

end CreateMeta

/-- The projects that a request matches. -/
structure CreateMeta where
  projects : List CreateMeta.Project := []
  deriving DecidableEq, Repr

namespace CreateMeta

/-- Whether an id belongs to a custom field, in any case. -/
def isCustomId (id : String) : Bool :=
  "customfield_".toList.isPrefixOf (id.toList.map Char.toLower)

def Field.toCustomField (id : String) (f : Field) : CustomField :=
  { id, name := f.name, custom := true, schema := f.schema }

/-- The custom fields of an issue type. -/
def IssueType.customFields (t : IssueType) : List CustomField :=
  (t.fields.filter (isCustomId ·.1)).map fun m => m.2.toCustomField m.1

/-- The custom fields of a project, of each id the first. -/
def Project.customFields (p : Project) : List CustomField :=
  Entity.distinct (p.issueTypes.flatMap (·.customFields))

/-! ## On the wire -/

def Field.ofJson? (j : Json) : Option Field := do
  let r ← Record.ofJsonWithin? 2 j
  return {
    name := ← r.required 0 "name"
    schema := ← r.optional 1 "schema" }

/-- Reads fields by their ids. -/
def fieldsOfJson? (j : Json) : Option (Members Field) := do
  let ms ← (← j.members?).mapM fun m => (Field.ofJson? m.2).map (m.1, ·)
  return Members.ofList ms

def IssueType.ofJson? (j : Json) : Option IssueType := do
  let r ← Record.ofJsonWithin? 3 j
  return {
    id := ← r.required 0 "id"
    name := ← r.required 1 "name"
    fields := ← (r.find? 2 "fields").elim (some []) fieldsOfJson? }

def Project.ofJson? (j : Json) : Option Project := do
  let r ← Record.ofJsonWithin? 2 j
  return {
    key := ← r.required 0 "key"
    issueTypes := ← (r.find? 1 "issuetypes").elim (some []) fun j => do
      (← j.items?).mapM IssueType.ofJson? }

def ofJson? (j : Json) : Option CreateMeta := do
  let r ← Record.ofJsonWithin? 1 j
  return {
    projects := ← (r.find? 0 "projects").elim (some []) fun j => do
      (← j.items?).mapM Project.ofJson? }

end CreateMeta

end JiraQuery
