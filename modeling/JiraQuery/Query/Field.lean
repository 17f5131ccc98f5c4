import JiraQuery.Metadata.CustomField

/-!
# Fields of a query

A field is one that every server has, or a custom field known by its name or by its id. Main
statements: `SystemField.ofName?_jqlName` (each system field is found by the name it is written with)
and `SystemField.jqlName_injective`.
-/

namespace JiraQuery

/-- A field that every server has. -/
inductive SystemField
  | key | summary | description | environment | comment | status | priority | resolution | issueType
  | project | assignee | reporter | labels | component | fixVersion | affectedVersion | created
  | updated | dueDate | resolved | votes
  deriving DecidableEq, Repr

namespace SystemField

def all : List SystemField := [
  .key, .summary, .description, .environment, .comment, .status, .priority, .resolution, .issueType,
  .project, .assignee, .reporter, .labels, .component, .fixVersion, .affectedVersion, .created,
  .updated, .dueDate, .resolved, .votes]

/-- The name in a query text. -/
def jqlName : SystemField → String
  | key => "key"
  | summary => "summary"
  | description => "description"
  | environment => "environment"
  | comment => "comment"
  | status => "status"
  | priority => "priority"
  | resolution => "resolution"
  | issueType => "issuetype"
  | project => "project"
  | assignee => "assignee"
  | reporter => "reporter"
  | labels => "labels"
  | component => "component"
  | fixVersion => "fixVersion"
  | affectedVersion => "affectedVersion"
  | created => "created"
  | updated => "updated"
  | dueDate => "due"
  | resolved => "resolved"
  | votes => "votes"

/-- The lower-case names by which a field is known besides its own. -/
def aliases : SystemField → List String
  | issueType => ["type"]
  | labels => ["label"]
  | component => ["components"]
  | fixVersion => ["fixversions"]
  | affectedVersion => ["versions", "affectsversion"]
  | dueDate => ["duedate"]
  | resolved => ["resolutiondate"]
  | _ => []

/-- Lower-cases the ASCII letters. -/
def fold (name : String) : List Char :=
  name.toList.map Char.toLower

/-- The field with a name or an alias, ignoring the case of ASCII letters. -/
def ofName? (name : String) : Option SystemField :=
  all.find? fun f => fold name = fold f.jqlName || f.aliases.any (fold name = ·.toList)

/-- Free text, which is searched by its words. -/
def isText : SystemField → Bool
  | summary | description | environment | comment => true
  | _ => false

/-- Holds a list of values. -/
def isMultiValued : SystemField → Bool
  | labels | component | fixVersion | affectedVersion => true
  | _ => false

theorem mem_all (f : SystemField) : f ∈ all := by
  cases f <;> decide

theorem ofName?_jqlName (f : SystemField) : ofName? f.jqlName = some f := by
  cases f <;> decide

theorem jqlName_injective {f g : SystemField} (h : f.jqlName = g.jqlName) : f = g := by
  have hf := ofName?_jqlName f
  rw [h, ofName?_jqlName] at hf
  exact (Option.some.inj hf).symm

end SystemField

/-- A field, as a query refers to it. -/
inductive Field
  | system (field : SystemField)
  /-- A custom field by its display name, which the catalog resolves. -/
  | custom (name : String)
  /-- A custom field by its id, `customfield_…` or the digits alone. -/
  | customId (id : String)
  deriving DecidableEq, Repr

namespace Field

/-- The id in a reference `cf[…]`. -/
def bracketedId? (name : String) : Option String := do
  let rest ← "cf[".toList.isPrefixOf? name.toList
  let id ← "]".toList.isSuffixOf? rest
  return String.ofList id

/-- Reads a reference: a system field, an id, or else the name of a custom field. -/
def ofString (name : String) : Field :=
  match SystemField.ofName? name with
  | some f => .system f
  | none => match bracketedId? name with
    | some id => .customId id
    | none =>
      if "customfield_".toList.isPrefixOf name.toList then .customId name else .custom name

/-- The name in a query text, of a system field. -/
def jqlName? : Field → Option String
  | system f => some f.jqlName
  | _ => none

def isText : Field → Bool
  | system f => f.isText
  | _ => false

def isMultiValued : Field → Bool
  | system f => f.isMultiValued
  | _ => false

/-- Only the names of custom fields are resolved by the catalog. -/
def needsCatalog : Field → Bool
  | custom _ => true
  | _ => false

/-- How messages call the field. -/
def label : Field → String
  | system f => f.jqlName
  | custom name => name
  | customId id => id

end Field

end JiraQuery
