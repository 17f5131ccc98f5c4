import JiraQuery.Metadata.Lookup
import JiraQuery.Metadata.Project

/-!
# Issues

An issue carries the fields that a search selected: some have a type of their own, all others are
kept as they are. Main statement: an issue that is written reads back (`LawfulWire Issue`), so no
field gets lost between the two kinds.
-/

namespace JiraQuery

namespace IssueFields

/-- The names of the fields with a type of their own. -/
def declared : List String := [
  "summary", "description", "status", "issuetype", "priority", "resolution", "assignee", "reporter",
  "project", "labels", "components", "fixVersions", "created", "updated", "duedate"]

def isDeclared (name : String) : Bool :=
  declared.contains name

theorem undeclared_nil : ∀ m ∈ ([] : Members Json), isDeclared m.1 = false :=
  List.forall_mem_nil _

end IssueFields

structure IssueFields where
  summary : Option String := none
  description : Option String := none
  status : Option Status := none
  issueType : Option IssueType := none
  priority : Option Priority := none
  resolution : Option Resolution := none
  assignee : Option User := none
  reporter : Option User := none
  project : Option Project := none
  labels : List String := []
  components : List Component := []
  fixVersions : List Version := []
  created : Option String := none
  updated : Option String := none
  dueDate : Option String := none
  /-- Every other field, `null` ones included. -/
  other : Members Json := []
  other_undeclared : ∀ m ∈ other, IssueFields.isDeclared m.1 = false := by
    exact IssueFields.undeclared_nil

structure Issue where
  id : String
  key : String
  /-- Where the server shows the issue. -/
  self : String := ""
  fields : IssueFields := {}

/-! ## On the wire -/

namespace IssueFields

/-- The members for the fields with a type of their own. -/
def typedMembers (f : IssueFields) : Members Json := [
  ("summary", encode f.summary), ("description", encode f.description),
  ("status", encode f.status), ("issuetype", encode f.issueType),
  ("priority", encode f.priority), ("resolution", encode f.resolution),
  ("assignee", encode f.assignee), ("reporter", encode f.reporter),
  ("project", encode f.project), ("labels", encode f.labels),
  ("components", encode f.components), ("fixVersions", encode f.fixVersions),
  ("created", encode f.created), ("updated", encode f.updated), ("duedate", encode f.dueDate)]

def members (f : IssueFields) : Members Json :=
  f.typedMembers ++ f.other

def ofMembers? (ms : Members Json) : Option IssueFields := do
  let r := Record.named ms
  return {
    summary := ← r.optional 0 "summary"
    description := ← r.optional 1 "description"
    status := ← r.optional 2 "status"
    issueType := ← r.optional 3 "issuetype"
    priority := ← r.optional 4 "priority"
    resolution := ← r.optional 5 "resolution"
    assignee := ← r.optional 6 "assignee"
    reporter := ← r.optional 7 "reporter"
    project := ← r.optional 8 "project"
    labels := ← r.withDefault 9 "labels" []
    components := ← r.withDefault 10 "components" []
    fixVersions := ← r.withDefault 11 "fixVersions" []
    created := ← r.optional 12 "created"
    updated := ← r.optional 13 "updated"
    dueDate := ← r.optional 14 "duedate"
    other := ms.filter (!isDeclared ·.1)
    other_undeclared := by simp }

instance : Wire IssueFields := ⟨fun f => .obj f.members, fun j => j.members?.bind ofMembers?⟩

theorem map_fst_typedMembers (f : IssueFields) : f.typedMembers.map (·.1) = declared := rfl

theorem isDeclared_of_mem_typedMembers {f : IssueFields} {m : String × Json}
    (h : m ∈ f.typedMembers) : isDeclared m.1 := by
  have : m.1 ∈ declared := f.map_fst_typedMembers ▸ List.mem_map_of_mem h
  simpa [isDeclared] using this

theorem filter_members (f : IssueFields) : f.members.filter (!isDeclared ·.1) = f.other := by
  have typed : f.typedMembers.filter (!isDeclared ·.1) = [] :=
    List.filter_eq_nil_iff.2 fun m hm => by simp [isDeclared_of_mem_typedMembers hm]
  have other : f.other.filter (!isDeclared ·.1) = f.other :=
    List.filter_eq_self.2 fun m hm => by simp [f.other_undeclared m hm]
  rw [members, List.filter_append, typed, other, List.nil_append]

instance : LawfulWire IssueFields where
  decode_encode f := by
    show ofMembers? f.members = some f
    simp only [ofMembers?, filter_members]
    simp [members, typedMembers, Members.get?_cons]
  encode_ne_null _ := rfl

end IssueFields

namespace Issue

def toJson (i : Issue) : Json :=
  .obj [("id", encode i.id), ("key", encode i.key), ("self", encode i.self),
    ("fields", encode i.fields)]

def ofJson? (j : Json) : Option Issue := do
  let r ← Record.ofJsonWithin? 4 j
  return {
    id := ← r.required 0 "id"
    key := ← r.required 1 "key"
    self := ← r.withDefault 2 "self" ""
    fields := ← r.withDefault 3 "fields" {} }

instance : Wire Issue := ⟨toJson, ofJson?⟩

instance : LawfulWire Issue where
  decode_encode x := by
    show ofJson? x.toJson = some x
    simp [toJson, ofJson?, Members.get?_cons]
  encode_ne_null _ := rfl

/-! ## Views -/

def summary? (i : Issue) : Option String :=
  i.fields.summary

def status? (i : Issue) : Option String :=
  i.fields.status.map (·.name)

def issueType? (i : Issue) : Option String :=
  i.fields.issueType.map (·.name)

def priority? (i : Issue) : Option String :=
  i.fields.priority.map (·.name)

def resolution? (i : Issue) : Option String :=
  i.fields.resolution.map (·.name)

def assignee? (i : Issue) : Option String :=
  i.fields.assignee.map (·.displayName)

def projectKey? (i : Issue) : Option String :=
  i.fields.project.map (·.key)

def hasLabel (i : Issue) (label : String) : Bool :=
  i.fields.labels.contains label

/-- The value of a field without a type of its own, unless it is `null`. -/
def field? (i : Issue) (id : String) : Option Json :=
  (i.fields.other.get? id).filter (!·.isNull)

/-- The key and the summary, which may be empty. -/
def headline (i : Issue) : String :=
  i.key ++ ": " ++ i.summary?.getD ""

end Issue

end JiraQuery
