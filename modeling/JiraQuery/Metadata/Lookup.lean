import JiraQuery.Metadata.Entity

/-!
# Statuses, issue types, priorities and resolutions
-/

namespace JiraQuery

/-- Groups statuses into to do, in progress and done. -/
structure StatusCategory where
  id : UInt32
  key : String
  name : String
  colorName : Option String := none
  deriving DecidableEq, Repr

namespace StatusCategory

def toJson (c : StatusCategory) : Json :=
  .obj [("id", encode c.id), ("key", encode c.key), ("name", encode c.name),
    ("colorName", encode c.colorName)]

def ofJson? (j : Json) : Option StatusCategory := do
  let r ← Record.ofJsonWithin? 4 j
  return {
    id := ← r.required 0 "id"
    key := ← r.required 1 "key"
    name := ← r.required 2 "name"
    colorName := ← r.optional 3 "colorName" }

instance : Wire StatusCategory := ⟨toJson, ofJson?⟩

instance : LawfulWire StatusCategory where
  decode_encode x := by
    show ofJson? x.toJson = some x
    simp [toJson, ofJson?, Members.get?_cons]
  encode_ne_null _ := rfl

end StatusCategory

/-- A state of an issue, such as `Open`. -/
structure Status where
  id : String
  name : String
  description : Option String := none
  iconUrl : Option String := none
  category : Option StatusCategory := none
  deriving DecidableEq, Repr

namespace Status

def toJson (s : Status) : Json :=
  .obj [("id", encode s.id), ("name", encode s.name), ("description", encode s.description),
    ("iconUrl", encode s.iconUrl), ("statusCategory", encode s.category)]

def ofJson? (j : Json) : Option Status := do
  let r ← Record.ofJsonWithin? 5 j
  return {
    id := ← r.required 0 "id"
    name := ← r.required 1 "name"
    description := ← r.optional 2 "description"
    iconUrl := ← r.optional 3 "iconUrl"
    category := ← r.optional 4 "statusCategory" }

instance : Wire Status := ⟨toJson, ofJson?⟩

instance : LawfulWire Status where
  decode_encode x := by
    show ofJson? x.toJson = some x
    simp [toJson, ofJson?, Members.get?_cons]
  encode_ne_null _ := rfl

instance : Entity Status := ⟨id, name⟩

end Status

/-- A kind of issue, such as `Bug`. -/
structure IssueType where
  id : String
  name : String
  subtask : Bool := false
  description : Option String := none
  iconUrl : Option String := none
  deriving DecidableEq, Repr

namespace IssueType

def toJson (t : IssueType) : Json :=
  .obj [("id", encode t.id), ("name", encode t.name), ("subtask", encode t.subtask),
    ("description", encode t.description), ("iconUrl", encode t.iconUrl)]

def ofJson? (j : Json) : Option IssueType := do
  let r ← Record.ofJsonWithin? 5 j
  return {
    id := ← r.required 0 "id"
    name := ← r.required 1 "name"
    subtask := ← r.withDefault 2 "subtask" false
    description := ← r.optional 3 "description"
    iconUrl := ← r.optional 4 "iconUrl" }

instance : Wire IssueType := ⟨toJson, ofJson?⟩

instance : LawfulWire IssueType where
  decode_encode x := by
    show ofJson? x.toJson = some x
    simp [toJson, ofJson?, Members.get?_cons]
  encode_ne_null _ := rfl

instance : Entity IssueType := ⟨id, name⟩

end IssueType

/-- How urgent an issue is. -/
structure Priority where
  id : String
  name : String
  iconUrl : Option String := none
  deriving DecidableEq, Repr

namespace Priority

def toJson (p : Priority) : Json :=
  .obj [("id", encode p.id), ("name", encode p.name), ("iconUrl", encode p.iconUrl)]

def ofJson? (j : Json) : Option Priority := do
  let r ← Record.ofJsonWithin? 3 j
  return {
    id := ← r.required 0 "id"
    name := ← r.required 1 "name"
    iconUrl := ← r.optional 2 "iconUrl" }

instance : Wire Priority := ⟨toJson, ofJson?⟩

instance : LawfulWire Priority where
  decode_encode x := by
    show ofJson? x.toJson = some x
    simp [toJson, ofJson?, Members.get?_cons]
  encode_ne_null _ := rfl

instance : Entity Priority := ⟨id, name⟩

end Priority

/-- How an issue was settled. -/
structure Resolution where
  id : String
  name : String
  description : Option String := none
  deriving DecidableEq, Repr

namespace Resolution

def toJson (x : Resolution) : Json :=
  .obj [("id", encode x.id), ("name", encode x.name), ("description", encode x.description)]

def ofJson? (j : Json) : Option Resolution := do
  let r ← Record.ofJsonWithin? 3 j
  return {
    id := ← r.required 0 "id"
    name := ← r.required 1 "name"
    description := ← r.optional 2 "description" }

instance : Wire Resolution := ⟨toJson, ofJson?⟩

instance : LawfulWire Resolution where
  decode_encode x := by
    show ofJson? x.toJson = some x
    simp [toJson, ofJson?, Members.get?_cons]
  encode_ne_null _ := rfl

instance : Entity Resolution := ⟨id, name⟩

end Resolution

end JiraQuery
