import JiraQuery.Metadata.Entity

/-!
# Users, projects, components and versions
-/

namespace JiraQuery

/-- A person; servers in privacy mode hide all but the account. -/
structure User where
  accountId : Option String := none
  name : Option String := none
  displayName : String := ""
  emailAddress : Option String := none
  active : Bool := true
  deriving DecidableEq, Repr

namespace User

def toJson (u : User) : Json :=
  .obj [("accountId", encode u.accountId), ("name", encode u.name),
    ("displayName", encode u.displayName), ("emailAddress", encode u.emailAddress),
    ("active", encode u.active)]

def ofJson? (j : Json) : Option User := do
  let r ← Record.ofJsonWithin? 5 j
  return {
    accountId := ← r.optional 0 "accountId"
    name := ← r.optional 1 "name"
    displayName := ← r.withDefault 2 "displayName" ""
    emailAddress := ← r.optional 3 "emailAddress"
    active := ← r.withDefault 4 "active" true }

instance : Wire User := ⟨toJson, ofJson?⟩

instance : LawfulWire User where
  decode_encode x := by
    show ofJson? x.toJson = some x
    simp [toJson, ofJson?, Members.get?_cons]
  encode_ne_null _ := rfl

end User

/-- A project. Caches know it by its key. -/
structure Project where
  id : String
  key : String
  name : String := ""
  lead : Option User := none
  url : Option String := none
  deriving DecidableEq, Repr

namespace Project

def toJson (p : Project) : Json :=
  .obj [("id", encode p.id), ("key", encode p.key), ("name", encode p.name),
    ("lead", encode p.lead), ("url", encode p.url)]

def ofJson? (j : Json) : Option Project := do
  let r ← Record.ofJsonWithin? 5 j
  return {
    id := ← r.required 0 "id"
    key := ← r.required 1 "key"
    name := ← r.withDefault 2 "name" ""
    lead := ← r.optional 3 "lead"
    url := ← r.optional 4 "url" }

instance : Wire Project := ⟨toJson, ofJson?⟩

instance : LawfulWire Project where
  decode_encode x := by
    show ofJson? x.toJson = some x
    simp [toJson, ofJson?, Members.get?_cons]
  encode_ne_null _ := rfl

instance : Entity Project := ⟨key, name⟩

end Project

/-- A component of a project. -/
structure Component where
  id : String
  name : String
  description : Option String := none
  /-- The key of the project that owns it. -/
  project : Option String := none
  deriving DecidableEq, Repr

namespace Component

def toJson (c : Component) : Json :=
  .obj [("id", encode c.id), ("name", encode c.name), ("description", encode c.description),
    ("project", encode c.project)]

def ofJson? (j : Json) : Option Component := do
  let r ← Record.ofJsonWithin? 4 j
  return {
    id := ← r.required 0 "id"
    name := ← r.required 1 "name"
    description := ← r.optional 2 "description"
    project := ← r.optional 3 "project" }

instance : Wire Component := ⟨toJson, ofJson?⟩

instance : LawfulWire Component where
  decode_encode x := by
    show ofJson? x.toJson = some x
    simp [toJson, ofJson?, Members.get?_cons]
  encode_ne_null _ := rfl

instance : Entity Component := ⟨id, name⟩

end Component

/-- A version of a project. -/
structure Version where
  id : String
  name : String
  archived : Bool := false
  released : Bool := false
  releaseDate : Option String := none
  deriving DecidableEq, Repr

namespace Version

def toJson (v : Version) : Json :=
  .obj [("id", encode v.id), ("name", encode v.name), ("archived", encode v.archived),
    ("released", encode v.released), ("releaseDate", encode v.releaseDate)]

def ofJson? (j : Json) : Option Version := do
  let r ← Record.ofJsonWithin? 5 j
  return {
    id := ← r.required 0 "id"
    name := ← r.required 1 "name"
    archived := ← r.withDefault 2 "archived" false
    released := ← r.withDefault 3 "released" false
    releaseDate := ← r.optional 4 "releaseDate" }

instance : Wire Version := ⟨toJson, ofJson?⟩

instance : LawfulWire Version where
  decode_encode x := by
    show ofJson? x.toJson = some x
    simp [toJson, ofJson?, Members.get?_cons]
  encode_ne_null _ := rfl

instance : Entity Version := ⟨id, name⟩

end Version

end JiraQuery
