import JiraQuery.Json.Wire

/-!
# Saved filters and screens
-/

namespace JiraQuery

/-- A saved search. -/
structure Filter where
  id : String
  name : String
  jql : String
  description : Option String := none
  favourite : Bool := false
  deriving DecidableEq, Repr

namespace Filter

def toJson (f : Filter) : Json :=
  .obj [("id", encode f.id), ("name", encode f.name), ("jql", encode f.jql),
    ("description", encode f.description), ("favourite", encode f.favourite)]

def ofJson? (j : Json) : Option Filter := do
  let r ← Record.ofJsonWithin? 5 j
  return {
    id := ← r.required 0 "id"
    name := ← r.required 1 "name"
    jql := ← r.required 2 "jql"
    description := ← r.optional 3 "description"
    favourite := ← r.withDefault 4 "favourite" false }

instance : Wire Filter := ⟨toJson, ofJson?⟩

instance : LawfulWire Filter where
  decode_encode x := by
    show ofJson? x.toJson = some x
    simp [toJson, ofJson?, Members.get?_cons]
  encode_ne_null _ := rfl

end Filter

/-- A field on a screen or on one of its tabs. -/
structure ScreenField where
  id : String
  name : String
  fieldType : Option String := none
  deriving DecidableEq, Repr

namespace ScreenField

def toJson (f : ScreenField) : Json :=
  .obj [("id", encode f.id), ("name", encode f.name), ("type", encode f.fieldType)]

def ofJson? (j : Json) : Option ScreenField := do
  let r ← Record.ofJsonWithin? 3 j
  return {
    id := ← r.required 0 "id"
    name := ← r.required 1 "name"
    fieldType := ← r.optional 2 "type" }

instance : Wire ScreenField := ⟨toJson, ofJson?⟩

instance : LawfulWire ScreenField where
  decode_encode x := by
    show ofJson? x.toJson = some x
    simp [toJson, ofJson?, Members.get?_cons]
  encode_ne_null _ := rfl

end ScreenField

/-- A tab of a screen. -/
structure ScreenTab where
  id : UInt64
  name : String
  deriving DecidableEq, Repr

namespace ScreenTab

def toJson (t : ScreenTab) : Json :=
  .obj [("id", encode t.id), ("name", encode t.name)]

def ofJson? (j : Json) : Option ScreenTab := do
  let r ← Record.ofJsonWithin? 2 j
  return {
    id := ← r.required 0 "id"
    name := ← r.required 1 "name" }

instance : Wire ScreenTab := ⟨toJson, ofJson?⟩

instance : LawfulWire ScreenTab where
  decode_encode x := by
    show ofJson? x.toJson = some x
    simp [toJson, ofJson?, Members.get?_cons]
  encode_ne_null _ := rfl

end ScreenTab

end JiraQuery
