import JiraQuery.Metadata.Entity

/-!
# Custom fields
-/

namespace JiraQuery

/-- What the values of a field are. -/
structure FieldSchema where
  type : String
  /-- What the elements of a list are. -/
  items : Option String := none
  /-- The kind of a custom field. -/
  custom : Option String := none
  customId : Option UInt64 := none
  deriving DecidableEq, Repr

namespace FieldSchema

def toJson (s : FieldSchema) : Json :=
  .obj [("type", encode s.type), ("items", encode s.items), ("custom", encode s.custom),
    ("customId", encode s.customId)]

def ofJson? (j : Json) : Option FieldSchema := do
  let r ← Record.ofJsonWithin? 4 j
  return {
    type := ← r.required 0 "type"
    items := ← r.optional 1 "items"
    custom := ← r.optional 2 "custom"
    customId := ← r.optional 3 "customId" }

instance : Wire FieldSchema := ⟨toJson, ofJson?⟩

instance : LawfulWire FieldSchema where
  decode_encode x := by
    show ofJson? x.toJson = some x
    simp [toJson, ofJson?, Members.get?_cons]
  encode_ne_null _ := rfl

end FieldSchema

/-- Free text is searched by its words. -/
def FieldSchema.isText (s : FieldSchema) : Bool :=
  s.custom.any fun kind =>
    ":textfield".toList.isSuffixOf kind.toList || ":textarea".toList.isSuffixOf kind.toList

/-- The digits of an id `customfield_…`. -/
def customFieldNumber? (id : String) : Option String :=
  ("customfield_".toList.isPrefixOf? id.toList).bind fun ds =>
    if !ds.isEmpty && ds.all Char.isDigit then some (String.ofList ds) else none

/-- A field defined by the users of a server. -/
structure CustomField where
  id : String
  name : String
  /-- False for the fields every server has. -/
  custom : Bool := false
  schema : Option FieldSchema := none
  deriving DecidableEq, Repr

namespace CustomField

def toJson (f : CustomField) : Json :=
  .obj [("id", encode f.id), ("name", encode f.name), ("custom", encode f.custom),
    ("schema", encode f.schema)]

def ofJson? (j : Json) : Option CustomField := do
  let r ← Record.ofJsonWithin? 4 j
  return {
    id := ← r.required 0 "id"
    name := ← r.required 1 "name"
    custom := ← r.withDefault 2 "custom" false
    schema := ← r.optional 3 "schema" }

instance : Wire CustomField := ⟨toJson, ofJson?⟩

instance : LawfulWire CustomField where
  decode_encode x := by
    show ofJson? x.toJson = some x
    simp [toJson, ofJson?, Members.get?_cons]
  encode_ne_null _ := rfl

instance : Entity CustomField := ⟨id, name⟩

end CustomField

namespace CustomField

/-- The number by which a query may refer to the field. -/
def number? (f : CustomField) : Option String :=
  customFieldNumber? f.id

def isText (f : CustomField) : Bool :=
  f.schema.any (·.isText)

def isMultiValued (f : CustomField) : Bool :=
  f.schema.any (·.type == "array")

end CustomField

/-- The custom fields by whose names a query is understood. -/
abbrev Catalog := List CustomField

end JiraQuery
