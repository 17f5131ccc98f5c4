import JiraQuery.Query.Error
import JiraQuery.Text.Lowercase

/-!
# Resolving fields

A custom field that is called by its name is looked up in the catalog, where entries of one id are
one field. The reference that comes out says how the field is written and how it is searched.

| here | there |
| --- | --- |
| `FieldRef` | `ResolvedField` |
| `fieldNumber?` | `custom_field_number`, or else the digits alone |
| `Catalog.resolve`, `Catalog.resolveName`, `Catalog.resolveId` | `JqlVisitor::resolve_field` |
-/

namespace JiraQuery

/-- A field, ready to be written. -/
structure FieldRef where
  name : String
  /-- Searched by words and not as a whole. -/
  text : Bool
  /-- Holds a list of values. -/
  multi : Bool
  deriving DecidableEq, Repr

namespace FieldRef

/-- A reference by the number of a custom field. -/
def numbered (number : String) : String :=
  "cf[" ++ number ++ "]"

def ofSystem (f : SystemField) : FieldRef :=
  { name := f.jqlName, text := f.isText, multi := f.isMultiValued }

/-- A custom field without a number is written with its quoted name. -/
def ofCustom (f : CustomField) : FieldRef :=
  { name := (f.number?.map numbered).getD (Text.Quoted.quote f.name)
    text := f.isText
    multi := f.isMultiValued }

end FieldRef

/-- The number in an id that a caller gives, which may be the number itself. -/
def fieldNumber? (id : String) : Option String :=
  (customFieldNumber? id).or
    (if !id.isEmpty && id.toList.all Char.isDigit then some id else none)

namespace Catalog

/-- The fields with a name, ignoring case. -/
def named (catalog : Catalog) (name : String) : List CustomField :=
  Entity.distinct (catalog.filter (Text.sameName ·.name name))

def numbered? (catalog : Catalog) (number : String) : Option CustomField :=
  catalog.find? (·.number? = some number)

def resolveName (catalog : Catalog) (name : String) : Except TranslationError FieldRef :=
  match catalog.named name with
  | [] => .error (.unknownField name)
  | [f] => .ok (.ofCustom f)
  | fs => .error (.ambiguousField name (fs.map (·.id)))

/-- A field that the catalog does not hold is neither text nor a list. -/
def resolveId (catalog : Catalog) (id : String) : Except TranslationError FieldRef :=
  match fieldNumber? id with
  | none => .error (.invalidArgument (.notFieldId id))
  | some number =>
    let known := catalog.numbered? number
    .ok {
      name := FieldRef.numbered number
      text := known.any (·.isText)
      multi := known.any (·.isMultiValued) }

def resolve (catalog : Catalog) : Field → Except TranslationError FieldRef
  | .system f => .ok (.ofSystem f)
  | .custom name => catalog.resolveName name
  | .customId id => catalog.resolveId id

end Catalog

end JiraQuery
