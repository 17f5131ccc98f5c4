import JiraQuery.Query.Expr

/-!
# Why a query has no text

The causes for which a query is refused before anything is sent, and their messages.
-/

namespace JiraQuery

/-- Something that a query text cannot say. -/
inductive Unsupported
  | call (field : Field) (method : Method)
  /-- A filter of the client beneath an alternative or a negation. -/
  | nestedClientFilter
  /-- An operator after the result was cut. -/
  | afterPaging (operator : String)
  | other (what : String)

def Unsupported.message : Unsupported → String
  | call field method => field.label ++ "." ++ method.label
  | nestedClientFilter => "client-side predicate inside OR or NOT"
  | afterPaging operator => operator ++ " after Take or Skip"
  | other what => what

/-- An argument that does not fit its place. -/
inductive BadArgument
  | notFinite (value : Float)
  | emptyWith (op : CompareOp)
  | noValues (op : CompareOp) (field : Field)
  | listWith (op : CompareOp)
  | containsNothing (field : Field)
  | containsEmpty (field : Field)
  | containsSeveral (field : Field)
  | notFieldId (id : String)
  | thenByFirst
  | other (reason : String)

def BadArgument.message : BadArgument → String
  | notFinite x => "'" ++ Literal.floatLayout.render x ++ "' is not a valid JQL number"
  | emptyWith op => "EMPTY cannot be compared with '" ++ op.token ++ "'"
  | noValues op field =>
    "'" ++ op.token ++ "' needs at least one value for field '" ++ field.label ++ "'"
  | listWith op =>
    "a list can only be compared with 'in' or 'not in', not '" ++ op.token ++ "'"
  | containsNothing field => "Contains on field '" ++ field.label ++ "' needs a value"
  | containsEmpty field =>
    "Contains on text field '" ++ field.label ++ "' cannot search for EMPTY"
  | containsSeveral field =>
    "Contains on text field '" ++ field.label ++ "' takes exactly one value"
  | notFieldId id => "'" ++ id ++ "' is not a custom field id"
  | thenByFirst => "ThenBy requires a preceding OrderBy"
  | other reason => reason

inductive TranslationError
  | unsupported (operation : Unsupported)
  /-- Several fields have the name; the ids are in the order of the catalog. -/
  | ambiguousField (name : String) (ids : List String)
  | unknownField (name : String)
  | invalidArgument (argument : BadArgument)

def TranslationError.message : TranslationError → String
  | unsupported operation => "'" ++ operation.message ++ "' cannot be translated to JQL"
  | ambiguousField name ids =>
    "More than one custom field named '" ++ name ++ "' was found (" ++ Text.joined ", " ids ++
      "); search by project to disambiguate"
  | unknownField name =>
    "Could not find custom field with name '" ++ name ++ "' on the Jira server"
  | invalidArgument argument => "Invalid argument: " ++ argument.message

end JiraQuery
