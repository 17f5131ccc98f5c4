import JiraQuery.Json.Wire

/-!
# Pages and page requests

One page of a longer result, and the request that asks for a page of issues. A page calls its items
`items`, `issues` or `values`, and by one of these names only.
-/

namespace JiraQuery

structure Page (α : Type) where
  /-- The position of the first item in the whole result. -/
  startAt : UInt32 := 0
  /-- The page size that the server applied. -/
  maxResults : UInt32 := 0
  /-- The length of the whole result. -/
  total : UInt32 := 0
  items : List α := []

namespace Page

variable {α : Type}

/-- The position after the last item. -/
def nextStart (p : Page α) : Nat :=
  p.startAt.toNat + p.items.length

def hasMore (p : Page α) : Bool :=
  p.nextStart < p.total.toNat

def itemNames : List String := ["items", "issues", "values"]

variable [Wire α]

/-- The items of a page, which may be left out. -/
def itemsOf? : Record → Option (List α)
  | .named ms => match itemNames.filterMap ms.get? with
    | [] => some []
    | [j] => decode? j
    | _ => none
  | r => r.withDefault 3 "items" []

def toJson (p : Page α) : Json :=
  .obj [("startAt", encode p.startAt), ("maxResults", encode p.maxResults),
    ("total", encode p.total), ("items", encode p.items)]

def ofJson? (j : Json) : Option (Page α) := do
  let r ← Record.ofJsonWithin? 4 j
  return {
    startAt := ← r.withDefault 0 "startAt" 0
    maxResults := ← r.withDefault 1 "maxResults" 0
    total := ← r.withDefault 2 "total" 0
    items := ← itemsOf? r }

instance : Wire (Page α) := ⟨toJson, ofJson?⟩

instance [LawfulWire α] : LawfulWire (Page α) where
  decode_encode p := by
    show ofJson? p.toJson = some p
    simp [toJson, ofJson?, itemsOf?, itemNames, Members.get?_cons]
  encode_ne_null _ := rfl

end Page

/-- What a page of issues is asked for with. -/
structure SearchRequest where
  jql : String
  startAt : UInt32
  maxResults : UInt32
  /-- The names of the fields that the issues carry. -/
  fields : List String
  /-- What else the server adds to the issues. -/
  expand : List String := []
  deriving DecidableEq, Repr

namespace SearchRequest

/-- An empty `expand` is left out. -/
def toJson (q : SearchRequest) : Json :=
  .obj (("jql", encode q.jql) :: ("startAt", encode q.startAt) ::
    ("maxResults", encode q.maxResults) :: ("fields", encode q.fields) ::
    (if q.expand.isEmpty then [] else [("expand", encode q.expand)]))

def ofJson? (j : Json) : Option SearchRequest := do
  let r ← Record.ofJsonWithin? 5 j
  return {
    jql := ← r.required 0 "jql"
    startAt := ← r.required 1 "startAt"
    maxResults := ← r.required 2 "maxResults"
    fields := ← r.required 3 "fields"
    expand := ← r.withDefault 4 "expand" [] }

instance : Wire SearchRequest := ⟨toJson, ofJson?⟩

instance : LawfulWire SearchRequest where
  decode_encode q := by
    show ofJson? q.toJson = some q
    obtain ⟨_, _, _, _, expand⟩ := q
    cases expand <;> simp [toJson, ofJson?, Members.get?_cons]
  encode_ne_null _ := rfl

end SearchRequest

end JiraQuery
