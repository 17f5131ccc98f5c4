import JiraQuery.Json.Parser
import JiraQuery.Json.Printer
import JiraQuery.Net.Error
import JiraQuery.Text.Blank
import JiraQuery.Text.Joined

/-!
# Reading responses

A response that is a success carries a document or nothing; any other one may say what went wrong.

| here | there |
| --- | --- |
| `Response.read`, `Response.text?`, `Response.document` | `handle_response` |
| `Response.failure`, `Response.messages` | `error_from_response` |
-/

namespace JiraQuery.Response

/-- The text of a body, if it arrived. Some responses never have one. -/
def text? (status : Nat) (body : Option String) : Option String :=
  if status = 204 ∨ status = 304 then some ""
  else body.map fun s => String.ofList <| match s.toList with
    | '\ufeff' :: s => s
    | s => s

/-- The document of a success; an empty text stands for `null`. -/
def document (text : String) : Except ApiError Json :=
  if text.toList.all Text.isBlank then .ok .null
  else match Json.parse? text with
    | some j => .ok j
    | none => .error .invalidResponse

/-- What an error document says about one field. -/
def fieldMessage (name : String) (value : Json) : String :=
  name ++ ": " ++ value.text?.getD value.render

/-- The general messages of an error document, and after them those on fields. -/
def messages (j : Json) : List String :=
  let general := ((j.get? "errorMessages").bind Json.items?).getD []
  let fields := ((j.get? "errors").bind Json.members?).getD []
  general.filterMap Json.text? ++ fields.map fun m => fieldMessage m.1 m.2

/-- The error of a response that is no success. A server that says nothing has its address named. -/
def failure (status : Nat) (url : String) (text : String) : ApiError :=
  let said := ((Json.parse? text).map messages).getD []
  .ofStatus status (if said.isEmpty then url else Text.joined ", " said)

/-- What a response comes to. -/
def read (url : String) (status : Nat) (body : Option String) : Except ApiError Json :=
  if isSuccess status then
    match text? status body with
    | some text => document text
    | none => .error .network
  else .error (failure status url ((text? status body).getD ""))

end JiraQuery.Response
