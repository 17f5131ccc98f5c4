import JiraQuery.Text.Base64
import JiraQuery.Text.Escaped

/-!
# Credentials
-/

namespace JiraQuery

/-- Who sends a request. -/
inductive Auth
  | basic (email token : String)
  | bearer (token : String)
  deriving DecidableEq, Repr

namespace Auth

/-- The value of the `Authorization` header. -/
def header : Auth → String
  | basic email token => "Basic " ++ Text.Base64.encode (email ++ ":" ++ token)
  | bearer token => "Bearer " ++ token

/-- Who it is, without the secret. -/
def principal : Auth → String
  | basic email _ => email
  | bearer _ => "<personal access token>"

/-- What there is to show of credentials. -/
def describe (a : Auth) : String :=
  "Auth \x7b principal: " ++ Text.Escaped.quoted a.principal ++ ", .. \x7d"

/-- Whether a header can hold a value: controls other than the tab have no place in it. -/
def isHeaderText (s : String) : Bool :=
  s.toList.all fun c => c = '\t' || (0x20 ≤ c.toNat && c.toNat ≠ 0x7F)

end Auth

end JiraQuery
