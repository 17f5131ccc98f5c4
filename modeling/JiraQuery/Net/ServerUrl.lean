import JiraQuery.Net.Error
import JiraQuery.Text.Blank

/-!
# Addresses

The address of a server, and of what it serves. `normalize` trims white space, then slashes at the
end, and refuses what is not a web address.
-/

namespace JiraQuery.ServerUrl

/-- Whether `s` contains `part`. -/
def occurs (part : List Char) : List Char → Bool
  | [] => part.isEmpty
  | c :: s => part.isPrefixOf (c :: s) || occurs part s

def isSecure (url : List Char) : Bool :=
  "https://".toList.isPrefixOf url

def hasScheme (url : List Char) : Bool :=
  isSecure url || "http://".toList.isPrefixOf url

/-- An address that others can listen to: neither encrypted nor on this machine. -/
def isExposed (url : String) : Bool :=
  let s := url.toList
  !isSecure s && !occurs "localhost".toList s && !occurs "127.0.0.1".toList s

/-- The address without white space around it and without slashes at its end. -/
def trimmed (url : String) : List Char :=
  Text.trimEndWhile (· = '/') (Text.trimChars url.toList)

def normalize (url : String) : Except ApiError String :=
  let s := trimmed url
  if hasScheme s then .ok (String.ofList s) else .error (.invalidUrl (String.ofList s))

/-- The address of a path on a server; slashes at the front of the path do not count. -/
def join (base path : String) : String :=
  base ++ "/" ++ String.ofList (path.toList.dropWhile (· = '/'))

end JiraQuery.ServerUrl
