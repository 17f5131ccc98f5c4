import JiraQuery.Text.Joined
import JiraQuery.Text.Percent

/-!
# Paths

The paths of the interface of a server. What callers give stands in them percent-encoded, so it never
adds a segment or a parameter.
-/

namespace JiraQuery.Path

/-- Segments, which are encoded, between slashes. -/
def ofSegments (segments : List String) : String :=
  Text.joined "/" (segments.map Text.Percent.encode)

/-- Parameters of a query part; the values are encoded. -/
def parameters (ps : List (String × String)) : String :=
  Text.joined "&" (ps.map fun p => p.1 ++ "=" ++ Text.Percent.encode p.2)

/-- A path with a query part, unless there are no parameters. -/
def withParameters (path : String) (ps : List (String × String)) : String :=
  if ps.isEmpty then path else path ++ "?" ++ parameters ps

end JiraQuery.Path
