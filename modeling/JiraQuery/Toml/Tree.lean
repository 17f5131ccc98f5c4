import JiraQuery.Json.Basic

/-!
# Tables under construction

A configuration text builds up a tree of tables, entry by entry. A table is made once: by its own
header, by dotted keys, or on the way to another table, in which case its own header may follow.
-/

namespace JiraQuery.Toml

/-- How a table came into being. -/
inductive Origin
  /-- By a header or as a value. -/
  | header
  /-- On the way to the table of another header. -/
  | passed
  /-- By a dotted key. -/
  | dotted
  deriving DecidableEq, Repr

inductive Node
  | value (document : Json)
  | table (origin : Origin) (entries : List (String × Node))
  /-- Tables of one name, made by headers in double brackets. -/
  | tables (items : List (List (String × Node)))

/-- The entries of a table, in order. -/
abbrev Entries := List (String × Node)

namespace Node

mutual

def toJson : Node → Json
  | value j => j
  | table _ es => .ofMembers (entriesToJson es)
  | tables ts => .arr (tablesToJson ts)

def entriesToJson : List (String × Node) → List (String × Json)
  | [] => []
  | (key, x) :: es => (key, toJson x) :: entriesToJson es

def tablesToJson : List (List (String × Node)) → List Json
  | [] => []
  | t :: ts => .ofMembers (entriesToJson t) :: tablesToJson ts

end

end Node

namespace Entries

def toJson (es : Entries) : Json :=
  (Node.table .header es).toJson

/-- Replaces an entry, or appends it if there is none of its key. -/
def put (key : String) (x : Node) : Entries → Entries
  | [] => [(key, x)]
  | e :: es => if e.1 = key then (key, x) :: es else e :: put key x es

/-- Changes the table at the end of a path. Tables that are not there are made with the given origin;
the way leads through the last one of several tables. A path of dotted keys may not enter a table
that has a header or is a value. -/
def change (made : Origin) (f : Origin → Entries → Option Entries) :
    List String → Origin → Entries → Option Entries
  | [], origin, es => f origin es
  | key :: path, _, es =>
    match es.lookup key with
    | none => do return put key (.table made (← change made f path made [])) es
    | some (.value _) => none
    | some (.table origin sub) =>
      if made = .dotted ∧ origin = .header then none
      else do return put key (.table origin (← change made f path origin sub)) es
    | some (.tables ts) => match ts.getLast? with
      | none => none
      | some t => do
        return put key (.tables (ts.dropLast ++ [← change made f path .header t])) es

/-- Adds a value under a key that is new. Only dotted keys reach into the tables that they make. -/
def addValue (viaDots : Bool) (key : String) (x : Json) (origin : Origin) (es : Entries) :
    Option Entries :=
  if viaDots ≠ decide (origin = .dotted) ∨ (es.lookup key).isSome then none
  else some (es ++ [(key, .value x)])

/-- Adds a value under a dotted key, whose last part is `key`. -/
def assign (es : Entries) (path : List String) (key : String) (x : Json) : Option Entries :=
  change .dotted (addValue (!path.isEmpty) key x) path .header es

/-- Adds values, each under its dotted key. -/
def assignAll (es : Entries) (pairs : List ((List String × String) × Json)) : Option Entries :=
  pairs.foldlM (fun es p => es.assign p.1.1 p.1.2 p.2) es

/-- Adds the table of a header with its values. A table that was passed on the way to others before
is completed. -/
def addTable (es : Entries) (path : List String) (key : String)
    (pairs : List ((List String × String) × Json)) : Option Entries :=
  change .passed (fun _ parent => do
    let before ← match parent.lookup key with
      | none => some []
      | some (.table .passed sub) => some sub
      | some _ => none
    return put key (.table .header (← assignAll before pairs)) parent) path .header es

/-- Adds one more of several tables of a name, with its values. -/
def addItem (es : Entries) (path : List String) (key : String)
    (pairs : List ((List String × String) × Json)) : Option Entries :=
  change .passed (fun _ parent => do
    let before ← match parent.lookup key with
      | none => some []
      | some (.tables ts) => some ts
      | some _ => none
    return put key (.tables (before ++ [← assignAll [] pairs])) parent) path .header es

end Entries

end JiraQuery.Toml
