import JiraQuery.Json.Wire

/-!
# Settings of a client

Page size, limits and attempts. `normalize` brings values into their ranges; `pageSize` is in range
whatever the values are. Main statements: `pageSize_bounds`, `pageSize_normalize` and
`normalize_normalize`.
-/

namespace JiraQuery

structure Settings where
  maxIssuesPerRequest : UInt32 := 100
  /-- The most issues that the server returns at once. -/
  serverMaxResults : UInt32 := 100
  timeoutSecs : UInt64 := 30
  /-- How often a request is sent that fails in a way that may pass. -/
  maxRetries : UInt32 := 3
  /-- Users are known by their accounts and not by their names. -/
  userPrivacyMode : Bool := true
  deriving DecidableEq, Repr

namespace Settings

/-- The page size of searches: at least one issue, at most what the server returns. -/
def pageSize (s : Settings) : UInt32 :=
  min (max s.maxIssuesPerRequest 1) (max s.serverMaxResults 1)

/-- Brings every value into its range. -/
def normalize (s : Settings) : Settings :=
  { s with
    serverMaxResults := max s.serverMaxResults 1
    maxIssuesPerRequest := s.pageSize
    maxRetries := max s.maxRetries 1 }

def withMaxIssuesPerRequest (s : Settings) (n : UInt32) : Settings :=
  normalize { s with maxIssuesPerRequest := n }

def withServerMaxResults (s : Settings) (n : UInt32) : Settings :=
  normalize { s with serverMaxResults := max n 1 }

def withMaxRetries (s : Settings) (n : UInt32) : Settings :=
  { s with maxRetries := n }

/-! ## Ranges -/

theorem le_max_right (a b : UInt32) : b ≤ max a b := by
  simp only [Max.max]
  split
  · exact UInt32.le_refl b
  · next h => exact (UInt32.le_total a b).resolve_left h

theorem max_one_of_one_le {a : UInt32} (h : 1 ≤ a) : max a 1 = a := by
  simp only [Max.max]
  split
  · next h' => exact UInt32.le_antisymm h h'
  · rfl

theorem max_one_idem (a : UInt32) : max (max a 1) 1 = max a 1 := by
  simp only [Max.max, UInt32.le_iff_toNat_le]
  split <;> simp_all

theorem pageSize_bounds (s : Settings) : 1 ≤ s.pageSize ∧ s.pageSize ≤ max s.serverMaxResults 1 := by
  unfold pageSize
  have h1 := le_max_right s.maxIssuesPerRequest 1
  have h2 := le_max_right s.serverMaxResults 1
  simp only [Min.min]
  split
  · next h => exact ⟨h1, h⟩
  · exact ⟨h2, UInt32.le_refl _⟩

theorem pageSize_normalize (s : Settings) : s.normalize.pageSize = s.pageSize := by
  have ⟨h1, h2⟩ := s.pageSize_bounds
  show min (max s.pageSize 1) (max (max s.serverMaxResults 1) 1) = s.pageSize
  rw [max_one_idem, max_one_of_one_le h1]
  simp only [Min.min]
  exact if_pos h2

theorem normalize_normalize (s : Settings) : s.normalize.normalize = s.normalize := by
  have h := pageSize_normalize s
  unfold normalize at h ⊢
  simp only [h, max_one_idem]

/-! ## On the wire -/

def toJson (s : Settings) : Json :=
  .obj [("max_issues_per_request", encode s.maxIssuesPerRequest),
    ("server_max_results", encode s.serverMaxResults), ("timeout_secs", encode s.timeoutSecs),
    ("max_retries", encode s.maxRetries), ("user_privacy_mode", encode s.userPrivacyMode)]

/-- What is left out has its default. -/
def ofRecord? (r : Record) : Option Settings := do
  let d : Settings := {}
  return {
    maxIssuesPerRequest := ← r.withDefault 0 "max_issues_per_request" d.maxIssuesPerRequest
    serverMaxResults := ← r.withDefault 1 "server_max_results" d.serverMaxResults
    timeoutSecs := ← r.withDefault 2 "timeout_secs" d.timeoutSecs
    maxRetries := ← r.withDefault 3 "max_retries" d.maxRetries
    userPrivacyMode := ← r.withDefault 4 "user_privacy_mode" d.userPrivacyMode }

instance : Wire Settings := ⟨toJson, fun j => (Record.ofJsonWithin? 5 j).bind ofRecord?⟩

instance : LawfulWire Settings where
  decode_encode s := by
    show (Record.ofJsonWithin? 5 s.toJson).bind ofRecord? = some s
    simp [toJson, ofRecord?, Members.get?_cons]
  encode_ne_null _ := rfl

end Settings

end JiraQuery
