import JiraQuery.Config.Settings
import Mathlib

/-!
# Settings that are adjusted

Settings start with any values and are adjusted one value at a time. Every adjustment but that of the
attempts brings the page size into its range, and from then on it stays there. Main statements:
`clamped_adjust` and `Clamped.adjust`.
-/

namespace JiraQuery.Settings

inductive Adjustment
  | maxIssuesPerRequest (n : UInt32)
  | serverMaxResults (n : UInt32)
  | maxRetries (n : UInt32)
  | normalize
  deriving DecidableEq, Repr

/-- Whether it leaves the page size and the limit of the server alone. -/
def Adjustment.isOfRetries : Adjustment → Bool
  | maxRetries _ => true
  | _ => false

def adjustBy (s : Settings) : Adjustment → Settings
  | .maxIssuesPerRequest n => s.withMaxIssuesPerRequest n
  | .serverMaxResults n => s.withServerMaxResults n
  | .maxRetries n => s.withMaxRetries n
  | .normalize => s.normalize

/-- The settings after adjustments, one after the other. -/
def adjust (s : Settings) (xs : List Adjustment) : Settings :=
  xs.foldl adjustBy s

/-- The page size that is set is the one in use, and there is room for it. -/
structure Clamped (s : Settings) : Prop where
  maxIssuesPerRequest_eq : s.maxIssuesPerRequest = s.pageSize
  one_le_serverMaxResults : 1 ≤ s.serverMaxResults

variable {s : Settings} {x : Adjustment} {xs : List Adjustment}

theorem clamped_normalize (s : Settings) : s.normalize.Clamped where
  maxIssuesPerRequest_eq := (pageSize_normalize s).symm
  one_le_serverMaxResults := le_max_right s.serverMaxResults 1

theorem Clamped.pageSize_le (h : s.Clamped) : s.pageSize ≤ s.serverMaxResults := by
  have hle := s.pageSize_bounds.2
  rwa [max_one_of_one_le h.one_le_serverMaxResults] at hle

/-- An adjustment brings the page size into its range, whatever the values were. -/
theorem clamped_adjustBy (s : Settings) (hx : x.isOfRetries = false) : (s.adjustBy x).Clamped := by
  cases x with
  | maxIssuesPerRequest n | serverMaxResults n | normalize => exact clamped_normalize _
  | maxRetries n => cases hx

theorem Clamped.adjustBy (h : s.Clamped) (x : Adjustment) : (s.adjustBy x).Clamped := by
  cases x with
  | maxIssuesPerRequest n | serverMaxResults n | normalize => exact clamped_normalize _
  | maxRetries n => exact ⟨h.maxIssuesPerRequest_eq, h.one_le_serverMaxResults⟩

theorem Clamped.adjust (h : s.Clamped) (xs : List Adjustment) : (s.adjust xs).Clamped := by
  induction xs generalizing s with
  | nil => exact h
  | cons x xs ih => exact ih (h.adjustBy x)

theorem clamped_adjust (s : Settings) (hxs : ∃ x ∈ xs, x.isOfRetries = false) : (s.adjust xs).Clamped := by
  obtain ⟨x, hmem, hx⟩ := hxs
  obtain ⟨before, after, rfl⟩ := List.append_of_mem hmem
  have hsplit : s.adjust (before ++ x :: after) = ((s.adjust before).adjustBy x).adjust after :=
    List.foldl_append
  rw [hsplit]
  exact (clamped_adjustBy _ hx).adjust after

end JiraQuery.Settings
