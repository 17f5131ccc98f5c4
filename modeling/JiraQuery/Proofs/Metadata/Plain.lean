import JiraQuery.Metadata.Issue
import JiraQuery.Metadata.Saved
import JiraQuery.Metadata.CustomField
import JiraQuery.Search.Page
import JiraQuery.Proofs.Json.Readable

/-!
# Values that come back from their texts

Values whose documents have no doubles in them come back from their texts (`PlainWire`). A record does so
because its fields do; that the members of its document come back in another order does not matter, since
its fields are found by their names.
-/

namespace JiraQuery

namespace Json

variable {n k : ℕ} {xs : List Json} {ms : List (String × Json)}

/-- Documents without doubles, within so many levels. -/
structure Plain (n : ℕ) (j : Json) : Prop where
  fits : Fits n j
  doubles_eq : j.doubles = []

theorem Plain.mono {j : Json} (h : Plain n j) (hk : n ≤ k) : Plain k j :=
  ⟨h.fits.mono hk, h.doubles_eq⟩

theorem Plain.arr (h : ∀ x ∈ xs, Plain n x) : Plain (n + 1) (.arr xs) where
  fits := .arr fun x hx => (h x hx).fits
  doubles_eq := by
    rw [doubles_arr]
    exact List.flatMap_eq_nil_iff.2 fun x hx => (h x hx).doubles_eq

theorem Plain.obj (h : ∀ m ∈ ms, Plain n m.2) : Plain (n + 1) (.obj ms) where
  fits := .obj fun m hm => (h m hm).fits
  doubles_eq := by
    rw [doubles_obj]
    exact List.flatMap_eq_nil_iff.2 fun m hm => (h m hm).doubles_eq

theorem Plain.again_eq {j : Json} (h : Plain n j) : j.again = some j.canonical :=
  again_eq_canonical fun _ hx => absurd (h.doubles_eq ▸ hx) List.not_mem_nil

theorem isNull_canonical (j : Json) : j.canonical.isNull = j.isNull := by
  cases j with
  | arr xs => rw [canonical_arr]; rfl
  | obj ms => rw [canonical_obj]; rfl
  | _ => rfl

end Json

/-- Values with plain documents, which read back with their members in order. -/
class PlainWire (α : Type) (levels : outParam ℕ) [Wire α] : Prop where
  plain_encode (x : α) : (encode x).Plain levels
  decode_canonical (x : α) : decode? (encode x).canonical = some x

attribute [simp] PlainWire.decode_canonical

section
variable {α : Type} {n k : ℕ} [Wire α] [PlainWire α n]

theorem plain_encode (x : α) (hk : n ≤ k) : (encode x).Plain k :=
  (PlainWire.plain_encode x).mono hk

instance [LawfulWire α] : PlainWire (Option α) n where
  plain_encode x := by
    cases x with
    | none => exact ⟨.null, rfl⟩
    | some x => exact PlainWire.plain_encode x
  decode_canonical x := by
    cases x with
    | none => rfl
    | some x =>
      show (if (encode x).canonical.isNull then some none else (decode? (encode x).canonical).map some) = _
      rw [Json.isNull_canonical, LawfulWire.encode_ne_null, PlainWire.decode_canonical]
      rfl

instance : PlainWire (List α) (n + 1) where
  plain_encode xs := by
    refine .arr fun j hj => ?_
    obtain ⟨x, -, rfl⟩ := List.mem_map.1 hj
    exact PlainWire.plain_encode x
  decode_canonical xs := by
    show (Json.items? (Json.arr (xs.map encode)).canonical).bind (·.mapM decode?) = some xs
    rw [Json.canonical_arr]
    show ((xs.map encode).map Json.canonical).mapM decode? = some xs
    induction xs with
    | nil => rfl
    | cons x xs ih =>
      rw [List.map_cons, List.map_cons, List.mapM_cons, PlainWire.decode_canonical, ih]
      rfl

end

instance : PlainWire String 0 := ⟨fun s => ⟨.str s, rfl⟩, fun _ => rfl⟩

instance : PlainWire Bool 0 := ⟨fun b => ⟨.bool b, rfl⟩, fun _ => rfl⟩

instance : PlainWire UInt32 0 where
  plain_encode n := by
    have hn := n.toNat_lt
    exact ⟨.int (by omega) (by omega), rfl⟩
  decode_canonical n := LawfulWire.decode_encode n

instance : PlainWire UInt64 0 where
  plain_encode n := by
    have hn := n.toNat_lt
    exact ⟨.int (by omega) (by omega), rfl⟩
  decode_canonical n := LawfulWire.decode_encode n

/-! ## Records -/

instance : PlainWire StatusCategory 1 where
  plain_encode x := .obj (by simp [plain_encode])
  decode_canonical x := by
    show StatusCategory.ofJson? x.toJson.canonical = some x
    simp [StatusCategory.toJson, StatusCategory.ofJson?, Json.ofMembers, Members.ofList, Members.get?_insert]

instance : PlainWire Status 2 where
  plain_encode x := .obj (by simp [plain_encode])
  decode_canonical x := by
    show Status.ofJson? x.toJson.canonical = some x
    simp [Status.toJson, Status.ofJson?, Json.ofMembers, Members.ofList, Members.get?_insert]

instance : PlainWire IssueType 1 where
  plain_encode x := .obj (by simp [plain_encode])
  decode_canonical x := by
    show IssueType.ofJson? x.toJson.canonical = some x
    simp [IssueType.toJson, IssueType.ofJson?, Json.ofMembers, Members.ofList, Members.get?_insert]

instance : PlainWire Priority 1 where
  plain_encode x := .obj (by simp [plain_encode])
  decode_canonical x := by
    show Priority.ofJson? x.toJson.canonical = some x
    simp [Priority.toJson, Priority.ofJson?, Json.ofMembers, Members.ofList, Members.get?_insert]

instance : PlainWire Resolution 1 where
  plain_encode x := .obj (by simp [plain_encode])
  decode_canonical x := by
    show Resolution.ofJson? x.toJson.canonical = some x
    simp [Resolution.toJson, Resolution.ofJson?, Json.ofMembers, Members.ofList, Members.get?_insert]

instance : PlainWire User 1 where
  plain_encode x := .obj (by simp [plain_encode])
  decode_canonical x := by
    show User.ofJson? x.toJson.canonical = some x
    simp [User.toJson, User.ofJson?, Json.ofMembers, Members.ofList, Members.get?_insert]

instance : PlainWire Project 2 where
  plain_encode x := .obj (by simp [plain_encode])
  decode_canonical x := by
    show Project.ofJson? x.toJson.canonical = some x
    simp [Project.toJson, Project.ofJson?, Json.ofMembers, Members.ofList, Members.get?_insert]

instance : PlainWire Component 1 where
  plain_encode x := .obj (by simp [plain_encode])
  decode_canonical x := by
    show Component.ofJson? x.toJson.canonical = some x
    simp [Component.toJson, Component.ofJson?, Json.ofMembers, Members.ofList, Members.get?_insert]

instance : PlainWire Version 1 where
  plain_encode x := .obj (by simp [plain_encode])
  decode_canonical x := by
    show Version.ofJson? x.toJson.canonical = some x
    simp [Version.toJson, Version.ofJson?, Json.ofMembers, Members.ofList, Members.get?_insert]

instance : PlainWire FieldSchema 1 where
  plain_encode x := .obj (by simp [plain_encode])
  decode_canonical x := by
    show FieldSchema.ofJson? x.toJson.canonical = some x
    simp [FieldSchema.toJson, FieldSchema.ofJson?, Json.ofMembers, Members.ofList, Members.get?_insert]

instance : PlainWire CustomField 2 where
  plain_encode x := .obj (by simp [plain_encode])
  decode_canonical x := by
    show CustomField.ofJson? x.toJson.canonical = some x
    simp [CustomField.toJson, CustomField.ofJson?, Json.ofMembers, Members.ofList, Members.get?_insert]

instance : PlainWire Filter 1 where
  plain_encode x := .obj (by simp [plain_encode])
  decode_canonical x := by
    show Filter.ofJson? x.toJson.canonical = some x
    simp [Filter.toJson, Filter.ofJson?, Json.ofMembers, Members.ofList, Members.get?_insert]

instance : PlainWire ScreenField 1 where
  plain_encode x := .obj (by simp [plain_encode])
  decode_canonical x := by
    show ScreenField.ofJson? x.toJson.canonical = some x
    simp [ScreenField.toJson, ScreenField.ofJson?, Json.ofMembers, Members.ofList, Members.get?_insert]

instance : PlainWire ScreenTab 1 where
  plain_encode x := .obj (by simp [plain_encode])
  decode_canonical x := by
    show ScreenTab.ofJson? x.toJson.canonical = some x
    simp [ScreenTab.toJson, ScreenTab.ofJson?, Json.ofMembers, Members.ofList, Members.get?_insert]

instance : PlainWire SearchRequest 2 where
  plain_encode q := by
    obtain ⟨jql, startAt, maxResults, fields, expand⟩ := q
    cases expand with
    | nil => exact .obj (by simp [plain_encode])
    | cons e es => exact .obj (by simp [plain_encode])
  decode_canonical q := by
    show SearchRequest.ofJson? q.toJson.canonical = some q
    obtain ⟨jql, startAt, maxResults, fields, expand⟩ := q
    cases expand with
    | nil => simp [SearchRequest.toJson, SearchRequest.ofJson?, Json.ofMembers, Members.ofList, Members.get?_insert]
    | cons e es =>
      simp [SearchRequest.toJson, SearchRequest.ofJson?, Json.ofMembers, Members.ofList, Members.get?_insert]

end JiraQuery
