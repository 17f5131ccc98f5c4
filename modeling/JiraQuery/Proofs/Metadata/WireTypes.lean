import JiraQuery.Proofs.Metadata.Documents

/-!
# Types that are read and written

For each of these types, and for pages of it: a value that was read from a document is written as one that
reads back as the same value. For texts this holds as well, except that a double may come back as one of its
neighbours, which can happen to issues only. Main statement: `WireType.settles`.
-/

namespace JiraQuery

open Json (Rereads)
open Wire

/-- The types that are both read and written. -/
inductive WireType
  | issue | status | issueType | priority | resolution | user | project | component | version
  | customField | filter | screenField | screenTab | searchRequest
  deriving DecidableEq

/-- A type with what is known of its values on the wire. -/
structure WireKind where
  Value : Type
  [wire : Wire Value]
  [lawful : LawfulWire Value]
  [document : Document Value]

attribute [instance] WireKind.wire WireKind.lawful WireKind.document

namespace WireType

@[reducible] def kind : WireType → WireKind
  | issue => ⟨Issue⟩
  | status => ⟨Status⟩
  | issueType => ⟨IssueType⟩
  | priority => ⟨Priority⟩
  | resolution => ⟨Resolution⟩
  | user => ⟨User⟩
  | project => ⟨Project⟩
  | component => ⟨Component⟩
  | version => ⟨Version⟩
  | customField => ⟨CustomField⟩
  | filter => ⟨Filter⟩
  | screenField => ⟨ScreenField⟩
  | screenTab => ⟨ScreenTab⟩
  | searchRequest => ⟨SearchRequest⟩

/-- The values of a type. -/
abbrev Value (t : WireType) : Type := t.kind.Value

theorem levels_le (t : WireType) : Document.levels t.Value ≤ 4 := by
  cases t <;> decide

/-- The documents of all of them but issues are plain. -/
theorem doubles_eq_nil {t : WireType} (ht : t ≠ issue) (v : t.Value) : (encode v).doubles = [] := by
  cases t with
  | issue => exact absurd rfl ht
  | _ => exact (PlainWire.plain_encode v).doubles_eq

end WireType

/-- What is written of a value that was read reads back as the same value. -/
structure Settles (α : Type) [Wire α] : Prop where
  /-- As a document it always does so, and is written as the same document again. -/
  as_document : ∀ (j : Json) (v : α), decode? j = some v →
    decode? (encode v) = some v ∧ (decode? (encode v) : Option α).map encode = some (encode v)
  /-- As a text it does so exactly if each double in it comes back. -/
  as_text : ∀ (t : String) (v : α), ofText? t = some v →
    (ofText? (text v) = some v ↔ ∀ x ∈ (encode v).doubles, Rereads x)
  /-- Then it is written as the same text again. -/
  text_again : ∀ (t : String) (v : α), ofText? t = some v → (∀ x ∈ (encode v).doubles, Rereads x) →
    (ofText? (text v) : Option α).map text = some (text v)

theorem settles_of_document {α : Type} [Wire α] [LawfulWire α] [Document α]
    (hlevels : Document.levels α ≤ 127) : Settles α where
  as_document _ v _ := by
    rw [LawfulWire.decode_encode]
    exact ⟨rfl, rfl⟩
  as_text _ _ h := ofText?_text_iff hlevels h
  text_again _ _ h hdoubles := by
    rw [(ofText?_text_iff hlevels h).2 hdoubles]
    rfl

namespace WireType

/-- All types settle, and pages of them; and what could keep a text from coming back is in issues only. -/
theorem settles (t : WireType) :
    Settles t.Value ∧ Settles (Page t.Value) ∧
      (t ≠ issue → (∀ v : t.Value, (encode v).doubles = []) ∧ ∀ p : Page t.Value, (encode p).doubles = []) := by
  have hlevels : Document.levels t.Value ≤ 4 := t.levels_le
  have hpage : Document.levels (Page t.Value) = Document.levels t.Value + 2 := rfl
  refine ⟨settles_of_document (by omega), settles_of_document (by omega), fun ht => ⟨doubles_eq_nil ht, ?_⟩⟩
  intro p
  rw [Page.doubles_encode, doubles_encode_list]
  exact List.flatMap_eq_nil_iff.2 fun v _ => doubles_eq_nil ht v

/-- The text of an issue with an estimate in a field without a type of its own. -/
def estimateText (estimate : String) : String :=
  "\x7b\"id\":\"1\",\"key\":\"A-1\",\"fields\":\x7b\"customfield_10000\":" ++ estimate ++ "\x7d\x7d"

/-- A priority, and an issue whose estimate comes back from its text. -/
theorem settles_estimate :
    priority ≠ issue ∧
      (∃ p : Priority, ofText? "\x7b\"id\":\"1\",\"name\":\"High\"\x7d" = some p ∧ ofText? (text p) = some p) ∧
      ∃ i : Issue, ofText? (estimateText "2.5") = some i ∧ (encode i).doubles ≠ [] ∧ ofText? (text i) = some i := by
  obtain ⟨p, hp⟩ := Option.isSome_iff_exists.1
    (by decide +kernel : (ofText? "\x7b\"id\":\"1\",\"name\":\"High\"\x7d" : Option Priority).isSome = true)
  obtain ⟨i, hi⟩ := Option.isSome_iff_exists.1
    (by decide +kernel : (ofText? (estimateText "2.5") : Option Issue).isSome = true)
  have hdoubles : (ofText? (estimateText "2.5") : Option Issue).all (fun i =>
      !(encode i).doubles.isEmpty && (encode i).doubles.all fun x => decide (Rereads x)) = true := by
    decide +kernel
  rw [hi, Option.all_some, Bool.and_eq_true, Bool.not_eq_true', List.isEmpty_eq_false_iff] at hdoubles
  obtain ⟨hne, hall⟩ := hdoubles
  have hplain := ((settles priority).2.2 (by decide)).1 p
  refine ⟨by decide, ⟨p, hp, ((settles priority).1.as_text _ p hp).2 ?_⟩,
    i, hi, hne, ((settles issue).1.as_text _ i hi).2 fun x hx => of_decide_eq_true (List.all_eq_true.1 hall x hx)⟩
  rw [hplain]
  exact List.forall_mem_nil _

/-- An issue with an estimate that does not come back from its text. -/
theorem estimate_slips :
    ∃ i : Issue, ofText? (estimateText "1.66666666666666666") = some i ∧ ofText? (text i) ≠ some i := by
  obtain ⟨i, hi⟩ := Option.isSome_iff_exists.1
    (by decide +kernel : (ofText? (estimateText "1.66666666666666666") : Option Issue).isSome = true)
  have hslips : (ofText? (estimateText "1.66666666666666666") : Option Issue).all (fun i =>
      !(encode i).doubles.all fun x => decide (Rereads x)) = true := by
    decide +kernel
  rw [hi, Option.all_some, Bool.not_eq_true', List.all_eq_false] at hslips
  obtain ⟨x, hx, hslips⟩ := hslips
  refine ⟨i, hi, fun hback => hslips (decide_eq_true ?_)⟩
  exact (ofText?_text_iff (issue.levels_le.trans (by decide)) hi).1 hback x hx

end WireType

end JiraQuery
