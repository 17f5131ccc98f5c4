import JiraQuery.Proofs.Metadata.Documents

/-!
# Fields without a type of their own

The fields of an issue are in two halves. Members with a declared name are read by their types; all others
are kept as the document has them, and are written as they were kept. Neither half sees the members of the
other. Main statements: `IssueFields.typedMembers_congr` and `Issue.undeclared_kept`.
-/

namespace JiraQuery

namespace IssueFields

variable {ms ns : Members Json} {f : IssueFields} {k : String}

/-- The names of the fields with a type are written first, and then those of all others. -/
theorem map_fst_members (f : IssueFields) : f.members.map (·.1) = declared ++ f.other.map (·.1) := by
  rw [members, List.map_append, map_fst_typedMembers]

/-- The members with a type do not hide any other. -/
theorem get?_members (h : isDeclared k = false) : Members.get? f.members k = Members.get? f.other k := by
  have htyped : Members.get? f.typedMembers k = none := Members.get?_eq_none fun m hm heq => by
    rw [← heq, isDeclared_of_mem_typedMembers hm] at h
    cases h
  rw [members, Members.get?_append, htyped, Option.none_or]

/-- What is kept of the members of a document. -/
theorem get?_filter_undeclared (ms : Members Json) (k : String) :
    Members.get? (ms.filter (!isDeclared ·.1)) k = if isDeclared k then none else Members.get? ms k := by
  rw [Members.get?_filter (fun name => !isDeclared name)]
  cases isDeclared k <;> rfl

/-- The fields with a type are read from the declared members, whatever else a document has. -/
theorem typedMembers_congr (hsame : ∀ k, isDeclared k → Members.get? ms k = Members.get? ns k)
    (h : ofMembers? ms = some f) : ∃ g, ofMembers? ns = some g ∧ g.typedMembers = f.typedMembers := by
  simp only [ofMembers?, Record.optional_named, Record.withDefault_named] at h ⊢
  simp (disch := decide) only [hsame] at h
  iterate 15
    obtain ⟨_, hread, h⟩ := Option.bind_eq_some_iff.1 h
    rw [hread]
  obtain rfl := Option.some.inj h
  exact ⟨_, rfl, rfl⟩

end IssueFields

namespace Issue

variable {j : Json} {i : Issue}

/-- What the document of an issue has for its fields, unless it leaves them out. -/
def fieldsIn? (j : Json) : Option Json :=
  (Record.ofJson? j).bind (·.find? 3 "fields")

/-- The members of the fields in the document of an issue. -/
def fieldMembers (j : Json) : Members Json :=
  ((fieldsIn? j).bind Json.members?).getD []

/-- The fields of an issue that was read were left out, or they were an object. -/
theorem fields_of_ofJson? (h : ofJson? j = some i) :
    (fieldsIn? j = none ∧ i.fields = {}) ∨
      (fieldsIn? j = some (.obj (fieldMembers j)) ∧
        IssueFields.ofMembers? (fieldMembers j) = some i.fields) := by
  obtain ⟨r, hr, h⟩ := Option.bind_eq_some_iff.1 h
  iterate 3 obtain ⟨_, -, h⟩ := Option.bind_eq_some_iff.1 h
  obtain ⟨f, hf, h⟩ := Option.bind_eq_some_iff.1 h
  obtain rfl := Option.some.inj h
  have hin : fieldsIn? j = r.find? 3 "fields" := by
    rw [fieldsIn?, Record.ofJson?_of_within hr, Option.bind_some]
  unfold Record.withDefault at hf
  rw [← hin] at hf
  cases hfields : fieldsIn? j with
  | none =>
    rw [hfields] at hf
    exact .inl ⟨rfl, (Option.some.inj hf).symm⟩
  | some v =>
    rw [hfields] at hf
    cases v with
    | obj ms =>
      have hmembers : fieldMembers j = ms := by rw [fieldMembers, hfields]; rfl
      rw [hmembers]
      exact .inr ⟨rfl, hf⟩
    | _ => cases hf

theorem other_of_ofJson? (h : ofJson? j = some i) :
    i.fields.other = (fieldMembers j).filter (!IssueFields.isDeclared ·.1) := by
  rcases fields_of_ofJson? h with ⟨hnone, hfields⟩ | ⟨-, hfields⟩
  · rw [hfields, fieldMembers, hnone]
    rfl
  · exact IssueFields.other_of_ofMembers? hfields

theorem fieldMembers_encode (i : Issue) : fieldMembers (encode i) = i.fields.members := rfl

/-- In the fields of an issue that was read, the members without a declared name are kept with their
values, `null` ones included, and there are no others among them. Written again, the fields have the same
value for every name that is not declared, and no name besides. The value of a field by its name is what
the document has for it, unless this is `null` or the name is declared. -/
theorem undeclared_kept (h : ofJson? j = some i) :
    (fieldsIn? j = none ∨ fieldsIn? j = some (.obj (fieldMembers j))) ∧
    (∀ k, IssueFields.isDeclared k = false → i.fields.other.get? k = (fieldMembers j).get? k) ∧
    (∀ k ∈ IssueFields.declared, k ∉ i.fields.other.map (·.1)) ∧
    (∀ k, IssueFields.isDeclared k = false →
      (fieldMembers (encode i)).get? k = (fieldMembers j).get? k) ∧
    (∀ k ∈ (fieldMembers (encode i)).map (·.1), IssueFields.isDeclared k = false →
      k ∈ (fieldMembers j).map (·.1)) ∧
    ∀ k v, i.field? k = some v ↔
      IssueFields.isDeclared k = false ∧ (fieldMembers j).get? k = some v ∧ v.isNull = false := by
  have hother := other_of_ofJson? h
  have hkept : ∀ k, i.fields.other.get? k =
      if IssueFields.isDeclared k then none else (fieldMembers j).get? k := fun k => by
    rw [hother, IssueFields.get?_filter_undeclared]
  have hsame : ∀ k, IssueFields.isDeclared k = false →
      i.fields.other.get? k = (fieldMembers j).get? k := fun k hk => by
    rw [hkept, hk, if_neg Bool.false_ne_true]
  refine ⟨(fields_of_ofJson? h).imp And.left And.left, hsame, fun k hk hmem => ?_, fun k hk => ?_,
    fun k hmem hk => ?_, fun k v => ?_⟩
  · obtain ⟨m, hm, rfl⟩ := List.mem_map.1 hmem
    have hdeclared : IssueFields.isDeclared m.1 = true := List.contains_iff_mem.2 hk
    rw [i.fields.other_undeclared m hm] at hdeclared
    cases hdeclared
  · rw [fieldMembers_encode, IssueFields.get?_members hk, hsame k hk]
  · rw [fieldMembers_encode, IssueFields.map_fst_members] at hmem
    rcases List.mem_append.1 hmem with hdeclared | hmem
    · rw [IssueFields.isDeclared, List.contains_iff_mem.2 hdeclared] at hk
      cases hk
    · obtain ⟨m, hm, rfl⟩ := List.mem_map.1 hmem
      rw [hother] at hm
      exact List.mem_map_of_mem (List.mem_of_mem_filter hm)
  · rw [field?, Option.filter_eq_some_iff, hkept, Bool.not_eq_true']
    cases IssueFields.isDeclared k with
    | true => simp
    | false => simp

/-- A document with a name that is almost declared, and a field without a value. -/
def releasedDocument : Json := .obj [
  ("fields", .obj [("customfield_10000", .null), ("customfield_10001", .str "My Sample Text"),
    ("fixVersions", .arr []), ("fix_versions", .str "1.0"), ("summary", .str "First issue")]),
  ("id", .str "10001"), ("key", .str "PROJ-1")]

def releasedIssue : Issue where
  id := "10001"
  key := "PROJ-1"
  fields :=
    { summary := some "First issue"
      other := [("customfield_10000", .null), ("customfield_10001", .str "My Sample Text"),
        ("fix_versions", .str "1.0")]
      other_undeclared := by decide }

theorem undeclared_kept_released :
    ofJson? releasedDocument = some releasedIssue ∧
    releasedIssue.fields.other.get? "fix_versions" = some (.str "1.0") ∧
    releasedIssue.fields.other.get? "customfield_10000" = some .null ∧
    "fixVersions" ∉ releasedIssue.fields.other.map (·.1) ∧
    (fieldMembers (encode releasedIssue)).get? "fix_versions" = some (.str "1.0") ∧
    releasedIssue.field? "fix_versions" = some (.str "1.0") ∧
    releasedIssue.field? "customfield_10000" ≠ some .null := by
  have hread : ofJson? releasedDocument = some releasedIssue := by rfl
  obtain ⟨-, hkept, hdeclared, hwritten, -, hfield⟩ := undeclared_kept hread
  exact ⟨hread, hkept "fix_versions" (by decide), hkept "customfield_10000" (by decide),
    hdeclared "fixVersions" (by decide), hwritten "fix_versions" (by decide),
    (hfield "fix_versions" _).2 ⟨by decide, rfl, rfl⟩, fun h => by cases ((hfield _ _).1 h).2.2⟩

end Issue

end JiraQuery
