import JiraQuery.Proofs.Toml.Rendered
import JiraQuery.Proofs.Toml.Tree

/-!
# Tables that are read back

The pairs at the front of a file, those of a table and those of several tables of one name are put together
as one document, in which every value stands under its key. Main statement: `parse?_render`.
-/

namespace JiraQuery.Toml

variable {key : String} {pairs : List (String × Scalar)} {es : Entries} {ys : List Statement}

/-! ## Files in three parts -/

/-- Pairs at the front, a table, and several tables of one name. -/
structure Layout where
  front : List (String × Scalar)
  tableKey : String
  table : List (String × Scalar)
  itemsKey : String
  items : List (List (String × Scalar))

namespace Layout

variable {l : Layout}

/-- The lists of pairs in all parts. -/
def parts (l : Layout) : List (List (String × Scalar)) :=
  l.front :: l.table :: l.items

def sections (l : Layout) : List Section :=
  { pairs := l.front } :: { header := some (headerLine l.tableKey false), pairs := l.table } ::
    l.items.map fun pairs => { header := some (headerLine l.itemsKey true), pairs }

/-- The members that pairs make. -/
def members (pairs : List (String × Scalar)) : List (String × Json) :=
  pairs.map fun p => (p.1, p.2.toJson)

/-- The members of a file, in the order in which they are written. -/
def documentMembers (l : Layout) : List (String × Json) :=
  members l.front ++ [(l.tableKey, .ofMembers (members l.table))] ++
    if l.items.isEmpty then [] else [(l.itemsKey, .arr (l.items.map fun pairs => .ofMembers (members pairs)))]

/-- What a file holds. -/
def document (l : Layout) : Json :=
  .ofMembers l.documentMembers

/-- Whether a part has keys that stand without quotes, each of them once. -/
def ArePlain (keys : List String) : Prop :=
  (∀ key ∈ keys, isBareKey key = true) ∧ keys.Nodup

instance (keys : List String) : Decidable (ArePlain keys) :=
  inferInstanceAs (Decidable (_ ∧ _))

/-- Whether all keys are plain and new, and whole numbers fit. -/
structure WellFormed (l : Layout) : Prop where
  tableKey_bare : isBareKey l.tableKey = true
  itemsKey_bare : isBareKey l.itemsKey = true
  keys : ∀ pairs ∈ l.parts, ArePlain (pairs.map (·.1))
  fits : ∀ pairs ∈ l.parts, ∀ p ∈ pairs, p.2.Fits
  tableKey_new : l.tableKey ∉ l.front.map (·.1)
  itemsKey_new : l.items ≠ [] → l.itemsKey ∉ l.front.map (·.1) ∧ l.itemsKey ≠ l.tableKey

end Layout

/-! ## Pairs and headers -/

/-- A pair by its key, as tables take it. -/
def keyed (p : String × Scalar) : Key × Json :=
  (([], p.1), p.2.toJson)

theorem sections_pairs (pairs : List (String × Scalar)) (ys : List Statement) :
    sections (pairs.map pairStatement ++ ys) = (pairs.map keyed ++ (sections ys).1, (sections ys).2) := by
  induction pairs with
  | nil => rfl
  | cons p pairs ih =>
    show ((([], p.1), p.2.toJson) :: (sections (pairs.map pairStatement ++ ys)).1,
      (sections (pairs.map pairStatement ++ ys)).2) = _
    rw [ih]
    rfl

/-- What several tables of a name say. -/
def itemStatements (key : String) (items : List (List (String × Scalar))) : List Statement :=
  (items.map fun pairs => .header ([], key) true :: pairs.map pairStatement).flatten

theorem sections_items (key : String) (items : List (List (String × Scalar))) :
    sections (itemStatements key items) = ([], items.map fun pairs => (([], key), true, pairs.map keyed)) := by
  induction items with
  | nil => rfl
  | cons pairs items ih =>
    have hrest := sections_pairs pairs (itemStatements key items)
    rw [ih, List.append_nil] at hrest
    show ([], (([], key), true, (sections (pairs.map pairStatement ++ itemStatements key items)).1) ::
      (sections (pairs.map pairStatement ++ itemStatements key items)).2) = _
    rw [hrest]
    rfl

theorem sections_table (key : String) (pairs : List (String × Scalar)) (ys : List Statement) :
    sections (.header ([], key) false :: (pairs.map pairStatement ++ ys)) =
      ([], (([], key), false, pairs.map keyed ++ (sections ys).1) :: (sections ys).2) := by
  show ([], (([], key), false, (sections (pairs.map pairStatement ++ ys)).1) ::
    (sections (pairs.map pairStatement ++ ys)).2) = _
  rw [sections_pairs]

/-! ## Entries -/

/-- The entry of a pair. -/
def valueEntry (p : String × Scalar) : String × Node :=
  (p.1, .value p.2.toJson)

namespace Entries

/-- Values under new keys stand at the end. -/
theorem assignAll_pairs (h : (es.map (·.1) ++ pairs.map (·.1)).Nodup) :
    assignAll es (pairs.map keyed) = some (es ++ pairs.map valueEntry) := by
  induction pairs generalizing es with
  | nil =>
    rw [List.map_nil, List.map_nil, List.append_nil]
    rfl
  | cons p pairs ih =>
    rw [List.map_cons, List.append_cons] at h
    have hnew : p.1 ∉ es.map (·.1) := by
      intro hmem
      have hpair := (List.nodup_append.1 (List.nodup_append.1 h).1).2.2
      exact hpair p.1 hmem p.1 (List.mem_singleton_self _) rfl
    have hassign : es.assign [] p.1 p.2.toJson = some (es ++ [valueEntry p]) := by
      show addValue false p.1 p.2.toJson .header es = _
      rw [addValue, lookup_of_new hnew]
      exact if_neg (by decide)
    have hkeys : ((es ++ [valueEntry p]).map (·.1) ++ pairs.map (·.1)).Nodup := by
      simpa [valueEntry] using h
    have hrest := ih hkeys
    show (es.assign [] p.1 p.2.toJson).bind (fun es => assignAll es (pairs.map keyed)) = _
    rw [hassign, Option.bind_some, hrest, List.append_assoc]
    rfl

theorem addTable_new (hkey : key ∉ es.map (·.1)) (hpairs : (pairs.map (·.1)).Nodup) :
    es.addTable [] key (pairs.map keyed) = some (es ++ [(key, .table .header (pairs.map valueEntry))]) := by
  have hassign : assignAll [] (pairs.map keyed) = some (pairs.map valueEntry) := assignAll_pairs hpairs
  rw [← put_of_new hkey]
  simp only [addTable, change, lookup_of_new hkey]
  simp [hassign]

theorem addItem_new (hkey : key ∉ es.map (·.1)) (hpairs : (pairs.map (·.1)).Nodup) :
    es.addItem [] key (pairs.map keyed) = some (es ++ [(key, .tables [pairs.map valueEntry])]) := by
  have hassign : assignAll [] (pairs.map keyed) = some (pairs.map valueEntry) := assignAll_pairs hpairs
  rw [← put_of_new hkey]
  simp only [addItem, change, lookup_of_new hkey]
  simp [hassign]

theorem addItem_last (hkey : key ∉ es.map (·.1)) (ts : List Entries) (hpairs : (pairs.map (·.1)).Nodup) :
    (es ++ [(key, .tables ts)] : Entries).addItem [] key (pairs.map keyed) =
      some (es ++ [(key, .tables (ts ++ [pairs.map valueEntry]))]) := by
  have hassign : assignAll [] (pairs.map keyed) = some (pairs.map valueEntry) := assignAll_pairs hpairs
  simp only [addItem, change, lookup_last hkey]
  simp [hassign, put_last hkey]

theorem addItems_last (hkey : key ∉ es.map (·.1)) (ts : List Entries) {items : List (List (String × Scalar))}
    (hitems : ∀ pairs ∈ items, (pairs.map (·.1)).Nodup) :
    (items.map fun pairs => (([], key), true, pairs.map keyed)).foldlM addHeader (es ++ [(key, .tables ts)]) =
      some (es ++ [(key, .tables (ts ++ items.map (·.map valueEntry)))]) := by
  induction items generalizing ts with
  | nil =>
    rw [List.map_nil, List.map_nil, List.append_nil]
    rfl
  | cons pairs items ih =>
    obtain ⟨hpairs, hrest⟩ := List.forall_mem_cons.1 hitems
    have hitem : addHeader (es ++ [(key, .tables ts)]) (([], key), true, pairs.map keyed) = _ :=
      addItem_last hkey ts hpairs
    rw [List.map_cons, List.foldlM_cons, hitem]
    show List.foldlM addHeader _ _ = _
    rw [ih _ hrest, List.append_assoc]
    rfl

/-- The entry of several tables, if there are any. -/
def itemsEntry (key : String) (items : List (List (String × Scalar))) : Entries :=
  if items.isEmpty then [] else [(key, .tables (items.map (·.map valueEntry)))]

theorem addItems_new {items : List (List (String × Scalar))} (hkey : items ≠ [] → key ∉ es.map (·.1))
    (hitems : ∀ pairs ∈ items, (pairs.map (·.1)).Nodup) :
    (items.map fun pairs => (([], key), true, pairs.map keyed)).foldlM addHeader es =
      some (es ++ itemsEntry key items) := by
  cases items with
  | nil => exact congrArg some (List.append_nil es).symm
  | cons pairs items =>
    obtain ⟨hpairs, hrest⟩ := List.forall_mem_cons.1 hitems
    have hnew := hkey (List.cons_ne_nil pairs items)
    have hitem : addHeader es (([], key), true, pairs.map keyed) = _ := addItem_new hnew hpairs
    rw [List.map_cons, List.foldlM_cons, hitem]
    exact addItems_last hnew _ hrest

end Entries

/-! ## Files -/

namespace Layout

variable {l : Layout}

/-- The entries of the pairs at the front and of the table. -/
def leadingEntries (l : Layout) : Entries :=
  l.front.map valueEntry ++ [(l.tableKey, .table .header (l.table.map valueEntry))]

/-- The entries of a file. -/
def entries (l : Layout) : Entries :=
  l.leadingEntries ++ Entries.itemsEntry l.itemsKey l.items

theorem map_fst_valueEntry (pairs : List (String × Scalar)) :
    (pairs.map valueEntry).map (·.1) = pairs.map (·.1) := by
  simp [valueEntry, Function.comp_def]

/-- The statements of a file. -/
def statements (l : Layout) : List Statement :=
  l.front.map pairStatement ++ .header ([], l.tableKey) false ::
    (l.table.map pairStatement ++ itemStatements l.itemsKey l.items)

theorem build?_statements (h : l.WellFormed) : build? l.statements = some l.entries := by
  have hfront : Entries.assignAll [] (l.front.map keyed) = some (l.front.map valueEntry) :=
    Entries.assignAll_pairs (h.keys l.front List.mem_cons_self).2
  have htableKey : l.tableKey ∉ (l.front.map valueEntry).map (·.1) := by
    rw [map_fst_valueEntry]
    exact h.tableKey_new
  have htable : Entries.addHeader (l.front.map valueEntry) (([], l.tableKey), false, l.table.map keyed) =
      some l.leadingEntries := Entries.addTable_new htableKey (h.keys l.table (by simp [parts])).2
  have hitemsKey : l.items ≠ [] → l.itemsKey ∉ l.leadingEntries.map (·.1) := by
    intro hne
    obtain ⟨hnew, hother⟩ := h.itemsKey_new hne
    rw [leadingEntries, List.map_append, map_fst_valueEntry]
    simpa [hother] using hnew
  have hitems := Entries.addItems_new hitemsKey fun pairs hpairs => (h.keys pairs (by simp [parts, hpairs])).2
  have hsections : Toml.sections l.statements = (l.front.map keyed,
      (([], l.tableKey), false, l.table.map keyed) ::
        l.items.map fun pairs => (([], l.itemsKey), true, pairs.map keyed)) := by
    rw [statements, sections_pairs, sections_table, sections_items, List.append_nil, List.append_nil]
  rw [build?_eq, hsections, hfront, Option.bind_some, List.foldlM_cons, htable]
  exact hitems

theorem entriesToJson_pairs (pairs : List (String × Scalar)) :
    Node.entriesToJson (pairs.map valueEntry) = members pairs := by
  rw [Node.entriesToJson_eq, List.map_map]
  rfl

theorem toJson_entries (l : Layout) : l.entries.toJson = l.document := by
  have htable : Node.entriesToJson [(l.tableKey, .table .header (l.table.map valueEntry))] =
      [(l.tableKey, .ofMembers (members l.table))] := by
    rw [← entriesToJson_pairs]
    rfl
  have hitems : Node.entriesToJson (Entries.itemsEntry l.itemsKey l.items) =
      if l.items.isEmpty then []
      else [(l.itemsKey, .arr (l.items.map fun pairs => .ofMembers (members pairs)))] := by
    unfold Entries.itemsEntry
    by_cases hempty : l.items.isEmpty = true
    · rw [if_pos hempty, if_pos hempty]
      rfl
    · rw [if_neg hempty, if_neg hempty]
      show [(l.itemsKey, Json.arr (Node.tablesToJson (l.items.map (·.map valueEntry))))] = _
      simp only [Node.tablesToJson_eq, List.map_map, Function.comp_def, entriesToJson_pairs]
  show Json.ofMembers (Node.entriesToJson l.entries) = _
  rw [entries, leadingEntries, Node.entriesToJson_append, Node.entriesToJson_append, entriesToJson_pairs, hitems, htable]
  rfl

theorem map_fst_members (pairs : List (String × Scalar)) : (members pairs).map (·.1) = pairs.map (·.1) := by
  simp [members, Function.comp_def]

/-- Every member of a file has a name of its own. -/
theorem nodup_documentMembers (h : l.WellFormed) : (l.documentMembers.map (·.1)).Nodup := by
  have hfront : (l.front.map (·.1)).Nodup := (h.keys l.front List.mem_cons_self).2
  have htable : (l.front.map (·.1) ++ [l.tableKey]).Nodup := by
    rw [List.nodup_append]
    refine ⟨hfront, List.nodup_singleton _, ?_⟩
    rintro key hkey _ hlast rfl
    rw [List.mem_singleton.1 hlast] at hkey
    exact h.tableKey_new hkey
  unfold documentMembers
  rw [List.map_append, List.map_append, map_fst_members]
  by_cases hempty : l.items.isEmpty = true
  · rw [if_pos hempty]
    simpa using htable
  · obtain ⟨hnew, hne⟩ := h.itemsKey_new (by simpa using hempty)
    rw [if_neg hempty, List.nodup_append]
    refine ⟨htable, List.nodup_singleton _, ?_⟩
    rintro key hkey _ hlast rfl
    rw [List.mem_singleton.1 hlast] at hkey
    rcases List.mem_append.1 hkey with hkey | hkey
    · exact hnew hkey
    · exact hne (List.mem_singleton.1 hkey)

/-- The sections of a file say its statements. -/
theorem reads_sections (h : l.WellFormed) : Reads (render l.sections).toList l.statements := by
  have hparts : ∀ pairs ∈ l.parts, ∀ p ∈ pairs, isBareKey p.1 = true ∧ p.2.Fits := by
    intro pairs hpairs p hp
    exact ⟨(h.keys pairs hpairs).1 p.1 (List.mem_map_of_mem hp), h.fits pairs hpairs p hp⟩
  have hitems : List.Forall₂ Section.Says
      (l.items.map fun pairs => { header := some (headerLine l.itemsKey true), pairs })
      (l.items.map fun pairs => .header ([], l.itemsKey) true :: pairs.map pairStatement) := by
    rw [List.forall₂_map_left_iff, List.forall₂_map_right_iff, List.forall₂_same]
    exact fun pairs hpairs =>
      .table true h.itemsKey_bare (hparts pairs (List.mem_cons_of_mem _ (List.mem_cons_of_mem _ hpairs)))
  have hsays : List.Forall₂ Section.Says l.sections
      (l.front.map pairStatement :: (.header ([], l.tableKey) false :: l.table.map pairStatement) ::
        l.items.map fun pairs => .header ([], l.itemsKey) true :: pairs.map pairStatement) :=
    .cons (.front (hparts l.front List.mem_cons_self))
      (.cons (.table false h.tableKey_bare (hparts l.table (List.mem_cons_of_mem _ List.mem_cons_self))) hitems)
  exact reads_render hsays

end Layout

/-- No statement begins with the mark of the byte order. -/
theorem Reads.head_ne {s : List Char} (h : Reads s ys) (t : List Char) : s ≠ '\ufeff' :: t := by
  rintro rfl
  have hread := h (t.length + 2) (by simp)
  cases hread

/-- A file in three parts is read back. -/
theorem parse?_render {l : Layout} (h : l.WellFormed) : parse? (render l.sections) = some l.document := by
  have hreads := l.reads_sections h
  have hstatements := hreads ((render l.sections).toList.length + 1) (Nat.lt_succ_self _)
  unfold parse?
  split
  · next t heq => exact absurd heq (hreads.head_ne t)
  · show ((statements? _ (render l.sections).toList).bind build?).map Entries.toJson = _
    rw [hstatements, Option.bind_some, Layout.build?_statements h, Option.map_some, Layout.toJson_entries]

end JiraQuery.Toml
