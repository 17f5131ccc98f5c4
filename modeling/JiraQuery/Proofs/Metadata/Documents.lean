import JiraQuery.Proofs.Metadata.Plain

/-!
# Values and their texts

A value that was read from a text and is written comes back as itself if, and only if, each double in it
does: doubles stand only in the fields of issues that have no type of their own. Main statement:
`ofText?_text_iff`.
-/

namespace JiraQuery

open Json (Readable Rereads againItems againMembers)

namespace Wire

variable {α : Type} [Wire α]

/-- The text of a value. -/
def text (v : α) : String :=
  (encode v).render

/-- The value that a text holds. -/
def ofText? (text : String) : Option α :=
  (Json.parse? text).bind decode?

/-- The value that comes back when a value is written and read. -/
def reread? (v : α) : Option α :=
  (encode v).again.bind decode?

theorem ofText?_text {v : α} (h : (encode v).Fits 127) : ofText? (text v) = reread? v := by
  unfold ofText? text reread?
  rw [Json.parse?_render h]

theorem reread?_of_plain {n : ℕ} [PlainWire α n] (v : α) : reread? v = some v := by
  unfold reread?
  rw [(PlainWire.plain_encode v).again_eq]
  exact PlainWire.decode_canonical v

omit [Wire α] in
/-- A value that comes back in one of its parts only comes back if this part does. -/
theorem map_eq_some_self_iff {β : Type} (part : α → β) {put : β → α} {x : α} {o : Option β}
    (hpart : ∀ y, part (put y) = y) (hput : put (part x) = x) : o.map put = some x ↔ o = some (part x) := by
  constructor
  · intro h
    obtain ⟨y, hy, rfl⟩ := Option.map_eq_some_iff.1 h
    rw [hpart, hy]
  · intro h
    rw [h, Option.map_some, hput]

/-! ## Lists -/

theorem reread?_cons (x : α) (xs : List α) :
    reread? (x :: xs) = (reread? x).bind fun y => (reread? xs).map (y :: ·) := by
  have hlist : ∀ xs : List α, reread? xs = (againItems (xs.map encode)).bind (·.mapM decode?) := by
    intro xs
    show ((againItems (xs.map encode)).map Json.arr).bind decode? = _
    cases againItems (xs.map encode) <;> rfl
  rw [hlist, hlist, List.map_cons, againItems]
  unfold reread?
  cases (encode x).again with
  | none => rfl
  | some w =>
    cases againItems (xs.map encode) with
    | none =>
      show none = (decode? w).bind fun _ => none
      cases decode? (α := α) w <;> rfl
    | some ws =>
      show (w :: ws).mapM decode? = (decode? w).bind fun y => (ws.mapM decode?).map (y :: ·)
      rw [List.mapM_cons]
      cases decode? (α := α) w with
      | none => rfl
      | some y => cases ws.mapM (decode? (α := α)) <;> rfl

/-- The items of a list were read with it. -/
theorem readable_of_decode_list {n : ℕ} {j : Json} {xs : List α} (hj : j.Readable n)
    (h : decode? j = some xs) : ∀ x ∈ xs, ∃ j' : Json, j'.Readable (n - 1) ∧ decode? j' = some x := by
  cases j with
  | arr items =>
    have hitems : ∀ item ∈ items, item.Readable (n - 1) := fun item hitem => hj.of_mem_arr hitem
    replace h : items.mapM decode? = some xs := h
    clear hj
    induction items generalizing xs with
    | nil =>
      obtain rfl := Option.some.inj h
      exact List.forall_mem_nil _
    | cons item items ih =>
      rw [List.mapM_cons] at h
      obtain ⟨y, hy, h⟩ := Option.bind_eq_some_iff.1 h
      obtain ⟨ys, hys, h⟩ := Option.bind_eq_some_iff.1 h
      obtain rfl := Option.some.inj h
      exact List.forall_mem_cons.2 ⟨⟨item, hitems item List.mem_cons_self, hy⟩,
        ih (fun i hi => hitems i (List.mem_cons_of_mem item hi)) hys⟩
  | _ => cases h

/-- A list comes back if each of its items does. -/
theorem reread?_list_eq_iff (xs : List α) : reread? xs = some xs ↔ ∀ x ∈ xs, reread? x = some x := by
  induction xs with
  | nil => exact ⟨fun _ => List.forall_mem_nil _, fun _ => rfl⟩
  | cons x xs ih =>
    rw [reread?_cons, List.forall_mem_cons, ← ih]
    constructor
    · intro h
      obtain ⟨y, hy, h⟩ := Option.bind_eq_some_iff.1 h
      obtain ⟨ys, hys, h⟩ := Option.map_eq_some_iff.1 h
      obtain ⟨rfl, rfl⟩ := List.cons.inj h
      exact ⟨hy, hys⟩
    · rintro ⟨hx, hxs⟩
      rw [hx, hxs]
      rfl

theorem doubles_encode_list (xs : List α) : (encode xs).doubles = xs.flatMap fun x => (encode x).doubles := by
  show (Json.arr (xs.map encode)).doubles = _
  rw [Json.doubles_arr, List.flatMap_map]

end Wire

open Wire

/-! ## Fields of issues -/

namespace IssueFields

variable {n : ℕ} {f : IssueFields} {ms ns : List (String × Json)}

/-- The fields of an issue that was read: those without a type are in order. -/
structure Kept (n : ℕ) (f : IssueFields) : Prop where
  sorted : Members.Sorted f.other
  readable : ∀ m ∈ f.other, m.2.Readable n

theorem kept_default : ({} : IssueFields).Kept n :=
  ⟨List.Pairwise.nil, List.forall_mem_nil _⟩

theorem other_of_ofMembers? (h : ofMembers? ms = some f) : f.other = ms.filter (!isDeclared ·.1) := by
  unfold ofMembers? at h
  iterate 15 obtain ⟨_, -, h⟩ := Option.bind_eq_some_iff.1 h
  exact (congrArg other (Option.some.inj h)).symm

theorem kept_of_readable {j : Json} (hj : j.Readable n) (h : decode? j = some f) : f.Kept (n - 1) := by
  cases j with
  | obj ms =>
    have hother : f.other = ms.filter (!isDeclared ·.1) := other_of_ofMembers? h
    refine ⟨?_, fun m hm => ?_⟩
    · rw [hother]
      exact hj.sorted.filter _
    · rw [hother] at hm
      exact hj.of_mem_obj (List.mem_of_mem_filter hm)
  | _ => cases h

/-- The members for the fields with a type of their own, as they come back. -/
def typedAgain (f : IssueFields) : List (String × Json) :=
  f.typedMembers.map fun m => (m.1, m.2.canonical)

theorem plain_typedMembers (f : IssueFields) : ∀ m ∈ f.typedMembers, m.2.Plain 2 := by
  simp [typedMembers, plain_encode]

theorem names_typedAgain (f : IssueFields) : f.typedAgain.map (·.1) = declared := rfl

theorem again_encode (f : IssueFields) :
    (encode f).again = (againMembers f.other).map fun ns => .ofMembers (f.typedAgain ++ ns) := by
  show (againMembers (f.typedMembers ++ f.other)).map Json.ofMembers = _
  have htyped : againMembers f.typedMembers = some f.typedAgain :=
    Json.againMembers_eq_map fun m hm => (f.plain_typedMembers m hm).again_eq
  rw [Json.againMembers_append, htyped, Option.bind_some, Option.map_map, Function.comp_def]

theorem doubles_encode (f : IssueFields) : (encode f).doubles = (Json.obj f.other).doubles := by
  show (Json.obj (f.typedMembers ++ f.other)).doubles = _
  rw [Json.doubles_obj, Json.doubles_obj, List.flatMap_append,
    List.flatMap_eq_nil_iff.2 fun m hm => (f.plain_typedMembers m hm).doubles_eq, List.nil_append]

/-- Names of fields without a type are no names of other ones. -/
theorem nodup_names (f : IssueFields) (hns : Members.Sorted ns) (hnames : ∀ m ∈ ns, isDeclared m.1 = false) :
    ((f.typedAgain ++ ns).map (·.1)).Nodup := by
  rw [List.map_append, names_typedAgain]
  refine List.nodup_append.2 ⟨by decide, hns.nodup, fun a ha b hb => ?_⟩
  rintro rfl
  obtain ⟨m, hm, rfl⟩ := List.mem_map.1 hb
  have hdeclared : isDeclared m.1 = true := List.contains_iff_mem.2 ha
  rw [hnames m hm] at hdeclared
  cases hdeclared

/-- Of what comes back, the members without a type are those that were written without one. -/
theorem filter_readBack (f : IssueFields) (hns : Members.Sorted ns)
    (hnames : ∀ m ∈ ns, isDeclared m.1 = false) :
    (Members.ofList (f.typedAgain ++ ns)).filter (!isDeclared ·.1) = ns := by
  refine Members.ext_of_sorted ((Members.sorted_ofList _).filter _) hns fun name => ?_
  rw [Members.get?_filter (fun name => !isDeclared name), Members.get?_ofList (f.nodup_names hns hnames)]
  cases hdeclared : isDeclared name with
  | true =>
    refine (Members.get?_eq_none fun m hm heq => ?_).symm
    rw [← heq, hnames m hm] at hdeclared
    cases hdeclared
  | false =>
    have htyped : Members.get? f.typedAgain name = none := Members.get?_eq_none fun m hm heq => by
      have hmem : m.1 ∈ declared := f.names_typedAgain ▸ List.mem_map_of_mem hm
      rw [← heq, isDeclared, List.contains_iff_mem.2 hmem] at hdeclared
      cases hdeclared
    rw [Members.get?_append, htyped]
    rfl

theorem decode_readBack (f : IssueFields) (hns : Members.Sorted ns)
    (hnames : ∀ m ∈ ns, isDeclared m.1 = false) :
    decode? (.ofMembers (f.typedAgain ++ ns)) = some { f with other := ns, other_undeclared := hnames } := by
  show ofMembers? (Members.ofList (f.typedAgain ++ ns)) = _
  simp only [ofMembers?, filter_readBack f hns hnames, Record.optional_named, Record.withDefault_named,
    Members.get?_ofList (f.nodup_names hns hnames)]
  simp [typedAgain, typedMembers, Members.get?_cons]

theorem Kept.canonical_eq (h : f.Kept n) : (Json.obj f.other).canonical = .obj f.other :=
  Json.canonical_obj_eq_self_iff.2 ⟨h.sorted, fun m hm => (h.readable m hm).canonical_eq⟩

/-- The fields of an issue come back if the doubles in them do. -/
theorem Kept.reread?_eq_iff (h : f.Kept n) : reread? f = some f ↔ ∀ x ∈ (encode f).doubles, Rereads x := by
  have hreread : reread? f = (againMembers f.other).bind fun ns => decode? (.ofMembers (f.typedAgain ++ ns)) := by
    unfold reread?
    rw [again_encode]
    cases againMembers f.other <;> rfl
  rw [hreread, doubles_encode]
  constructor
  · intro hback
    obtain ⟨ns, hns, hdecode⟩ := Option.bind_eq_some_iff.1 hback
    -- The names come back as they were, so the members without a type are found among all again.
    have hnames := Json.names_of_againMembers hns
    have hsorted : Members.Sorted ns := by
      rw [Members.sorted_iff_names, hnames]
      exact Members.sorted_iff_names.1 h.sorted
    have hundeclared : ∀ m ∈ ns, isDeclared m.1 = false := by
      intro m hm
      obtain ⟨m', hm', heq⟩ := List.mem_map.1 (hnames ▸ List.mem_map_of_mem hm : m.1 ∈ f.other.map (·.1))
      exact heq ▸ f.other_undeclared m' hm'
    rw [decode_readBack f hsorted hundeclared] at hdecode
    have hother : ns = f.other := congrArg other (Option.some.inj hdecode)
    refine Json.rereads_of_again_eq h.canonical_eq ?_
    rw [Json.again, hns, hother, Option.map_some, Json.ofMembers, Members.ofList_of_sorted h.sorted]
  · intro hdoubles
    have hother : againMembers f.other = some f.other := by
      rw [Json.doubles_obj] at hdoubles
      have hagain : ∀ m ∈ f.other, m.2.again = some m.2.canonical := fun m hm =>
        Json.again_eq_canonical fun x hx => hdoubles x (List.mem_flatMap.2 ⟨m, hm, hx⟩)
      rw [Json.againMembers_eq_map hagain]
      refine congrArg some ((List.map_congr_left fun m hm => ?_).trans (List.map_id _))
      rw [(h.readable m hm).canonical_eq]
      rfl
    rw [hother, Option.bind_some, decode_readBack f h.sorted f.other_undeclared]

/-- A value in the fields lies two levels below the issue. -/
theorem Kept.fits (h : f.Kept n) (hn : 2 ≤ n) : (encode f).Fits (n + 1) := by
  refine .obj fun m hm => ?_
  rcases List.mem_append.1 hm with hm | hm
  · exact ((f.plain_typedMembers m hm).mono hn).fits
  · exact (h.readable m hm).fits

end IssueFields

/-! ## Records that were read -/

namespace Record

variable {n i arity : ℕ} {name : String} {r : Record} {j value : Json}

theorem withDefault_cases {α : Type} [Wire α] {d x : α} (h : r.withDefault i name d = some x) :
    x = d ∨ ∃ value, r.find? i name = some value ∧ decode? value = some x := by
  unfold withDefault at h
  cases hfind : r.find? i name with
  | none =>
    rw [hfind] at h
    exact .inl (Option.some.inj h).symm
  | some value =>
    rw [hfind] at h
    exact .inr ⟨value, rfl, h⟩

theorem ofJson?_of_within (h : ofJsonWithin? arity j = some r) : ofJson? j = some r := by
  unfold ofJsonWithin? at h
  split at h
  · next heq =>
    split at h
    · exact heq.trans h
    · cases h
  · exact h

/-- What a record holds was read with it. -/
theorem readable_of_find? (hj : j.Readable n) (hr : ofJsonWithin? arity j = some r)
    (hvalue : r.find? i name = some value) : value.Readable (n - 1) := by
  unfold ofJsonWithin? ofJson? at hr
  cases j with
  | obj ms =>
    obtain rfl := Option.some.inj hr
    exact hj.of_mem_obj (Members.mem_of_get? hvalue)
  | arr xs =>
    dsimp only at hr
    split at hr
    · obtain rfl := Option.some.inj hr
      exact hj.of_mem_arr (List.mem_of_getElem? hvalue)
    · cases hr
  | _ => cases hr

end Record

/-! ## Documents of values -/

/-- Values that come back if the doubles in their documents do. -/
class Document (α : Type) [Wire α] where
  /-- What is known of a value that was read within so many levels. -/
  Kept : ℕ → α → Prop
  /-- How many levels such values may have of themselves. -/
  levels : ℕ
  kept_of_readable {n : ℕ} {j : Json} {v : α} : j.Readable n → decode? j = some v → Kept n v
  fits_of_kept {n : ℕ} {v : α} : levels ≤ n → Kept n v → (encode v).Fits n
  reread?_eq_iff {n : ℕ} {v : α} : Kept n v → (reread? v = some v ↔ ∀ x ∈ (encode v).doubles, Rereads x)

instance {α : Type} {n : ℕ} [Wire α] [PlainWire α n] : Document α where
  Kept _ _ := True
  levels := n
  kept_of_readable _ _ := trivial
  fits_of_kept hn _ := (plain_encode _ hn).fits
  reread?_eq_iff {_ v} _ := by
    rw [reread?_of_plain, (PlainWire.plain_encode v).doubles_eq]
    exact ⟨fun _ => List.forall_mem_nil _, fun _ => rfl⟩

namespace Issue

variable {n : ℕ} {i : Issue}

theorem again_encode (i : Issue) :
    (encode i).again = (encode i.fields).again.map fun w =>
      .ofMembers [("id", .str i.id), ("key", .str i.key), ("self", .str i.self), ("fields", w)] := by
  show (againMembers [("id", .str i.id), ("key", .str i.key), ("self", .str i.self),
    ("fields", encode i.fields)]).map Json.ofMembers = _
  simp only [againMembers, Json.again]
  cases (encode i.fields).again <;> rfl

theorem reread?_eq (i : Issue) : reread? i = (reread? i.fields).map fun f => { i with fields := f } := by
  unfold reread?
  rw [again_encode]
  cases (encode i.fields).again with
  | none => rfl
  | some w =>
    show ofJson? (.ofMembers _) = (decode? w).map fun f => { i with fields := f }
    have htext : ∀ s, decode? (Json.str s) = some s := fun _ => rfl
    simp [ofJson?, Json.ofMembers, Members.ofList, Members.get?_insert, htext,
      Option.map_eq_bind]

theorem doubles_encode (i : Issue) : (encode i).doubles = (encode i.fields).doubles := by
  show (Json.obj [("id", .str i.id), ("key", .str i.key), ("self", .str i.self),
    ("fields", encode i.fields)]).doubles = _
  rw [Json.doubles_obj]
  simp [Json.doubles]

/-- The fields of an issue were read with it. -/
theorem kept_of_readable {j : Json} (hj : j.Readable n) (h : decode? j = some i) :
    i.fields.Kept (n - 1 - 1) := by
  obtain ⟨r, hr, h⟩ := Option.bind_eq_some_iff.1 h
  iterate 3 obtain ⟨_, -, h⟩ := Option.bind_eq_some_iff.1 h
  obtain ⟨f, hf, h⟩ := Option.bind_eq_some_iff.1 h
  obtain rfl := Option.some.inj h
  rcases Record.withDefault_cases hf with rfl | ⟨value, hvalue, hf⟩
  · exact IssueFields.kept_default
  · exact IssueFields.kept_of_readable (Record.readable_of_find? hj hr hvalue) hf

theorem fits {k : ℕ} (h : i.fields.Kept k) (hk : 2 ≤ k) : (encode i).Fits (k + 2) := by
  refine .obj fun m hm => ?_
  simp only [List.mem_cons, List.not_mem_nil, or_false] at hm
  rcases hm with rfl | rfl | rfl | rfl
  · exact .str _
  · exact .str _
  · exact .str _
  · exact h.fits hk

instance : Document Issue where
  Kept n i := i.fields.Kept (n - 1 - 1)
  levels := 4
  kept_of_readable := kept_of_readable
  fits_of_kept {n i} hn h := (fits h (by omega)).mono (by omega)
  reread?_eq_iff {n i} h := by
    rw [reread?_eq, doubles_encode, ← h.reread?_eq_iff]
    exact map_eq_some_self_iff Issue.fields (fun _ => rfl) rfl

end Issue

/-! ## Pages -/

namespace Page

variable {α : Type} {n : ℕ} [Wire α]

theorem again_encode (p : Page α) :
    (encode p).again = (encode p.items).again.map fun w =>
      .ofMembers [("startAt", encode p.startAt), ("maxResults", encode p.maxResults),
        ("total", encode p.total), ("items", w)] := by
  show (againMembers [("startAt", .int p.startAt.toNat), ("maxResults", .int p.maxResults.toNat),
    ("total", .int p.total.toNat), ("items", encode p.items)]).map Json.ofMembers = _
  simp only [againMembers, Json.again]
  cases (encode p.items).again <;> rfl

theorem reread?_eq (p : Page α) : reread? p = (reread? p.items).map fun xs => { p with items := xs } := by
  unfold reread?
  rw [again_encode]
  cases (encode p.items).again with
  | none => rfl
  | some w =>
    show ofJson? (.ofMembers _) = (decode? w).map fun xs => { p with items := xs }
    simp [ofJson?, itemsOf?, itemNames, Json.ofMembers, Members.ofList, Members.get?_insert,
      Option.map_eq_bind]

theorem doubles_encode (p : Page α) : (encode p).doubles = (encode p.items).doubles := by
  show (Json.obj [("startAt", .int p.startAt.toNat), ("maxResults", .int p.maxResults.toNat),
    ("total", .int p.total.toNat), ("items", encode p.items)]).doubles = _
  rw [Json.doubles_obj]
  simp [Json.doubles]

theorem readable_of_itemsOf? {r : Record} {xs : List α}
    (hr : ∀ i name value, r.find? i name = some value → value.Readable n) (h : itemsOf? r = some xs) :
    ∀ x ∈ xs, ∃ j : Json, j.Readable (n - 1) ∧ decode? j = some x := by
  cases r with
  | named ms =>
    unfold itemsOf? at h
    dsimp only at h
    split at h
    · obtain rfl := Option.some.inj h
      exact List.forall_mem_nil _
    · next value heq =>
      have hmem : value ∈ itemNames.filterMap ms.get? := heq ▸ List.mem_singleton_self value
      obtain ⟨name, -, hname⟩ := List.mem_filterMap.1 hmem
      exact readable_of_decode_list (hr 0 name value hname) h
    · cases h
  | positional items =>
    rcases Record.withDefault_cases h with rfl | ⟨value, hvalue, h⟩
    · exact List.forall_mem_nil _
    · exact readable_of_decode_list (hr 3 "items" value hvalue) h

/-- The items of a page were read two levels below it. -/
theorem readable_of_decode {j : Json} {p : Page α} (hj : j.Readable n) (h : decode? j = some p) :
    ∀ x ∈ p.items, ∃ j' : Json, j'.Readable (n - 1 - 1) ∧ decode? j' = some x := by
  obtain ⟨r, hr, h⟩ := Option.bind_eq_some_iff.1 h
  iterate 3 obtain ⟨_, -, h⟩ := Option.bind_eq_some_iff.1 h
  obtain ⟨xs, hxs, h⟩ := Option.bind_eq_some_iff.1 h
  obtain rfl := Option.some.inj h
  exact readable_of_itemsOf? (fun _ _ _ => Record.readable_of_find? hj hr) hxs

theorem fits {k : ℕ} {p : Page α} (h : ∀ x ∈ p.items, (encode x).Fits k) : (encode p).Fits (k + 2) := by
  have hcount : ∀ c : UInt32, (encode c).Fits (k + 1) := fun c => (plain_encode c (Nat.zero_le _)).fits
  refine .obj fun m hm => ?_
  simp only [List.mem_cons, List.not_mem_nil, or_false] at hm
  rcases hm with rfl | rfl | rfl | rfl
  · exact hcount p.startAt
  · exact hcount p.maxResults
  · exact hcount p.total
  · refine .arr fun j hj => ?_
    obtain ⟨x, hx, rfl⟩ := List.mem_map.1 hj
    exact h x hx

instance [Document α] : Document (Page α) where
  Kept n p := ∀ x ∈ p.items, Document.Kept (n - 1 - 1) x
  levels := Document.levels α + 2
  kept_of_readable hj h x hx := by
    obtain ⟨j, hread, hx⟩ := readable_of_decode hj h x hx
    exact Document.kept_of_readable hread hx
  fits_of_kept {n p} hn h := by
    have hitems : ∀ x ∈ p.items, (encode x).Fits (n - 2) := fun x hx =>
      Document.fits_of_kept (by omega) (h x hx)
    exact (fits hitems).mono (by omega)
  reread?_eq_iff {n p} h := by
    have hitems : reread? p = some p ↔ reread? p.items = some p.items := by
      rw [reread?_eq]
      exact map_eq_some_self_iff Page.items (fun _ => rfl) rfl
    rw [hitems, reread?_list_eq_iff, doubles_encode, doubles_encode_list]
    constructor
    · intro hback d hd
      obtain ⟨x, hx, hd⟩ := List.mem_flatMap.1 hd
      exact (Document.reread?_eq_iff (h x hx)).1 (hback x hx) d hd
    · intro hdoubles x hx
      exact (Document.reread?_eq_iff (h x hx)).2 fun d hd => hdoubles d (List.mem_flatMap.2 ⟨x, hx, hd⟩)

end Page

/-- A value that was read from a text comes back from its own text exactly if its doubles do. -/
theorem ofText?_text_iff {α : Type} [Wire α] [Document α] (hlevels : Document.levels α ≤ 127) {t : String}
    {v : α} (h : ofText? t = some v) :
    ofText? (text v) = some v ↔ ∀ x ∈ (encode v).doubles, Rereads x := by
  obtain ⟨j, hj, hv⟩ := Option.bind_eq_some_iff.1 h
  have hkept := Document.kept_of_readable (Json.readable_of_parse? hj) hv
  rw [ofText?_text (Document.fits_of_kept hlevels hkept)]
  exact Document.reread?_eq_iff hkept

end JiraQuery
