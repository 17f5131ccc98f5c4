import JiraQuery.Proofs.Handle.Calls

/-!
# What a handle remembers

A collection is fetched by one call and had by all later ones; a failure leaves nothing behind. Main
statement: `Handle.remembers`, about any calls through a handle to a server that answers as it likes.
-/

namespace JiraQuery

/-! ## What is known -/

namespace Kind

variable {k : Kind} {c : Call} {s : Site} {p : Except Error c.Answer × Site}

theorem Extends.refl (a : k.Answer) : Extends a a := by
  cases k with
  | collection k => exact List.prefix_refl _
  | currentUser => rfl

theorem Extends.trans {a b d : k.Answer} (hab : Extends a b) (hbd : Extends b d) : Extends a d := by
  cases k with
  | collection k => exact List.IsPrefix.trans hab hbd
  | currentUser => exact Eq.trans hab hbd

theorem known_tryAdd_of_none {k : Collection} {s : Store k.Item} (x : k.Item)
    (h : known? (k := .collection k) s = none) : known? (k := .collection k) (s.tryAdd x).2 = none :=
  known_eq_none_iff.2 (known_eq_none_iff.1 h :)

/-- A collection that is known is longer by at most one entity. -/
theorem known_tryAdd_of_some {k : Collection} {s : Store k.Item} {xs : List k.Item} (x : k.Item)
    (h : known? (k := .collection k) s = some xs) :
    ∃ ys, known? (k := .collection k) (s.tryAdd x).2 = some ys ∧ Extends (k := .collection k) xs ys := by
  obtain ⟨hall, rfl⟩ := known_eq_some_iff.1 h
  exact ⟨_, known_eq_some_iff.2 ⟨hall, rfl⟩, Entity.prefix_addNew s.entries x⟩

/-- What is known stays known, and only grows. -/
theorem extends_of_turn (hturn : Handle.Turn c s p) {a : k.Answer} (ha : known? (k.stock s.cache) = some a) :
    ∃ b, known? (k.stock p.2.cache) = some b ∧ Extends a b := by
  cases hturn with
  | known _ => exact ⟨a, ha, .refl a⟩
  | failed _ hstock => exact ⟨a, (hstock k).symm ▸ ha, .refl a⟩
  | fetched hknown _ hkept hothers =>
    -- of what it knows, a call asks the server for a single entity only
    by_cases hk : k = c.kind
    · subst hk
      cases c with
      | all k => cases hknown.symm.trans ha
      | status key | project key =>
        rw [show stock _ _ = _ from hkept]
        exact known_tryAdd_of_some _ ha
    · exact ⟨a, (hothers k hk).symm ▸ ha, .refl a⟩

/-- Only a call for all of a kind makes it known. -/
theorem unknown_of_turn (hturn : Handle.Turn c s p) (hc : c ≠ .all k)
    (hunknown : known? (k.stock s.cache) = none) : known? (k.stock p.2.cache) = none := by
  cases hturn with
  | known _ => exact hunknown
  | failed _ hstock => exact (hstock k).symm ▸ hunknown
  | fetched _ _ hkept hothers =>
    by_cases hk : k = c.kind
    · subst hk
      cases c with
      | all k => exact absurd rfl hc
      | status key | project key =>
        rw [show stock _ _ = _ from hkept]
        exact known_tryAdd_of_none _ hunknown
    · exact (hothers k hk).symm ▸ hunknown

end Kind

namespace Handle

variable {h : Handle} {k : Kind} {s m : Site} {a : k.Answer}

theorem known_of_ok (hok : h.perform (.all k) s = (.ok a, m)) : Kind.known? (k.stock m.cache) = some a := by
  have hturn := h.turn (.all k) s
  rw [hok] at hturn
  cases hturn with
  | known hknown => exact hknown
  | fetched _ _ hkept _ =>
    cases k with
    | collection k =>
      obtain ⟨ys, hstore, rfl⟩ := hkept
      exact Kind.known_eq_some_iff.2 ⟨congrArg Store.complete hstore, rfl⟩
    | currentUser => exact hkept

theorem unknown_of_error {e : Error} (herror : h.perform (.all k) s = (.error e, m)) :
    Kind.known? (k.stock m.cache) = none := by
  have hturn := h.turn (.all k) s
  rw [herror] at hturn
  cases hturn with
  | failed hknown hstock => exact (hstock k).symm ▸ hknown

theorem unknown_of_empty (k : Kind) : Kind.known? (k.stock {}) = none := by
  cases k with
  | collection k => exact Kind.known_eq_none_iff.2 (by cases k <;> rfl)
  | currentUser => rfl

theorem extends_after (calls : List Call) (ha : Kind.known? (k.stock s.cache) = some a) :
    ∃ b, Kind.known? (k.stock (h.after calls s).cache) = some b ∧ Kind.Extends a b := by
  induction calls generalizing s a with
  | nil => exact ⟨a, ha, .refl a⟩
  | cons c calls ih =>
    obtain ⟨b, hb, hab⟩ := Kind.extends_of_turn (h.turn c s) ha
    obtain ⟨d, hd, hbd⟩ := ih hb
    exact ⟨d, hd, hab.trans hbd⟩

theorem unknown_after {calls : List Call} (hcalls : .all k ∉ calls)
    (hunknown : Kind.known? (k.stock s.cache) = none) :
    Kind.known? (k.stock (h.after calls s).cache) = none := by
  induction calls generalizing s with
  | nil => exact hunknown
  | cons c calls ih =>
    obtain ⟨hc, hcalls⟩ := not_or.1 (mt List.mem_cons.2 hcalls)
    exact ih hcalls (Kind.unknown_of_turn (h.turn c s) (Ne.symm hc) hunknown)

/-! ## Fetches -/

/-- Whether a call has its answer from the server. -/
def isFetched (h : Handle) (c : Call) (s : Site) : Bool :=
  (h.perform c s).1.isOk && decide (s.link.requests.length < (h.perform c s).2.link.requests.length)

/-- How many calls for all of a kind have their answer from the server. -/
def fetches (h : Handle) (k : Kind) : List Call → Site → Nat
  | [], _ => 0
  | c :: calls, s =>
    (if c = .all k ∧ h.isFetched c s then 1 else 0) + fetches h k calls (h.perform c s).2

theorem isFetched_of_known (ha : Kind.known? (k.stock s.cache) = some a) :
    h.isFetched (.all k) s = false := by
  unfold isFetched
  rw [h.perform_of_known (c := .all k) ha]
  simp

theorem known_of_isFetched (hfetched : h.isFetched (.all k) s = true) :
    ∃ a, Kind.known? (k.stock (h.perform (.all k) s).2.cache) = some a := by
  unfold isFetched at hfetched
  rcases hp : h.perform (.all k) s with ⟨e | a, m⟩
  · rw [hp] at hfetched
    cases hfetched
  · exact ⟨a, known_of_ok hp⟩

/-- What is known is not fetched. -/
theorem fetches_of_known (calls : List Call) (ha : Kind.known? (k.stock s.cache) = some a) :
    h.fetches k calls s = 0 := by
  induction calls generalizing s a with
  | nil => rfl
  | cons c calls ih =>
    obtain ⟨b, hb, -⟩ := Kind.extends_of_turn (h.turn c s) ha
    have hc : ¬(c = .all k ∧ h.isFetched c s = true) := by
      rintro ⟨rfl, hfetched⟩
      rw [isFetched_of_known ha] at hfetched
      cases hfetched
    rw [fetches, if_neg hc, ih hb]

theorem fetches_le_one (h : Handle) (k : Kind) (calls : List Call) (s : Site) :
    h.fetches k calls s ≤ 1 := by
  induction calls generalizing s with
  | nil => exact Nat.zero_le 1
  | cons c calls ih =>
    unfold fetches
    split
    · -- with this fetch the kind is known, and no other one follows
      next hc =>
      obtain ⟨rfl, hfetched⟩ := hc
      obtain ⟨a, ha⟩ := known_of_isFetched hfetched
      rw [fetches_of_known calls ha]
    · rw [Nat.zero_add]
      exact ih _

/-! ## The memory of a handle -/

/-- What there is to rely on in the memory of a handle, whatever was asked for before. -/
structure Remembers (h : Handle) : Prop where
  /-- Of the calls for all of a kind at most one has its answer from the server. -/
  once : ∀ (k : Kind) (calls : List Call) (s : Site), h.fetches k calls s ≤ 1
  /-- Once there is an answer, every later call has one that extends it and sends nothing. -/
  kept : ∀ (k : Kind) (a : k.Answer) (calls : List Call) (s m : Site),
    h.perform (.all k) s = (.ok a, m) →
      ∃ b, h.perform (.all k) (h.after calls m) = (.ok b, h.after calls m) ∧ Kind.Extends a b
  /-- The first answer for a collection takes up what the document of the server has. -/
  answered : ∀ (k : Collection) (xs : List k.Item) (s m : Site), (k.slot.read s.cache).complete = false →
    h.perform (.all (.collection k)) s = (.ok xs, m) → ∃ j l found,
      h.client.executeRaw h.token "GET" ("rest/api/2/" ++ k.path) none s.link = (.ok j, l) ∧
        k.found? j = some found ∧ Entity.Joins (k.slot.read s.cache).entries found xs
  /-- A call that fails leaves what is known of every kind. -/
  failed : ∀ (c : Call) (e : Error) (s m : Site), h.perform c s = (.error e, m) →
    ∀ k : Kind, k.stock m.cache = k.stock s.cache
  /-- The first call for a kind asks the server, if it can be reached. -/
  first : ∀ (k : Kind) (calls : List Call) (s : Site) (answer : Server), s.cache = {} →
    .all k ∉ calls → (h.after calls s).link.Reaches h.client h.token answer →
      (h.after calls s).link.requests.length <
        (h.perform (.all k) (h.after calls s)).2.link.requests.length
  /-- After a failure the next call for the kind asks the server again, if it can be reached. -/
  again : ∀ (k : Kind) (e : Error) (calls : List Call) (s m : Site) (answer : Server),
    h.perform (.all k) s = (.error e, m) → .all k ∉ calls →
      (h.after calls m).link.Reaches h.client h.token answer →
        (h.after calls m).link.requests.length <
          (h.perform (.all k) (h.after calls m)).2.link.requests.length
  /-- A call changes nothing of other kinds than its own. -/
  apart : ∀ (c : Call) (k : Kind) (s : Site), k ≠ c.kind →
    k.stock (h.perform c s).2.cache = k.stock s.cache
  /-- Looking up a status adds to the statuses at most one that is new. -/
  status_adds : ∀ (key : String) (s : Site),
    (h.status key s).2.cache.statuses = s.cache.statuses ∨
      ∃ x, (h.status key s).2.cache.statuses = (s.cache.statuses.tryAdd x).2
  /-- Looking up a project adds to the projects at most one that is new. -/
  project_adds : ∀ (key : String) (s : Site),
    (h.project key s).2.cache.projects = s.cache.projects ∨
      ∃ x, (h.project key s).2.cache.projects = (s.cache.projects.tryAdd x).2

theorem stock_of_error {c : Call} {e : Error} (herror : h.perform c s = (.error e, m)) (k : Kind) :
    k.stock m.cache = k.stock s.cache := by
  have hturn := h.turn c s
  rw [herror] at hturn
  cases hturn with
  | failed _ hstock => exact hstock k

theorem stock_of_ne {c : Call} {p : Except Error c.Answer × Site} (hturn : Turn c s p) (hk : k ≠ c.kind) :
    k.stock p.2.cache = k.stock s.cache := by
  cases hturn with
  | known _ => rfl
  | failed _ hstock => exact hstock k
  | fetched _ _ _ hothers => exact hothers k hk

/-- A call leaves what there is of its own kind, or keeps an answer there. -/
theorem stock_eq_or_keeps {c : Call} {p : Except Error c.Answer × Site} (hturn : Turn c s p) :
    c.kind.stock p.2.cache = c.kind.stock s.cache ∨
      ∃ a, c.Keeps a (c.kind.stock s.cache) (c.kind.stock p.2.cache) := by
  cases hturn with
  | known _ => exact .inl rfl
  | failed _ hstock => exact .inl (hstock c.kind)
  | fetched _ _ hkept _ => exact .inr ⟨_, hkept⟩

/-- The entities that a collection had go on with those in the document of the server. -/
theorem joins_of_ok {k : Collection} {xs : List k.Item} (hpart : (k.slot.read s.cache).complete = false)
    (hok : h.collect k s = (.ok xs, m)) : ∃ j l found,
      h.client.executeRaw h.token "GET" ("rest/api/2/" ++ k.path) none s.link = (.ok j, l) ∧
        k.found? j = some found ∧ Entity.Joins (k.slot.read s.cache).entries found xs := by
  obtain ⟨fetch, -, hreads, hcollect⟩ := h.exists_collect_eq k
  rw [hcollect, Slot.collection_eq, hpart, if_neg Bool.false_ne_true] at hok
  replace hok := (Prod.mk.inj hok).1
  rcases hfetch : fetch s with ⟨e | found, n⟩
  · rw [hfetch] at hok
    cases hok
  · rw [hfetch] at hok
    obtain ⟨j, l, hraw, hfound⟩ := hreads _ _ _ hfetch
    obtain rfl := Except.ok.inj hok
    exact ⟨j, l, found, hraw, hfound, Entity.joins_addAllNew _ found⟩

/-- A handle fetches each of its collections once, has it from then on and loses nothing by a failure. -/
theorem remembers (h : Handle) : h.Remembers where
  once := h.fetches_le_one
  kept k a calls s m hok := by
    obtain ⟨b, hb, hab⟩ := h.extends_after calls (known_of_ok hok)
    exact ⟨b, h.perform_of_known (c := .all k) hb, hab⟩
  answered k xs s m hpart hok := joins_of_ok hpart hok
  failed c e s m herror := stock_of_error herror
  first k calls s answer hempty hcalls hl :=
    h.sent_of_reaches (unknown_after hcalls (hempty ▸ unknown_of_empty k)) hl
  again k e calls s m answer herror hcalls hl :=
    h.sent_of_reaches (unknown_after hcalls (unknown_of_error herror)) hl
  apart c k s hk := stock_of_ne (h.turn c s) hk
  status_adds key s := stock_eq_or_keeps (h.turn (.status key) s)
  project_adds key s := stock_eq_or_keeps (h.turn (.project key) s)

end Handle

/-! ## A server that tells of a status twice -/

/-- Two statuses, of which the first one comes again under another name. -/
def twiceText : String :=
  "[\x7b\"id\":\"1\",\"name\":\"Open\"\x7d,\x7b\"id\":\"2\",\"name\":\"Done\"\x7d,\x7b\"id\":\"1\",\"name\":\"Offen\"\x7d]"

def twiceSite : Site where
  link := { server := some fun _ _ => { outcome := .answered 200 (some twiceText) } }

theorem remembers_twiceSite :
    ∃ m, sampleHandle.statuses twiceSite =
        (.ok [{ id := "1", name := "Open" }, { id := "2", name := "Done" }], m) ∧
      ∃ xs, sampleHandle.statuses (sampleHandle.after [.status "3", .project "TST"] m) =
          (.ok xs, sampleHandle.after [.status "3", .project "TST"] m) ∧
        [{ id := "1", name := "Open" }, { id := "2", name := "Done" }] <+: xs := by
  have hopening : Text.isBlank '[' = false := by decide
  have hfetch : ∃ m, sampleHandle.fetch "status" twiceSite = (.ok ([{ id := "1", name := "Open" },
      { id := "2", name := "Done" }, { id := "1", name := "Offen" }] : List Status), m) ∧
        m.cache = twiceSite.cache :=
    Handle.fetch_of_text "status" ⟨rfl, rfl, rfl⟩ (by simp [twiceText]) (by simp [twiceText, hopening]) (by cbv)
  obtain ⟨m, hfetch, -⟩ := hfetch
  have hok : sampleHandle.statuses twiceSite = _ := Slot.collection_of_ok rfl hfetch
  exact ⟨_, hok, sampleHandle.remembers.kept (.collection .statuses) _ [.status "3", .project "TST"] _ _ hok⟩

end JiraQuery
