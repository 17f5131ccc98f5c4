import JiraQuery.Proofs.Cache.Finding
import JiraQuery.Proofs.Handle.Calls
import JiraQuery.Proofs.Text.Percent

/-!
# Statuses of a server that does not change

A status that is looked up comes from the cache if the cache has one for the key, and what the cache has
depends on earlier calls. They do not matter unless the key is the id of one status and the name of
another one. Main statement: `Handle.status_after_iff`.
-/

namespace JiraQuery

/-! ## Servers with a list of statuses -/

/-- The request for what the server has at a path of its interface. -/
def Client.get (c : Client) (path : String) : Request :=
  c.request "GET" ("rest/api/2/" ++ path) none

/-- The request for one status. -/
def Client.getStatus (c : Client) (key : String) : Request :=
  c.get (Path.ofSegments ["status", key])

/-- A server that answers a client from one list of statuses, whole or by an id or a name. -/
structure Server.HoldsStatuses (answer : Server) (c : Client) (xs : List Status) : Prop where
  distinct : Entity.Distinct xs
  list : ∀ n, (answer n (c.get "status")).value? (c.get "status").url = some xs
  found : ∀ n key x, Entity.lookup? xs key = some x →
    (answer n (c.getStatus key)).value? (c.getStatus key).url = some x
  missing : ∀ n key, Entity.lookup? xs key = none →
    ∃ text, (answer n (c.getStatus key)).outcome = .answered 404 text

theorem Handle.fetch_of_value {α : Type} [Wire α] {h : Handle} {s : Site} {path : String}
    {answer : Server} {a : α} (hl : s.link.Reaches h.client h.token answer)
    (ha : (answer s.link.requests.length (h.client.get path)).value? (h.client.get path).url = some a) :
    h.fetch path s = (.ok a, { s with link := s.link.sent (h.client.get path) }) := by
  unfold Reply.value? at ha
  split at ha
  · next status text ho =>
    obtain ⟨j, hj, hdecode⟩ := Option.bind_eq_some_iff.1 ha
    cases hread : Response.read (h.client.get path).url status text with
    | error e => simp [hread, Except.toOption] at hj
    | ok j' =>
      obtain rfl : j' = j := by simpa [hread, Except.toOption] using hj
      exact fetch_eq rfl hl ho hread hdecode
  · cases ha

namespace Handle

variable {h : Handle} {answer : Server} {xs : List Status} {key : String} {s : Site}

/-- What a look-up comes to, going by the whole list. -/
def statusIn (xs : List Status) (key : String) : Except Error Status :=
  match Entity.lookup? xs key with
  | some x => .ok x
  | none => .error (.notFound ("Could not find status '" ++ key ++ "'"))

/-- A site whose server has a list of statuses, and whose cache has some of them. -/
structure Attends (h : Handle) (answer : Server) (xs : List Status) (s : Site) : Prop where
  holds : answer.HoldsStatuses h.client xs
  reaches : s.link.Reaches h.client h.token answer
  drawn : s.cache.statuses.DrawnFrom xs

theorem askStatus_of_attends (hs : h.Attends answer xs s) (hpart : s.cache.statuses.complete = false) :
    h.askStatus key s = (statusIn xs key, { s with link := s.link.sent (h.client.getStatus key) }) := by
  rw [askStatus_of_incomplete h key hpart]
  unfold statusIn
  cases hfound : Entity.lookup? xs key with
  | some x =>
    exact notFoundAs_of_ok _ (fetch_of_value hs.reaches (hs.holds.found _ key x hfound))
  | none =>
    obtain ⟨text, ho⟩ := hs.holds.missing s.link.requests.length key hfound
    obtain ⟨what, hfetch⟩ := fetch_of_missing (α := Status) rfl hs.reaches ho
    exact notFoundAs_of_error _ rfl hfetch

/-! ## The cache along a history -/

theorem attends_status (hs : h.Attends answer xs s) (key : String) :
    h.Attends answer xs (h.status key s).2 := by
  rw [status_eq, askOnce_eq]
  cases hknown : s.cache.statuses.getByIdOrName? key with
  | some x => exact hs
  | none =>
    cases hall : s.cache.statuses.complete with
    | true =>
      simp only [askStatus_of_complete h key hall]
      exact hs
    | false =>
      simp only [askStatus_of_attends hs hall]
      unfold statusIn
      cases hfound : Entity.lookup? xs key with
      | none => exact ⟨hs.holds, hs.reaches.sent _, hs.drawn⟩
      | some x =>
        exact ⟨hs.holds, hs.reaches.sent _, hs.drawn.tryAdd (Entity.mem_of_lookup? hfound)⟩

theorem attends_statuses (hs : h.Attends answer xs s) : h.Attends answer xs (h.statuses s).2 := by
  have hfetch : h.fetch (α := List Status) "status" s = _ :=
    fetch_of_value hs.reaches (hs.holds.list s.link.requests.length)
  unfold statuses
  rw [Slot.collection_eq, hfetch]
  split
  · exact hs
  · exact ⟨hs.holds, hs.reaches.sent _, hs.drawn.seed hs.holds.distinct⟩

theorem attends_after {calls : List Call} (hs : h.Attends answer xs s)
    (hcalls : ∀ c ∈ calls, c.kind = .collection .statuses) : h.Attends answer xs (h.after calls s) := by
  induction calls generalizing s with
  | nil => exact hs
  | cons c calls ih =>
    obtain ⟨hc, hcalls⟩ := List.forall_mem_cons.1 hcalls
    refine ih ?_ hcalls
    cases c with
    | all k =>
      obtain rfl : k = .collection .statuses := hc
      exact attends_statuses hs
    | status key => exact attends_status hs key
    | project key => cases hc

/-! ## What a look-up comes to -/

/-- Nothing is found in an empty cache, so that the server decides. -/
theorem status_of_empty (hs : h.Attends answer xs s) (hempty : s.cache.statuses = {}) (key : String) :
    (h.status key s).1 = statusIn xs key := by
  rw [status_eq, askOnce_eq]
  have hknown : s.cache.statuses.getByIdOrName? key = none := by rw [hempty]; rfl
  have hpart : s.cache.statuses.complete = false := by rw [hempty]
  simp only [hknown, askStatus_of_attends hs hpart]
  cases statusIn xs key <;> rfl

theorem status_of_clear (hs : h.Attends answer xs s) (hclear : Entity.Clear xs key) :
    (h.status key s).1 = statusIn xs key := by
  rw [status_eq, askOnce_eq]
  cases hknown : s.cache.statuses.getByIdOrName? key with
  | some x =>
    unfold statusIn
    rw [hs.drawn.lookup?_of_some hs.holds.distinct hclear hknown]
  | none =>
    cases hall : s.cache.statuses.complete with
    | true =>
      unfold statusIn
      rw [askStatus_of_complete h key hall, hs.drawn.lookup?_of_none hall hknown]
    | false =>
      simp only [askStatus_of_attends hs hall]
      cases statusIn xs key <;> rfl

/-- A status that has been fetched by its id is found by its name, also if that is the id of another
one. -/
theorem status_after_status {x y : Status} (hs : h.Attends answer xs s)
    (hempty : s.cache.statuses = {}) (hx : x ∈ xs) (hy : y ∈ xs) (hid : x.id = key)
    (hname : Text.sameName y.name key = true) (hne : x ≠ y) : (h.status key (h.after [.status y.id] s)).1 = .ok y := by
  have hlookup : Entity.lookup? xs y.id = some y := Entity.lookup?_of_mem hs.holds.distinct hy (.inl rfl)
  have hstore : (h.after [.status y.id] s).cache.statuses = { entries := [y] } := by
    have hpart : s.cache.statuses.complete = false := by rw [hempty]
    show (h.status y.id s).2.cache.statuses = _
    rw [status_eq, askOnce_eq]
    simp only [askStatus_of_attends hs hpart, statusIn, hlookup, hempty]
    rfl
  have hother : y.id ≠ key := fun hyid => hne (hs.holds.distinct.eq_of_id hx hy (hid.trans hyid.symm))
  have hknown : (h.after [.status y.id] s).cache.statuses.getByIdOrName? key = some y := by
    rw [hstore]
    simp [Store.getByIdOrName?, Store.getById?, Store.findByName, Entity.id, Entity.name, hother, hname]
  exact congrArg Prod.fst (h.perform_of_known (c := .status key) hknown)

/-- What earlier calls have left in the cache does not matter to a look-up if, and only if, no status has
for its name what is the id of another one. -/
theorem status_after_iff (hholds : answer.HoldsStatuses h.client xs)
    (hl : s.link.Reaches h.client h.token answer) (hempty : s.cache.statuses = {}) (key : String) :
    (∀ calls : List Call, (∀ c ∈ calls, c.kind = .collection .statuses) →
      (h.status key (h.after calls s)).1 = (h.status key s).1) ↔ Entity.Clear xs key := by
  have hs : h.Attends answer xs s := ⟨hholds, hl, hempty ▸ Store.drawnFrom_empty xs⟩
  rw [status_of_empty hs hempty key]
  constructor
  · intro hsame x hx y hy hid hname
    by_contra hne
    have hafter := hsame [.status y.id] (by simp [Call.kind])
    rw [status_after_status hs hempty hx hy hid hname hne, statusIn,
      Entity.lookup?_of_mem hholds.distinct hx (.inl hid)] at hafter
    exact hne (Except.ok.inj hafter).symm
  · intro hclear calls hcalls
    exact status_of_clear (attends_after hs hcalls) hclear

end Handle

/-! ## A server with two statuses -/

/-- The name of one is the id of the other. -/
def twoStatuses : List Status := [{ id := "1", name := "Open" }, { id := "2", name := "1" }]

def twoStatusesText : String :=
  "[\x7b\"id\":\"1\",\"name\":\"Open\"\x7d,\x7b\"id\":\"2\",\"name\":\"1\"\x7d]"

def oneStatusText (x : Status) : String :=
  if x.id = "1" then "\x7b\"id\":\"1\",\"name\":\"Open\"\x7d"
  else "\x7b\"id\":\"2\",\"name\":\"1\"\x7d"

/-- The key in the address of a status. -/
def keyIn? (url : String) : Option String :=
  ("https://jira.example.com/rest/api/2/status/".toList.isPrefixOf? url.toList).bind fun s =>
    Text.Percent.decode? (String.ofList s)

/-- Answers from the two statuses. -/
def Server.twoStatuses : Server := fun _ r =>
  match (keyIn? r.url).map (Entity.lookup? JiraQuery.twoStatuses) with
  | none => { outcome := .answered 200 (some twoStatusesText) }
  | some (some x) => { outcome := .answered 200 (some (oneStatusText x)) }
  | some none => { outcome := .answered 404 none }

theorem url_get (path : String) :
    (sampleClient.get path).url = "https://jira.example.com/rest/api/2/" ++ path := by
  have hpath : ("rest/api/2/" ++ path).toList.dropWhile (· = '/') = ("rest/api/2/" ++ path).toList := by
    rw [String.toList_append]
    exact List.dropWhile_cons_of_neg (by decide)
  show "https://jira.example.com" ++ "/" ++
    String.ofList (("rest/api/2/" ++ path).toList.dropWhile (· = '/')) = _
  rw [hpath, String.ofList_toList, ← String.append_assoc]
  rfl

theorem keyIn?_append (s : String) :
    keyIn? ("https://jira.example.com/rest/api/2/status/" ++ s) = Text.Percent.decode? s := by
  have hrest : "https://jira.example.com/rest/api/2/status/".toList.isPrefixOf?
      ("https://jira.example.com/rest/api/2/status/" ++ s).toList = some s.toList :=
    List.isPrefixOf?_eq_some_iff_append_eq.2 (String.toList_append ..).symm
  unfold keyIn?
  rw [hrest, Option.bind_some, String.ofList_toList]

theorem keyIn?_getStatus (key : String) : keyIn? (sampleClient.getStatus key).url = some key := by
  have hpath : "https://jira.example.com/rest/api/2/" ++ Path.ofSegments ["status", key] =
      "https://jira.example.com/rest/api/2/status/" ++ Text.Percent.encode key := by
    have hstatus : Text.Percent.encode "status" = "status" := by decide
    show _ ++ (Text.Percent.encode "status" ++ "/" ++ Text.Percent.encode key) = _
    rw [hstatus, ← String.append_assoc]
    rfl
  rw [Client.getStatus, url_get, hpath, keyIn?_append, Text.Percent.decode?_encode]

theorem holds_twoStatuses : Server.twoStatuses.HoldsStatuses sampleClient twoStatuses where
  distinct := ⟨by decide, by decide⟩
  list n := by
    have hkey : keyIn? (sampleClient.get "status").url = none := by decide
    unfold Server.twoStatuses
    rw [hkey]
    exact value?_answered _ (by decide) (by decide) (by cbv)
  found n key x hx := by
    unfold Server.twoStatuses
    rw [keyIn?_getStatus, Option.map_some, hx]
    have hmem : x = { id := "1", name := "Open" } ∨ x = { id := "2", name := "1" } := by
      simpa [twoStatuses] using Entity.mem_of_lookup? hx
    rcases hmem with rfl | rfl
    · exact value?_answered _ (by decide) (by decide) (by cbv)
    · exact value?_answered _ (by decide) (by decide) (by cbv)
  missing n key hkey := by
    unfold Server.twoStatuses
    rw [keyIn?_getStatus, Option.map_some, hkey]
    exact ⟨none, rfl⟩

/-- A site whose server has the two statuses. -/
def twoStatusesSite : Site where
  link := { server := some Server.twoStatuses }

theorem reaches_twoStatuses :
    twoStatusesSite.link.Reaches sampleHandle.client sampleHandle.token Server.twoStatuses :=
  ⟨rfl, rfl, rfl⟩

/-- The key 2 is an id and no name, so that it means the same after any calls. -/
theorem status_after_iff_twoStatuses :
    (Server.twoStatuses.HoldsStatuses sampleHandle.client twoStatuses ∧
      twoStatusesSite.link.Reaches sampleHandle.client sampleHandle.token Server.twoStatuses ∧
      twoStatusesSite.cache.statuses = {}) ∧
    ∀ calls : List Call, (∀ c ∈ calls, c.kind = .collection .statuses) →
      (sampleHandle.status "2" (sampleHandle.after calls twoStatusesSite)).1 =
        (sampleHandle.status "2" twoStatusesSite).1 := by
  have hclear : Entity.Clear twoStatuses "2" := by
    unfold Entity.Clear
    decide
  exact ⟨⟨holds_twoStatuses, reaches_twoStatuses, rfl⟩,
    (Handle.status_after_iff holds_twoStatuses reaches_twoStatuses rfl "2").2 hclear⟩

/-- The key 1 means one status to begin with, and the other one after that has been looked up. -/
theorem status_twoStatuses :
    Server.twoStatuses.HoldsStatuses sampleHandle.client twoStatuses ∧
      (sampleHandle.status "1" twoStatusesSite).1 = .ok { id := "1", name := "Open" } ∧
      (sampleHandle.status "1" (sampleHandle.after [.status "2"] twoStatusesSite)).1 =
        .ok { id := "2", name := "1" } := by
  have hs : sampleHandle.Attends Server.twoStatuses twoStatuses twoStatusesSite :=
    ⟨holds_twoStatuses, reaches_twoStatuses, Store.drawnFrom_empty _⟩
  refine ⟨holds_twoStatuses, ?_, ?_⟩
  · rw [Handle.status_of_empty hs rfl]
    rfl
  · exact Handle.status_after_status hs rfl (x := { id := "1", name := "Open" })
      (y := { id := "2", name := "1" }) (by decide) (by decide) rfl (by decide) (by decide)

end JiraQuery
