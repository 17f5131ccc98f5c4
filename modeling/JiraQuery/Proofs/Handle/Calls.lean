import JiraQuery.Handle.Lookups
import JiraQuery.Proofs.Cache.Growth
import JiraQuery.Proofs.Net.Asking

/-!
# Calls for metadata

What a handle asks its server for and keeps: whole collections, its own user, and single statuses and
projects. Main statement: `Handle.turn`, which says all that one call can do.
-/

namespace JiraQuery

/-! ## Collections and their slots -/

/-- The collections that a handle keeps. -/
inductive Collection
  | customFields
  | projectFields (scope : FieldScope)
  | issueTypes
  | projectIssueTypes (project : String)
  | priorities
  | resolutions
  | statuses
  | projects
  | components (project : String)
  | versions (project : String)
  deriving DecidableEq, Repr

namespace Collection

def Item : Collection → Type
  | customFields | projectFields _ => CustomField
  | issueTypes | projectIssueTypes _ => IssueType
  | priorities => Priority
  | resolutions => Resolution
  | statuses => Status
  | projects => Project
  | components _ => Component
  | versions _ => Version

instance entity : (k : Collection) → Entity k.Item
  | customFields | projectFields _ => inferInstanceAs (Entity CustomField)
  | issueTypes | projectIssueTypes _ => inferInstanceAs (Entity IssueType)
  | priorities => inferInstanceAs (Entity Priority)
  | resolutions => inferInstanceAs (Entity Resolution)
  | statuses => inferInstanceAs (Entity Status)
  | projects => inferInstanceAs (Entity Project)
  | components _ => inferInstanceAs (Entity Component)
  | versions _ => inferInstanceAs (Entity Version)

/-- What the server is asked for. -/
def path : Collection → String
  | customFields => "field"
  | projectFields scope => CreateMeta.path scope
  | issueTypes => "issuetype"
  | projectIssueTypes project => Path.ofSegments ["project", project, "statuses"]
  | priorities => "priority"
  | resolutions => "resolution"
  | statuses => "status"
  | projects => "project?expand=lead,url"
  | components project => Path.ofSegments ["project", project, "components"]
  | versions project => Path.ofSegments ["project", project, "versions"]

/-- The entities in the document that the server answers with. -/
def found? : (k : Collection) → Json → Option (List k.Item)
  | customFields, j => do return (← (decode? j : Option (List CustomField))).filter (·.custom)
  | projectFields _, j => do (← CreateMeta.ofJson? j).projects.head?.map (·.customFields)
  | issueTypes, j | projectIssueTypes _, j => (decode? j : Option (List IssueType))
  | priorities, j => (decode? j : Option (List Priority))
  | resolutions, j => (decode? j : Option (List Resolution))
  | statuses, j => (decode? j : Option (List Status))
  | projects, j => (decode? j : Option (List Project))
  | components project, j => do
    return (← (decode? j : Option (List Component))).map ({ · with project := some project })
  | versions _, j => (decode? j : Option (List Version))

def slot : (k : Collection) → Slot k.Item
  | customFields => .customFields
  | projectFields scope => .projectFields scope
  | issueTypes => .issueTypes
  | projectIssueTypes project => .projectIssueTypes project
  | priorities => .priorities
  | resolutions => .resolutions
  | statuses => .statuses
  | projects => .projects
  | components project => .components project
  | versions project => .versions project

end Collection

namespace ScopedStore

variable {κ α : Type} [DecidableEq κ] {key k : κ}

theorem get_set_of_ne (s : ScopedStore κ α) (store : Store α) (h : k ≠ key) :
    (s.set key store).get k = s.get k := by
  rw [get_set, if_neg h]

theorem setIn_of_lookup {store : Store α} {es : List (κ × Store α)} (h : es.lookup key = some store) :
    setIn key store es = es := by
  induction es with
  | nil => cases h
  | cons e es ih =>
    rw [lookup_cons] at h
    unfold setIn
    split
    · next hkey =>
      obtain rfl : e.2 = store := by simpa [hkey] using h
      rw [hkey]
    · next hkey => rw [ih (by simpa [hkey] using h)]

/-- A complete store has been put there, so that putting it there again changes nothing. -/
theorem set_get_of_complete {s : ScopedStore κ α} (h : (s.get key).complete = true) :
    s.set key (s.get key) = s := by
  unfold get at h ⊢
  cases hfind : s.find? key with
  | none => rw [hfind] at h; cases h
  | some store => exact congrArg ScopedStore.mk (setIn_of_lookup hfind)

end ScopedStore

namespace Collection

variable {k l : Collection} {c : MetadataCache}

theorem read_write (k : Collection) (c : MetadataCache) (store : Store k.Item) :
    k.slot.read (k.slot.write c store) = store := by
  cases k with
  | customFields | issueTypes | priorities | resolutions | statuses | projects => rfl
  | projectFields _ | projectIssueTypes _ | components _ | versions _ =>
    exact (ScopedStore.get_set _ _ _ _).trans (if_pos rfl)

/-- The slots of different collections do not meet. -/
theorem read_write_of_ne (h : l ≠ k) (c : MetadataCache) (store : Store k.Item) :
    l.slot.read (k.slot.write c store) = l.slot.read c := by
  cases k <;> cases l <;>
    first
    | rfl
    | exact absurd rfl h
    | exact ScopedStore.get_set_of_ne _ _ fun hkey => h (hkey ▸ rfl)

theorem write_read_of_complete (h : (k.slot.read c).complete = true) :
    k.slot.write c (k.slot.read c) = c := by
  cases k with
  | customFields | issueTypes | priorities | resolutions | statuses | projects => rfl
  | projectFields _ | projectIssueTypes _ | components _ | versions _ =>
    show MetadataCache.mk .. = MetadataCache.mk ..
    congr 1
    exact ScopedStore.set_get_of_complete h

theorem currentUser_write (k : Collection) (c : MetadataCache) (store : Store k.Item) :
    (k.slot.write c store).currentUser = c.currentUser := by
  cases k <;> rfl

end Collection

/-! ## Calls -/

/-- What a handle asks for as a whole, and once. -/
inductive Kind
  | collection (k : Collection)
  | currentUser
  deriving DecidableEq, Repr

namespace Kind

/-- What there is to know of a kind. -/
def Answer : Kind → Type
  | collection k => List k.Item
  | currentUser => User

/-- What a cache holds of a kind. -/
def Stock : Kind → Type
  | collection k => Store k.Item
  | currentUser => Option User

def stock : (k : Kind) → MetadataCache → k.Stock
  | collection k => k.slot.read
  | currentUser => MetadataCache.currentUser

/-- What a stock tells without asking the server. -/
def known? : {k : Kind} → k.Stock → Option k.Answer
  | collection _, (s : Store _) => if s.complete then some s.entries else none
  | currentUser, (u : Option User) => u

/-- An answer that says what an earlier one said: a collection begins with the earlier one, and the
user is the same. -/
def Extends : {k : Kind} → k.Answer → k.Answer → Prop
  | collection _, (xs : List _), (ys : List _) => xs <+: ys
  | currentUser, u, v => u = v

theorem known_eq_none_iff {k : Collection} {s : Store k.Item} :
    known? (k := .collection k) s = none ↔ s.complete = false := by
  show (if s.complete then some s.entries else none) = none ↔ _
  cases s.complete <;> simp

theorem known_eq_some_iff {k : Collection} {s : Store k.Item} {xs : List k.Item} :
    known? (k := .collection k) s = some xs ↔ s.complete = true ∧ s.entries = xs := by
  show (if s.complete then some s.entries else none) = some xs ↔ _
  cases s.complete <;> simp

theorem stock_write_of_ne {k : Kind} {l : Collection} (h : k ≠ .collection l) (c : MetadataCache)
    (store : Store l.Item) : k.stock (l.slot.write c store) = k.stock c := by
  cases k with
  | collection k => exact Collection.read_write_of_ne (fun hk => h (congrArg _ hk)) c store
  | currentUser => exact Collection.currentUser_write l c store

/-- A slot that is given what it has changes nothing that is known. -/
theorem stock_write_read (k : Kind) (l : Collection) (c : MetadataCache) :
    k.stock (l.slot.write c (l.slot.read c)) = k.stock c := by
  by_cases h : k = .collection l
  · subst h
    exact Collection.read_write l c _
  · exact stock_write_of_ne h c _

end Kind

/-- A call through a handle. -/
inductive Call
  | all (k : Kind)
  | status (key : String)
  | project (key : String)
  deriving DecidableEq, Repr

namespace Call

def Answer : Call → Type
  | all k => k.Answer
  | status _ => Status
  | project _ => Project

/-- What a call is about, and may add to. -/
def kind : Call → Kind
  | all k => k
  | status _ => .collection .statuses
  | project _ => .collection .projects

/-- What a cache tells without asking the server. -/
def known? : (c : Call) → MetadataCache → Option c.Answer
  | all k, cache => Kind.known? (k.stock cache)
  | status key, cache => cache.statuses.getByIdOrName? key
  | project key, cache => cache.projects.getById? key

/-- How an answer of the server is kept. -/
def Keeps : (c : Call) → c.Answer → c.kind.Stock → c.kind.Stock → Prop
  | all (.collection _), (xs : List _), (s : Store _), (t : Store _) =>
    ∃ ys, t = s.seed ys ∧ xs = t.entries
  | all .currentUser, u, _, t => t = some u
  | status _, (x : Status), (s : Store Status), (t : Store Status) => t = (s.tryAdd x).2
  | project _, (x : Project), (s : Store Project), (t : Store Project) => t = (s.tryAdd x).2

end Call

namespace Handle

variable (h : Handle)

/-- The collection of the server. -/
def collect : (k : Collection) → Remote (List k.Item)
  | .customFields => h.customFields
  | .projectFields scope => h.customFieldsFor scope
  | .issueTypes => h.issueTypes
  | .projectIssueTypes project => h.issueTypesForProject project
  | .priorities => h.priorities
  | .resolutions => h.resolutions
  | .statuses => h.statuses
  | .projects => h.projects
  | .components project => h.components project
  | .versions project => h.versions project

def perform : (c : Call) → Remote c.Answer
  | .all (.collection k) => h.collect k
  | .all .currentUser => h.currentUser
  | .status key => h.status key
  | .project key => h.project key

/-- The site after calls, one after the other. -/
def after : List Call → Site → Site
  | [], s => s
  | c :: calls, s => after calls (h.perform c s).2

/-- A collection is fetched by asking the server, and taken up by its slot. -/
theorem exists_collect_eq (k : Collection) :
    ∃ fetch, h.Asks fetch ∧ h.Reads k.path k.found? fetch ∧ h.collect k = k.slot.collection fetch := by
  cases k with
  | customFields | components project =>
    refine ⟨_, (h.asks_fetchWith _ _).bind_quiet fun _ _ => rfl, (h.reads_fetchWith _ _).bind ?_, rfl⟩
    exact fun _ _ _ _ hok => congrArg some (Except.ok.inj (Prod.mk.inj hok).1)
  | projectFields scope =>
    refine ⟨_, (h.asks_fetchWith _ _).bind_quiet fun found _ => ?_, (h.reads_fetchWith _ _).bind ?_, rfl⟩
    · cases found.projects <;> rfl
    · intro found s fields m hok
      cases hprojects : found.projects with
      | nil => rw [hprojects] at hok; cases (Prod.mk.inj hok).1
      | cons p ps =>
        rw [hprojects] at hok
        exact congrArg some (Except.ok.inj (Prod.mk.inj hok).1)
  | issueTypes | projectIssueTypes _ | priorities | resolutions | statuses | projects | versions _ =>
    exact ⟨_, h.asks_fetchWith _ _, h.reads_fetchWith _ _, rfl⟩

/-- What is in the cache, or else is asked for and kept. -/
def askOnce {α : Type} (known? : MetadataCache → Option α) (ask : Remote α)
    (keep : α → MetadataCache → MetadataCache) : Remote α := do
  match known? (← get).cache with
  | some a => return a
  | none =>
    let a ← ask
    modify fun s => { s with cache := keep a s.cache }
    return a

theorem askOnce_eq {α : Type} (known? : MetadataCache → Option α) (ask : Remote α)
    (keep : α → MetadataCache → MetadataCache) (s : Site) :
    askOnce known? ask keep s =
      match known? s.cache with
      | some a => (.ok a, s)
      | none =>
        match ask s with
        | (.ok a, m) => (.ok a, { m with cache := keep a m.cache })
        | (.error e, m) => (.error e, m) := by
  show (match known? s.cache with
    | some a => (pure a : Remote α)
    | none => ask >>= fun a => do
      modify fun s : Site => { s with cache := keep a s.cache }
      return a) s = _
  cases known? s.cache with
  | some a => rfl
  | none => exact Remote.bind_eq _ _ s

theorem askOnce_of_ok {α : Type} {known? : MetadataCache → Option α} {ask : Remote α}
    {keep : α → MetadataCache → MetadataCache} {s m : Site} {a : α} (hknown : known? s.cache = none)
    (hask : ask s = (.ok a, m)) :
    askOnce known? ask keep s = (.ok a, { m with cache := keep a m.cache }) := by
  rw [askOnce_eq, hknown, hask]

theorem currentUser_eq :
    h.currentUser = askOnce MetadataCache.currentUser (h.fetch "myself")
      fun user c => { c with currentUser := some user } := by
  funext s
  rw [askOnce_eq]
  unfold currentUser
  rw [Remote.bind_eq]
  simp only [Remote.get_apply]
  cases hknown : s.cache.currentUser with
  | some user => rfl
  | none => exact Remote.bind_eq _ _ s

/-- A project that is not in the cache is asked for. -/
def askProject (key : String) : Remote Project :=
  (h.fetch (α := Project) (Path.ofSegments ["project", key] ++ "?expand=lead,url")).notFoundAs
    (noProject key)

theorem project_eq (key : String) :
    h.project key = askOnce (·.projects.getById? key) (h.askProject key)
      fun x c => { c with projects := (c.projects.tryAdd x).2 } := by
  funext s
  rw [askOnce_eq]
  unfold project
  rw [Remote.bind_eq]
  simp only [Remote.get_apply]
  cases s.cache.projects.getById? key with
  | some project => rfl
  | none => exact Remote.bind_eq _ _ s

/-- A status that is not in the cache is asked for, unless the cache has all of them. -/
def askStatus (key : String) : Remote Status := do
  let missing := "Could not find status '" ++ key ++ "'"
  if (← get).cache.statuses.complete then throw (.notFound missing)
  (h.fetch (α := Status) (Path.ofSegments ["status", key])).notFoundAs missing

theorem status_eq (key : String) :
    h.status key = askOnce (·.statuses.getByIdOrName? key) (h.askStatus key)
      fun x c => { c with statuses := (c.statuses.tryAdd x).2 } := by
  funext s
  rw [askOnce_eq]
  unfold status askStatus
  rw [Remote.bind_eq]
  simp only [Remote.get_apply, Remote.bind_eq]
  cases s.cache.statuses.getByIdOrName? key with
  | some status => rfl
  | none =>
    cases s.cache.statuses.complete with
    | true => rfl
    | false => exact Remote.bind_eq _ _ s

theorem asks_askProject (key : String) : h.Asks (h.askProject key) :=
  (h.asks_fetchWith _ _).notFoundAs _

theorem askStatus_of_complete {s : Site} (key : String) (hall : s.cache.statuses.complete = true) :
    h.askStatus key s = (.error (.notFound ("Could not find status '" ++ key ++ "'")), s) := by
  unfold askStatus
  simp only [Remote.bind_eq, Remote.get_apply, hall]
  rfl

theorem askStatus_of_incomplete {s : Site} (key : String) (hpart : s.cache.statuses.complete = false) :
    h.askStatus key s = (h.fetch (α := Status) (Path.ofSegments ["status", key])).notFoundAs
      ("Could not find status '" ++ key ++ "'") s := by
  unfold askStatus
  simp only [Remote.bind_eq, Remote.get_apply, hpart]
  rfl

theorem cache_askStatus (key : String) (s : Site) : (h.askStatus key s).2.cache = s.cache := by
  cases hall : s.cache.statuses.complete with
  | true => rw [askStatus_of_complete h key hall]
  | false =>
    rw [askStatus_of_incomplete h key hall]
    exact ((h.asks_fetchWith _ _).notFoundAs _).cache_eq s

theorem sent_askStatus {key : String} {s m : Site} {x : Status} (hok : h.askStatus key s = (.ok x, m)) :
    s.link.requests.length < m.link.requests.length := by
  cases hall : s.cache.statuses.complete with
  | true =>
    rw [askStatus_of_complete h key hall] at hok
    cases (Prod.mk.inj hok).1
  | false =>
    rw [askStatus_of_incomplete h key hall] at hok
    exact ((h.asks_fetchWith _ _).notFoundAs _).sent_of_ok hok

/-! ## What one call can do -/

/-- How a call ends: the cache has its answer, or it fails and leaves what is known, or its answer comes
from the server and is kept. -/
inductive Turn (c : Call) (s : Site) : Except Error c.Answer × Site → Prop
  | known {a : c.Answer} (hknown : c.known? s.cache = some a) : Turn c s (.ok a, s)
  | failed {e : Error} {m : Site} (hknown : c.known? s.cache = none)
      (hstock : ∀ k : Kind, k.stock m.cache = k.stock s.cache) : Turn c s (.error e, m)
  | fetched {a : c.Answer} {m : Site} (hknown : c.known? s.cache = none)
      (hsent : s.link.requests.length < m.link.requests.length)
      (hkept : c.Keeps a (c.kind.stock s.cache) (c.kind.stock m.cache))
      (hothers : ∀ k, k ≠ c.kind → k.stock m.cache = k.stock s.cache) : Turn c s (.ok a, m)

theorem turn_collect (k : Collection) (s : Site) : Turn (.all (.collection k)) s (h.collect k s) := by
  obtain ⟨fetch, hfetch, -, hcollect⟩ := h.exists_collect_eq k
  have hcache := hfetch.cache_eq s
  rw [hcollect, Slot.collection_eq]
  cases hall : (k.slot.read s.cache).complete with
  | true =>
    rw [if_pos rfl, Collection.write_read_of_complete hall]
    exact .known (Kind.known_eq_some_iff.2 ⟨hall, rfl⟩)
  | false =>
    rw [if_neg Bool.false_ne_true]
    have hknown : (Call.all (.collection k)).known? s.cache = none := Kind.known_eq_none_iff.2 hall
    rcases hanswer : fetch s with ⟨e | xs, m⟩
    · -- the slot is written although nothing came, which may open it, but puts nothing in
      rw [hanswer] at hcache
      refine .failed hknown fun l => ?_
      show l.stock (k.slot.write m.cache (k.slot.read s.cache)) = _
      rw [show m.cache = s.cache from hcache]
      exact Kind.stock_write_read l k s.cache
    · rw [hanswer] at hcache
      have hsent : s.link.requests.length < m.link.requests.length := hfetch.sent_of_ok hanswer
      refine .fetched hknown hsent ⟨xs, Collection.read_write k _ _, ?_⟩ fun l hl => ?_
      · exact (congrArg Store.entries (Collection.read_write k _ _)).symm
      · exact (Kind.stock_write_of_ne hl _ _).trans (congrArg l.stock hcache)

/-- A single thing that is asked for leaves the cache alone until it is there. -/
theorem turn_askOnce {c : Call} {ask : Remote c.Answer} {keep : c.Answer → MetadataCache → MetadataCache}
    (hcache : ∀ s, (ask s).2.cache = s.cache)
    (hsent : ∀ {s m a}, ask s = (.ok a, m) → s.link.requests.length < m.link.requests.length)
    (hkept : ∀ a cache, c.Keeps a (c.kind.stock cache) (c.kind.stock (keep a cache)))
    (hothers : ∀ a cache k, k ≠ c.kind → k.stock (keep a cache) = k.stock cache) (s : Site) :
    Turn c s (askOnce c.known? ask keep s) := by
  rw [askOnce_eq]
  have hasked := hcache s
  cases hknown : c.known? s.cache with
  | some a => exact .known hknown
  | none =>
    rcases hanswer : ask s with ⟨e | a, m⟩
    · rw [hanswer] at hasked
      exact .failed hknown fun k => congrArg k.stock hasked
    · rw [hanswer] at hasked
      show Turn c s (.ok a, { m with cache := keep a m.cache })
      rw [show m.cache = s.cache from hasked]
      have hlt : s.link.requests.length < m.link.requests.length := hsent hanswer
      exact .fetched hknown hlt (hkept a s.cache) (hothers a s.cache)

/-- All that one call can do. -/
theorem turn (c : Call) (s : Site) : Turn c s (h.perform c s) := by
  match c with
  | .all (.collection k) => exact h.turn_collect k s
  | .all .currentUser =>
    show Turn (.all .currentUser) s (h.currentUser s)
    rw [currentUser_eq]
    have hasks : h.Asks (h.fetch (α := User) "myself") := h.asks_fetchWith _ _
    refine turn_askOnce (c := .all .currentUser) hasks.cache_eq hasks.sent_of_ok ?_ ?_ s
    · intro user cache
      rfl
    · intro user cache k hk
      cases k with
      | collection k => cases k <;> rfl
      | currentUser => exact absurd rfl hk
  | .status key =>
    show Turn (.status key) s (h.status key s)
    rw [status_eq]
    refine turn_askOnce (c := .status key) (h.cache_askStatus key) h.sent_askStatus ?_ ?_ s
    · intro x cache
      rfl
    · intro x cache k hk
      exact Kind.stock_write_of_ne (l := .statuses) hk cache _
  | .project key =>
    show Turn (.project key) s (h.project key s)
    rw [project_eq]
    have hasks := h.asks_askProject key
    refine turn_askOnce (c := .project key) hasks.cache_eq hasks.sent_of_ok ?_ ?_ s
    · intro x cache
      rfl
    · intro x cache k hk
      exact Kind.stock_write_of_ne (l := .projects) hk cache _

theorem perform_of_known {c : Call} {s : Site} {a : c.Answer} (ha : c.known? s.cache = some a) :
    h.perform c s = (.ok a, s) := by
  have hturn := h.turn c s
  rcases hp : h.perform c s with ⟨r, m⟩
  rw [hp] at hturn
  cases hturn with
  | known hknown =>
    obtain rfl := Option.some.inj (ha.symm.trans hknown)
    rfl
  | failed hknown _ => cases hknown.symm.trans ha
  | fetched hknown _ _ _ => cases hknown.symm.trans ha

/-- What is not known is asked for, if the server can be reached. -/
theorem sent_of_reaches {k : Kind} {s : Site} {answer : Server}
    (hknown : Kind.known? (k.stock s.cache) = none) (hl : s.link.Reaches h.client h.token answer) :
    s.link.requests.length < (h.perform (.all k) s).2.link.requests.length := by
  cases k with
  | collection k =>
    obtain ⟨fetch, hfetch, -, hcollect⟩ := h.exists_collect_eq k
    have hpart : (k.slot.read s.cache).complete = false := Kind.known_eq_none_iff.1 hknown
    have hsite : (h.collect k s).2.link = (fetch s).2.link := by
      rw [hcollect, Slot.collection_eq, hpart]
      rfl
    show _ < (h.collect k s).2.link.requests.length
    rw [hsite]
    exact hfetch.sent_of_reaches hl
  | currentUser =>
    have hasks : h.Asks (h.fetch (α := User) "myself") := h.asks_fetchWith _ _
    have hsent := hasks.sent_of_reaches hl
    have huser : s.cache.currentUser = none := hknown
    show _ < (h.currentUser s).2.link.requests.length
    rw [currentUser_eq, askOnce_eq, huser]
    rcases hanswer : h.fetch (α := User) "myself" s with ⟨e | user, m⟩
    · rwa [hanswer] at hsent
    · rwa [hanswer] at hsent

end Handle

end JiraQuery
