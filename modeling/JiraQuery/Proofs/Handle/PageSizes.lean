import JiraQuery.Proofs.Config.Adjusting
import JiraQuery.Proofs.Handle.Calls
import JiraQuery.Proofs.Handle.Connecting
import JiraQuery.Proofs.Handle.Results
import JiraQuery.Proofs.Search.PageSizes

/-!
# Page sizes of a handle

A handle takes over settings that are brought into their ranges, and a change of its page size keeps them
there. So whatever is asked for through it, and however long the streams are read that it opened, a page is
for at least one issue and for no more than the server returns at once. Main statement:
`page_sizes_bounded`.
-/

namespace JiraQuery

/-! ## What is asked for through a handle -/

/-- What a handle may be asked for. -/
inductive Errand
  | known (c : Call)
  | customField (key : String)
  | user (id : String)
  | issue (key : String)
  | favouriteFilters
  | filter (id : String)
  | screenAvailableFields (screen : String)
  | screenTabs (screen : String) (project : Option String)
  | screenTabFields (screen tab : String) (project : Option String)
  | issuesFromJql (jql : String) (options : SearchOptions)
  | issuesFromFilter (id : String) (options : SearchOptions)
  | issuesFromFavourite (name : String) (options : SearchOptions)
  | total (jql : String)
  | streamJql (jql : String) (options : SearchOptions)
  | translate (q : Query)
  | stream (q : Query)
  | toList (q : Query)
  | scalar (q : Query) (reduction : Scalar)

/-- Leaves out the result of a call. -/
def Remote.done {α : Type} (call : Remote α) : Remote (List IssueStream) := do
  let _ ← call
  return []

/-- Does what is asked for, and has the streams that are opened by it. -/
def Errand.run (h : Handle) : Errand → Remote (List IssueStream)
  | known c => (h.perform c).done
  | customField key => (h.customField key).done
  | user id => (h.user id).done
  | issue key => (h.issue key).done
  | favouriteFilters => h.favouriteFilters.done
  | filter id => (h.filter id).done
  | screenAvailableFields screen => (h.screenAvailableFields screen).done
  | screenTabs screen project => (h.screenTabs screen project).done
  | screenTabFields screen tab project => (h.screenTabFields screen tab project).done
  | issuesFromJql jql options => (h.issuesFromJql jql options).done
  | issuesFromFilter id options => (h.issuesFromFilter id options).done
  | issuesFromFavourite name options => (h.issuesFromFavourite name options).done
  | total jql => (h.total jql).done
  | streamJql jql options => return [h.streamJql jql options]
  | translate q => (h.translate q).done
  | stream q => do return [← h.stream q]
  | toList q => (h.toList q).done
  | scalar q reduction => (h.scalar q reduction).done

/-- Something that is done with handles, with what they share or with the streams that they opened. -/
inductive Deed
  | copy (handle : ℕ)
  | setPageSize (handle : ℕ) (n : UInt32)
  | setToken (handle : ℕ) (token : Token)
  | cancel (token : Token)
  | recache (cache : MetadataCache)
  | poll (stream : ℕ)
  | ask (handle : ℕ) (errand : Errand)

/-- A handle and its copies in use. -/
structure Usage where
  handles : List Handle
  site : Site
  /-- The streams that were opened, in order. -/
  streams : List IssueStream := []

namespace Usage

def step (u : Usage) : Deed → Usage
  | .copy i => { u with handles := u.handles ++ u.handles[i]?.toList }
  | .setPageSize i n => { u with handles := u.handles.modify i (·.setPageSize n) }
  | .setToken i token => { u with handles := u.handles.modify i ({ · with token }) }
  | .cancel token => { u with site := { u.site with link := u.site.link.cancel token } }
  | .recache cache => { u with site := { u.site with cache } }
  | .poll i =>
    match u.streams[i]? with
    | none => u
    | some s =>
      let polled := s.next u.site.link
      { u with site := { u.site with link := polled.2 }, streams := u.streams.set i polled.1.2 }
  | .ask i errand =>
    match u.handles[i]? with
    | none => u
    | some h =>
      let asked := errand.run h u.site
      { u with site := asked.2, streams := u.streams ++ asked.1.toOption.getD [] }

def run (u : Usage) (deeds : List Deed) : Usage :=
  deeds.foldl step u

end Usage

/-! ## Requests for metadata -/

variable {α : Type} {P : Request → Prop} {c : Client} {most : UInt32} {h : Handle}

open Remote (Sends)

theorem Slot.sends_collection [Entity α] {slot : Slot α} {fetch : Remote (List α)}
    (hfetch : Sends P (fun _ => True) fetch) : Sends P (fun _ => True) (slot.collection fetch) where
  adds s := by
    rw [collection_eq]
    split
    · exact .refl _
    · exact hfetch.adds s
  result _ := trivial

namespace Handle

theorem sends_askOnce {known? : MetadataCache → Option α} {ask : Remote α}
    {keep : α → MetadataCache → MetadataCache} (hask : Sends P (fun _ => True) ask) :
    Sends P (fun _ => True) (askOnce known? ask keep) where
  adds s := by
    have hadds := hask.adds s
    rw [askOnce_eq]
    cases known? s.cache with
    | some a => exact .refl _
    | none => rcases hanswer : ask s with ⟨_ | _, _⟩ <;> rwa [hanswer] at hadds
  result _ := trivial

theorem sends_fetchWith (h : Handle) (read? : Json → Option α) (path : String) :
    Sends (SizedRequest h.client most) (fun _ => True) (h.fetchWith read? path) :=
  .viaLink (Client.adds_executeRaw (.get ("rest/api/2/" ++ path))) fun _ => trivial

theorem sends_collect (h : Handle) (k : Collection) :
    Sends (SizedRequest h.client most) (fun _ => True) (h.collect k) := by
  cases k with
  | customFields => exact Slot.sends_collection ((h.sends_fetchWith _ _).bind fun _ _ => .pure trivial)
  | components project =>
    exact Slot.sends_collection ((h.sends_fetchWith _ _).bind fun _ _ => .pure trivial)
  | projectFields scope =>
    refine Slot.sends_collection ((h.sends_fetchWith _ _).bind fun found _ => ?_)
    cases found.projects with
    | nil => exact .throw _
    | cons p ps => exact .pure trivial
  | issueTypes | projectIssueTypes _ | priorities | resolutions | statuses | projects | versions _ =>
    exact Slot.sends_collection (h.sends_fetchWith _ _)

theorem sends_askStatus (h : Handle) (key : String) :
    Sends (SizedRequest h.client most) (fun _ => True) (h.askStatus key) where
  adds s := by
    cases hall : s.cache.statuses.complete with
    | true =>
      rw [askStatus_of_complete h key hall]
      exact .refl _
    | false =>
      rw [askStatus_of_incomplete h key hall]
      exact ((h.sends_fetchWith _ _).notFoundAs _).adds s
  result _ := trivial

theorem sends_perform (h : Handle) (x : Call) :
    Sends (SizedRequest h.client most) (fun _ => True) (h.perform x) := by
  cases x with
  | all k =>
    cases k with
    | collection k => exact h.sends_collect k
    | currentUser =>
      show Sends _ _ h.currentUser
      rw [currentUser_eq]
      exact sends_askOnce (h.sends_fetchWith _ _)
  | status key =>
    show Sends _ _ (h.status key)
    rw [status_eq]
    exact sends_askOnce (h.sends_askStatus key)
  | project key =>
    show Sends _ _ (h.project key)
    rw [project_eq]
    exact sends_askOnce ((h.sends_fetchWith _ _).notFoundAs _)

theorem sends_customField (h : Handle) (key : String) :
    Sends (SizedRequest h.client most) (fun _ => True) (h.customField key) := by
  refine (h.sends_collect .customFields).discard.bind fun _ _ => ?_
  refine Sends.bind (Q := fun _ => True) (.of_link_eq (fun _ => rfl) fun _ => trivial) fun s _ => ?_
  cases s.cache.customFields.getByIdOrName? key with
  | some field => exact .pure trivial
  | none => exact .throw _

theorem sends_translate (h : Handle) (q : Query) :
    Sends (SizedRequest h.client most) (fun _ => True) (h.translate q) := by
  have hcatalog : Sends (SizedRequest h.client most) (fun _ => True) (h.catalogFor q) := by
    unfold catalogFor
    split
    · cases q.scope with
      | server => exact h.sends_collect .customFields
      | within scope => exact h.sends_collect (.projectFields scope)
    · exact .pure trivial
  refine hcatalog.bind fun catalog _ => ?_
  cases JiraQuery.translate catalog h.settings.serverMaxResults q.operators with
  | ok t => exact .pure trivial
  | error e => exact .throw _

/-! ## Searches -/

theorem within_streamJql (hsize : h.settings.pageSize ≤ most) (jql : String) (options : SearchOptions) :
    (h.streamJql jql options).pager.Within h.client most :=
  Pager.within_start h.token jql options h.settings.pageSize_bounds.1 hsize

theorem within_run (hsize : h.settings.pageSize ≤ most) (t : Translation) (fields : FieldSelection) :
    (h.run t fields).pager.Within h.client most := by
  unfold Handle.run
  split
  · exact within_streamJql hsize _ _
  · exact within_streamJql hsize _ _

theorem sends_issuesFromJql (hsize : h.settings.pageSize ≤ most) (jql : String) (options : SearchOptions) :
    Sends (SizedRequest h.client most) (fun _ => True) (h.issuesFromJql jql options) :=
  .viaLink (IssueStream.adds_collect (within_streamJql hsize jql options)) fun _ => trivial

theorem sends_total (h : Handle) (jql : String) :
    Sends (SizedRequest h.client most) (fun _ => True) (h.total jql) :=
  .viaLink (adds_searchTotal h.token jql) fun _ => trivial

theorem sends_filter (h : Handle) (id : String) :
    Sends (SizedRequest h.client most) (fun _ => True) (h.filter id) :=
  (h.sends_fetchWith _ _).notFoundAs _

theorem sends_issuesFromFavourite (hsize : h.settings.pageSize ≤ most) (name : String)
    (options : SearchOptions) :
    Sends (SizedRequest h.client most) (fun _ => True) (h.issuesFromFavourite name options) := by
  refine (h.sends_fetchWith _ _).bind fun filters _ => ?_
  cases filters.find? (Text.sameName ·.name name) with
  | some filter => exact sends_issuesFromJql hsize _ _
  | none => exact .throw _

theorem sends_stream (hsize : h.settings.pageSize ≤ most) (q : Query) :
    Sends (SizedRequest h.client most) (·.pager.Within h.client most) (h.stream q) :=
  (h.sends_translate q).bind fun t _ => .pure (within_run hsize t q.fields)

theorem sends_toList (hsize : h.settings.pageSize ≤ most) (q : Query) :
    Sends (SizedRequest h.client most) (fun _ => True) (h.toList q) :=
  (sends_stream hsize q).bind fun _ hs => .viaLink (IssueStream.adds_collect hs) fun _ => trivial

end Handle

theorem Scalar.sends_reduce {s : IssueStream} (hs : s.pager.Within c most) (r : Scalar) :
    Sends (SizedRequest c most) (fun _ => True) (r.reduce s) := by
  have hpull := IssueStream.sends_pull hs
  cases r with
  | first =>
    refine hpull.bind fun pulled _ => ?_
    cases pulled.1 with
    | some i => exact .pure trivial
    | none => exact .throw _
  | firstOrNone | any => exact hpull.bind fun _ _ => .pure trivial
  | single =>
    refine hpull.bind fun pulled hnext => ?_
    rcases pulled with ⟨_ | i, s'⟩
    · exact .throw _
    · refine (IssueStream.sends_pull hnext).bind fun again _ => ?_
      cases again.1 with
      | some _ => exact .throw _
      | none => exact .pure trivial
  | count =>
    exact Sends.bind (.viaLink (Q := fun _ => True) (IssueStream.adds_collect hs) fun _ => trivial)
      fun _ _ => .pure trivial

theorem Handle.sends_scalar (hsize : h.settings.pageSize ≤ most) (q : Query) (r : Scalar) :
    Sends (SizedRequest h.client most) (fun _ => True) (h.scalar q r) := by
  refine (h.sends_translate q).bind fun t _ => ?_
  split
  · exact r.sends_reduce (within_run hsize t q.fields)
  · split
    · exact (h.sends_total t.jql).bind fun _ _ => .pure trivial
    · exact r.sends_reduce (within_run hsize _ q.fields)

/-! ## Errands -/

theorem Remote.Sends.done {Q : α → Prop} {R : IssueStream → Prop} {call : Remote α} (hcall : Sends P Q call) :
    Sends P (fun ss => ∀ s ∈ ss, R s) call.done :=
  hcall.bind fun _ _ => .pure (List.forall_mem_nil _)

theorem Errand.sends_run (hsize : h.settings.pageSize ≤ most) (e : Errand) :
    Sends (SizedRequest h.client most) (fun ss => ∀ s ∈ ss, s.pager.Within h.client most) (e.run h) := by
  cases e with
  | known x => exact (h.sends_perform x).done
  | customField key => exact (h.sends_customField key).done
  | user _ | issue _ | favouriteFilters | screenAvailableFields _ | screenTabs _ _ | screenTabFields _ _ _ =>
    exact (h.sends_fetchWith _ _).done
  | filter id => exact (h.sends_filter id).done
  | issuesFromJql jql options => exact (Handle.sends_issuesFromJql hsize jql options).done
  | issuesFromFilter id options =>
    exact ((h.sends_filter id).bind fun f _ => Handle.sends_issuesFromJql hsize f.jql options).done
  | issuesFromFavourite name options => exact (Handle.sends_issuesFromFavourite hsize name options).done
  | total jql => exact (h.sends_total jql).done
  | streamJql jql options =>
    exact .pure (List.forall_mem_singleton.2 (Handle.within_streamJql hsize jql options))
  | translate q => exact (h.sends_translate q).done
  | stream q => exact (Handle.sends_stream hsize q).bind fun s hs => .pure (List.forall_mem_singleton.2 hs)
  | toList q => exact (Handle.sends_toList hsize q).done
  | scalar q r => exact (Handle.sends_scalar hsize q r).done

/-! ## Handles in use -/

/-- A handle whose page size is in use as it is set, for a server that returns at most so many issues. -/
structure Handle.Within (c : Client) (most : UInt32) (h : Handle) : Prop where
  client_eq : h.client = c
  clamped : h.settings.Clamped
  serverMaxResults_eq : h.settings.serverMaxResults = most

namespace Handle

theorem Within.pageSize_le (hw : h.Within c most) : h.settings.pageSize ≤ most :=
  hw.serverMaxResults_eq ▸ hw.clamped.pageSize_le

theorem Within.setPageSize (hw : h.Within c most) (n : UInt32) : (h.setPageSize n).Within c most where
  client_eq := hw.client_eq
  clamped := Settings.clamped_normalize _
  serverMaxResults_eq :=
    (Settings.max_one_of_one_le hw.clamped.one_le_serverMaxResults).trans hw.serverMaxResults_eq

theorem Within.setToken (hw : h.Within c most) (token : Token) : ({ h with token } : Handle).Within c most :=
  ⟨hw.client_eq, hw.clamped, hw.serverMaxResults_eq⟩

theorem Within.sends_errand (hw : h.Within c most) (e : Errand) :
    Sends (SizedRequest c most) (fun ss => ∀ s ∈ ss, s.pager.Within c most) (e.run h) := by
  have hsends := e.sends_run hw.pageSize_le
  rwa [hw.client_eq] at hsends

section Connecting

variable {url : String} {auth : Option Auth} {settings : Settings} {token : Token} {l m : Link}

theorem settings_of_connect (hopen : connect url auth settings token l = (.ok h, m)) :
    h.settings = settings.normalize := by
  cases hc : Client.create url auth settings.normalize with
  | error e =>
    simp only [connect, hc] at hopen
    cases (Prod.mk.inj hopen).1
  | ok c =>
    obtain ⟨n, hconnect⟩ := connect_of_create token l hc
    rw [hconnect] at hopen
    obtain rfl := Except.ok.inj (Prod.mk.inj hopen).1
    rfl

end Connecting

end Handle

/-- Handles of one client and the streams that they opened, for a server that returns at most so many
issues. -/
structure Usage.Within (c : Client) (most : UInt32) (u : Usage) : Prop where
  handles : ∀ h ∈ u.handles, h.Within c most
  streams : ∀ s ∈ u.streams, s.pager.Within c most

theorem forall_mem_modify {Q : α → Prop} {f : α → α} {xs : List α} (hxs : ∀ x ∈ xs, Q x)
    (hf : ∀ x, Q x → Q (f x)) (i : ℕ) : ∀ x ∈ xs.modify i f, Q x := by
  intro x hx
  obtain ⟨j, hj⟩ := List.mem_iff_getElem?.1 hx
  rw [List.getElem?_modify] at hj
  obtain ⟨y, hy, rfl⟩ := Option.map_eq_some_iff.1 hj
  have hmem := hxs y (List.mem_of_getElem? hy)
  split
  · exact hf y hmem
  · exact hmem

namespace Usage

variable {u : Usage}

theorem within_step (hu : u.Within c most) (d : Deed) :
    u.site.link.Adds (SizedRequest c most) (u.step d).site.link ∧ (u.step d).Within c most := by
  cases d with
  | copy i =>
    refine ⟨.refl _, List.forall_mem_append.2 ⟨hu.handles, fun h hh => ?_⟩, hu.streams⟩
    exact hu.handles h (List.mem_of_getElem? (Option.mem_toList.1 hh))
  | setPageSize i n =>
    exact ⟨.refl _, forall_mem_modify hu.handles (fun _ hh => hh.setPageSize n) i, hu.streams⟩
  | setToken i token =>
    exact ⟨.refl _, forall_mem_modify hu.handles (fun _ hh => hh.setToken token) i, hu.streams⟩
  | cancel token | recache cache => exact ⟨.of_requests_eq rfl, hu.handles, hu.streams⟩
  | poll i =>
    cases hs : u.streams[i]? with
    | none =>
      simp only [step, hs]
      exact ⟨.refl _, hu⟩
    | some s =>
      obtain ⟨hadds, hwithin⟩ := IssueStream.within_next (hu.streams s (List.mem_of_getElem? hs)) u.site.link
      simp only [step, hs]
      refine ⟨hadds, hu.handles, fun t ht => ?_⟩
      obtain hold | rfl := List.mem_or_eq_of_mem_set ht
      · exact hu.streams t hold
      · exact hwithin
  | ask i errand =>
    cases hi : u.handles[i]? with
    | none =>
      simp only [step, hi]
      exact ⟨.refl _, hu⟩
    | some h =>
      have hsends := (hu.handles h (List.mem_of_getElem? hi)).sends_errand errand
      simp only [step, hi]
      refine ⟨hsends.adds u.site, hu.handles, List.forall_mem_append.2 ⟨hu.streams, ?_⟩⟩
      rcases hrun : errand.run h u.site with ⟨e | ss, m⟩
      · exact List.forall_mem_nil _
      · exact hsends.result hrun

/-- By induction on what is done. -/
theorem adds_run (hu : u.Within c most) (deeds : List Deed) :
    u.site.link.Adds (SizedRequest c most) (u.run deeds).site.link := by
  induction deeds generalizing u with
  | nil => exact .refl _
  | cons d deeds ih =>
    obtain ⟨hadds, hwithin⟩ := within_step hu d
    exact hadds.trans (ih hwithin)

end Usage

/-- However settings are adjusted, the page size is in its range, and from the first adjustment on that is
not of the attempts it is in use as it is set. So whatever is done with a handle and its copies, a page is
asked for with at least one issue and with no more than the server returns at once; only a count asks for
none. -/
theorem page_sizes_bounded :
    (∀ (s : Settings) (xs : List Settings.Adjustment),
      (1 ≤ (s.adjust xs).pageSize ∧ (s.adjust xs).pageSize ≤ max (s.adjust xs).serverMaxResults 1) ∧
      ((∃ x ∈ xs, x.isOfRetries = false) →
        (s.adjust xs).maxIssuesPerRequest = (s.adjust xs).pageSize ∧
          1 ≤ (s.adjust xs).serverMaxResults)) ∧
    (∀ s : Settings, s.normalize.normalize = s.normalize ∧ s.normalize.pageSize = s.pageSize) ∧
    ∀ (url : String) (auth : Option Auth) (settings : Settings) (token : Token) (l m : Link) (h : Handle),
      Handle.connect url auth settings token l = (.ok h, m) →
        h.settings.serverMaxResults = max settings.serverMaxResults 1 ∧
        ∀ (s : Site) (deeds : List Deed),
          s.link.Adds (SizedRequest h.client h.settings.serverMaxResults)
            (Usage.run { handles := [h], site := s } deeds).site.link := by
  refine ⟨fun s xs => ⟨(s.adjust xs).pageSize_bounds, fun hxs => ?_⟩, fun s => ?_, ?_⟩
  · have hclamped := Settings.clamped_adjust s hxs
    exact ⟨hclamped.maxIssuesPerRequest_eq, hclamped.one_le_serverMaxResults⟩
  · exact ⟨s.normalize_normalize, s.pageSize_normalize⟩
  · intro url auth settings token l m h hconnect
    have hsettings := Handle.settings_of_connect hconnect
    have hwithin : h.Within h.client h.settings.serverMaxResults :=
      ⟨rfl, hsettings ▸ settings.clamped_normalize, rfl⟩
    refine ⟨congrArg Settings.serverMaxResults hsettings, fun s deeds => ?_⟩
    exact Usage.adds_run ⟨List.forall_mem_singleton.2 hwithin, List.forall_mem_nil _⟩ deeds

/-- Settings without room for an issue. -/
def narrowSettings : Settings := { maxIssuesPerRequest := 500, serverMaxResults := 0 }

def narrowHandle : Handle := ⟨sampleClient, narrowSettings.normalize, .numbered 0⟩

theorem exists_connect_narrow :
    ∃ m, Handle.connect "https://jira.example.com/" none narrowSettings (.numbered 0) sampleLink =
      (.ok narrowHandle, m) := by
  have hclient : Client.create "https://jira.example.com/" none narrowSettings.normalize =
      .ok sampleClient := by cbv
  exact Handle.connect_of_create _ _ hclient

/-- There still is a handle with such settings, for pages of one issue. -/
theorem page_sizes_bounded_narrow :
    let adjusted := narrowSettings.adjust [.maxRetries 9, .normalize]
    (adjusted.maxIssuesPerRequest = adjusted.pageSize ∧ 1 ≤ adjusted.serverMaxResults) ∧
      (∃ m, Handle.connect "https://jira.example.com/" none narrowSettings (.numbered 0) sampleLink =
        (.ok narrowHandle, m)) ∧
      narrowHandle.settings.serverMaxResults = 1 ∧
      ∀ (n : UInt32) (jql : String),
        sampleLink.Adds (SizedRequest narrowHandle.client narrowHandle.settings.serverMaxResults)
          (Usage.run { handles := [narrowHandle], site := { link := sampleLink } }
            [.setPageSize 0 n, .ask 0 (.total jql), .ask 0 (.streamJql jql {}), .poll 0]).site.link := by
  obtain ⟨hadjust, -, hconnect⟩ := page_sizes_bounded
  obtain ⟨m, hopen⟩ := exists_connect_narrow
  obtain ⟨-, hadds⟩ := hconnect _ _ _ _ _ _ _ hopen
  refine ⟨(hadjust _ _).2 ⟨.normalize, by decide, rfl⟩, ⟨m, hopen⟩, rfl, fun n jql => ?_⟩
  exact hadds { link := sampleLink } _

end JiraQuery
