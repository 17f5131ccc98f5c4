import JiraQuery.Proofs.Cache.Finding
import JiraQuery.Proofs.Handle.Memory

/-!
# Looking a thing up again

What the server answers is kept under the id in the answer, which need not be what was asked for. So a
second look-up finds the answer of the first one only if the two meet. Main statement:
`Handle.repeats_iff`.
-/

namespace JiraQuery

/-- The call gives an answer without a word to the server. -/
def Remote.Repeats {α : Type} (call : Remote α) (a : α) (s : Site) : Prop :=
  ∃ m, call s = (.ok a, m) ∧ m.link.requests = s.link.requests

namespace Handle

variable {h : Handle} {key : String} {s m : Site}

/-- An answer that costs no request is one that the cache has. -/
theorem repeats_iff_known (h : Handle) (c : Call) (a : c.Answer) (s : Site) :
    (h.perform c).Repeats a s ↔ c.known? s.cache = some a := by
  constructor
  · rintro ⟨m, hok, hrequests⟩
    have hturn := h.turn c s
    rw [hok] at hturn
    cases hturn with
    | known hknown => exact hknown
    | fetched _ hsent _ _ =>
      rw [hrequests] at hsent
      exact absurd hsent (Nat.lt_irrefl _)
  · intro hknown
    exact ⟨s, h.perform_of_known hknown, rfl⟩

/-- A project is found again by the key that it has itself. -/
theorem known_project_iff {p : Project} (hok : h.project key s = (.ok p, m)) :
    m.cache.projects.getById? key = some p ↔ p.key = key := by
  refine ⟨fun hfound => (Store.getById?_of_some hfound).2, fun hkey => ?_⟩
  have hturn : Turn (.project key) s (.ok p, m) := hok ▸ h.turn (.project key) s
  cases hturn with
  | known hknown => exact hknown
  | fetched hknown _ hkept _ =>
    have hnew : Entity.id p ∉ s.cache.projects.ids := by
      show p.key ∉ _
      rw [hkey]
      exact Store.getById?_eq_none_iff.1 hknown
    have hstore : m.cache.projects = (s.cache.projects.tryAdd p).2 := hkept
    rw [hstore, ← hkey]
    exact Store.getById?_tryAdd_of_new hnew

/-- A status is found again by its own id, and by its own name if it is in the cache as it came. -/
theorem known_status_iff {x : Status} (hok : h.status key s = (.ok x, m)) :
    m.cache.statuses.getByIdOrName? key = some x ↔
      x.id = key ∨ Text.sameName x.name key = true ∧ x ∈ m.cache.statuses.entries := by
  constructor
  · intro hfound
    obtain ⟨hx, hkey⟩ := Store.getByIdOrName?_of_some hfound
    exact hkey.imp id fun hname => ⟨hname.2, hx⟩
  · intro hkey
    have hturn : Turn (.status key) s (.ok x, m) := hok ▸ h.turn (.status key) s
    cases hturn with
    | known hknown => exact hknown
    | fetched hknown _ hkept _ =>
      have hstore : m.cache.statuses = (s.cache.statuses.tryAdd x).2 := hkept
      obtain ⟨hids, hnames⟩ := Store.getByIdOrName?_eq_none_iff.1 hknown
      have hnew : Entity.id x ∉ s.cache.statuses.ids := by
        rcases hkey with rfl | ⟨hname, hx⟩
        · exact hids
        · -- an older status with the id would be in the way, and it has another name
          intro hold
          rw [hstore] at hx
          have hsame : (s.cache.statuses.tryAdd x).2.entries = s.cache.statuses.entries :=
            if_pos (Entity.holds_iff.2 hold)
          rw [hsame] at hx
          exact Bool.false_ne_true ((hnames x hx).symm.trans hname)
      rw [hstore]
      exact Store.getByIdOrName?_tryAdd_of_new hnew hknown (hkey.imp id And.left)

/-- A second look-up costs nothing if, and only if, the first one came back with what was asked for: a
project with that key, or a status with that id or, in the cache, with that name. -/
theorem repeats_iff (h : Handle) (key : String) (s m : Site) :
    (∀ p, h.project key s = (.ok p, m) → ((h.project key).Repeats p m ↔ p.key = key)) ∧
      ∀ x, h.status key s = (.ok x, m) → ((h.status key).Repeats x m ↔
        x.id = key ∨ Text.sameName x.name key = true ∧ x ∈ m.cache.statuses.entries) :=
  ⟨fun p hok => (h.repeats_iff_known (.project key) p m).trans (known_project_iff hok),
    fun x hok => (h.repeats_iff_known (.status key) x m).trans (known_status_iff hok)⟩

end Handle

/-! ## A server with names of its own -/

/-- A document that can be read as a project and as a status. -/
def ownText : String := "\x7b\"id\":\"1\",\"key\":\"TST\",\"name\":\"Open\"\x7d"

def ownProject : Project := { id := "1", key := "TST", name := "Open" }

def ownStatus : Status := { id := "1", name := "Open" }

/-- A site whose server finds the same thing under many names. -/
def ownSite : Site where
  link := { server := some fun _ _ => { outcome := .answered 200 (some ownText) } }

theorem fetch_ownSite {α : Type} [Wire α] {a : α} (path : String)
    (ha : (Json.parse? ownText).bind decode? = some a) :
    ∃ m, sampleHandle.fetch path ownSite = (.ok a, m) ∧ m.cache = ownSite.cache := by
  have hopening : Text.isBlank '\x7b' = false := by decide
  exact Handle.fetch_of_text path ⟨rfl, rfl, rfl⟩ (by simp [ownText]) (by simp [ownText, hopening]) ha

theorem project_ownSite (key : String) : ∃ m, sampleHandle.project key ownSite = (.ok ownProject, m) := by
  obtain ⟨m, hfetch, -⟩ := fetch_ownSite (a := ownProject)
    (Path.ofSegments ["project", key] ++ "?expand=lead,url") (by cbv)
  rw [Handle.project_eq]
  exact ⟨_, Handle.askOnce_of_ok rfl (Handle.notFoundAs_of_ok _ hfetch)⟩

theorem status_ownSite (key : String) : ∃ m, sampleHandle.status key ownSite = (.ok ownStatus, m) ∧
    m.cache.statuses.entries = [ownStatus] := by
  obtain ⟨m, hfetch, hcache⟩ := fetch_ownSite (a := ownStatus) (Path.ofSegments ["status", key]) (by cbv)
  have hask : sampleHandle.askStatus key ownSite = (.ok ownStatus, m) :=
    (sampleHandle.askStatus_of_incomplete key rfl).trans (Handle.notFoundAs_of_ok _ hfetch)
  rw [Handle.status_eq]
  refine ⟨_, Handle.askOnce_of_ok rfl hask, ?_⟩
  rw [hcache]
  rfl

/-- A project that was asked for in small letters, and a status that was found by its name. -/
theorem repeats_ownSite :
    (∃ m, sampleHandle.project "tst" ownSite = (.ok ownProject, m) ∧
      ¬ (sampleHandle.project "tst").Repeats ownProject m) ∧
    ∃ m, sampleHandle.status "open" ownSite = (.ok ownStatus, m) ∧
      (sampleHandle.status "open").Repeats ownStatus m := by
  obtain ⟨m, hproject⟩ := project_ownSite "tst"
  obtain ⟨n, hstatus, hentries⟩ := status_ownSite "open"
  refine ⟨⟨m, hproject, ?_⟩, n, hstatus, ?_⟩
  · rw [(Handle.repeats_iff sampleHandle "tst" ownSite m).1 ownProject hproject]
    decide
  · rw [(Handle.repeats_iff sampleHandle "open" ownSite n).2 ownStatus hstatus, hentries]
    exact .inr ⟨by decide, List.mem_cons_self⟩

/-- The server knows the project and the status by other names than their own, so neither is found again. -/
theorem asks_again_ownSite :
    (∃ m, sampleHandle.project "tst" ownSite = (.ok ownProject, m) ∧
      ¬ (sampleHandle.project "tst").Repeats ownProject m) ∧
    ∃ m, sampleHandle.status "offen" ownSite = (.ok ownStatus, m) ∧
      ¬ (sampleHandle.status "offen").Repeats ownStatus m := by
  obtain ⟨m, hproject⟩ := project_ownSite "tst"
  obtain ⟨n, hstatus, hentries⟩ := status_ownSite "offen"
  refine ⟨⟨m, hproject, fun hrepeats => ?_⟩, n, hstatus, fun hrepeats => ?_⟩
  · have hknown := (sampleHandle.repeats_iff_known (.project "tst") ownProject m).1 hrepeats
    have hkey := (Handle.known_project_iff hproject).1 hknown
    revert hkey
    decide
  · have hknown := (sampleHandle.repeats_iff_known (.status "offen") ownStatus n).1 hrepeats
    have hkey := (Handle.known_status_iff hstatus).1 hknown
    rw [hentries] at hkey
    revert hkey
    decide

end JiraQuery
