import JiraQuery.Search.Pager
import Mathlib

/-!
# Servers that hold a list of issues

What a server has to do for a search to be meaningful: its replies tell the length of one list of
issues and give parts of it, from where they were asked for. Main statement: `SearchRequest.fetch_eq`,
a request to such a server costs one message and comes back with a page.
-/

namespace JiraQuery

/-! ## Reaching a server -/

/-- A link through which the requests of a client get to a server. -/
structure Link.Reaches (l : Link) (c : Client) (token : Token) (answer : Server) : Prop where
  server_eq : l.server = some answer
  sendable : (c.auth.map Auth.header).all Auth.isHeaderText = true
  not_cancelled : l.isCancelled token = false

/-- The link after a request. -/
def Link.sent (r : Request) (l : Link) : Link :=
  { l with requests := l.requests ++ [r] }

theorem Link.Reaches.sent {l : Link} {c : Client} {token : Token} {answer : Server}
    (h : l.Reaches c token answer) (r : Request) : (l.sent r).Reaches c token answer :=
  ⟨h.server_eq, h.sendable, h.not_cancelled⟩

theorem Link.Reaches.send_eq {l : Link} {c : Client} {token : Token} {answer : Server}
    (h : l.Reaches c token answer) (method path : String) (body : Option Json) :
    l.send (c.request method path body) =
      (answer l.requests.length (c.request method path body),
        l.sent (c.request method path body)) := by
  have hsendable : (c.request method path body).isSendable = true := h.sendable
  simp only [Link.send, h.server_eq, hsendable, if_true, Link.sent]

/-- No attempt follows one that succeeds. -/
theorem Client.attempts_of_attempt {token : Token} {r : Request} {l m : Link} {j : Json}
    {cancelled : Option Token} (h : attempt token r l = ((.ok j, cancelled), m))
    (left failures : Nat) : attempts token r left failures l = (.ok j, m) := by
  cases left with
  | zero =>
    show (Prod.fst (attempt token r l).1, (attempt token r l).2) = _
    rw [h]
  | succ left =>
    unfold attempts
    simp only [bind, StateT.bind, h]
    rfl

theorem Client.executeRaw_eq {l : Link} {c : Client} {token : Token} {answer : Server}
    {method path : String} {body : Option Json} {status : Nat} {text : Option String} {j : Json}
    (hl : l.Reaches c token answer)
    (ho : (answer l.requests.length (c.request method path body)).outcome = .answered status text)
    (hj : Response.read (c.request method path body).url status text = .ok j) :
    c.executeRaw token method path body l = (.ok j, l.sent (c.request method path body)) := by
  have hattempt : (attempt token (c.request method path body)).run l =
      ((.ok j, (answer l.requests.length (c.request method path body)).cancelOnRetry),
        l.sent (c.request method path body)) := by
    simp [attempt, hl.not_cancelled, hl.send_eq, ho, settle, hj]
    rfl
  exact attempts_of_attempt hattempt _ _

/-! ## Searches -/

/-- What a search is about. -/
structure Topic where
  jql : String
  /-- The names of the fields that the issues carry. -/
  fields : List String
  expand : List String := []
  deriving DecidableEq, Repr

/-- The value that a reply carries, if it is a success. -/
def Reply.value? {α : Type} [Wire α] (url : String) (r : Reply) : Option α :=
  match r.outcome with
  | .answered status body => (Response.read url status body).toOption.bind decode?
  | _ => none

/-- The page of issues that a reply carries, if it is a success. -/
def Reply.page? (url : String) (r : Reply) : Option (Page Issue) :=
  r.value? url

namespace SearchRequest

/-- The request as a client sends it. -/
def post (q : SearchRequest) (c : Client) : Request :=
  c.request "POST" "rest/api/2/search" (some (encode q))

/-- A request for issues of a topic, or only for their number. -/
def Concerns (q : SearchRequest) (t : Topic) : Prop :=
  q.jql = t.jql ∧ (q.maxResults = 0 ∨ q.fields = t.fields ∧ q.expand = t.expand)

/-- A page says how many issues there are. If issues were asked for, it holds some of them from the
position in the request on, and at least one unless that is beyond the end. -/
structure IsAnswer (q : SearchRequest) (xs : List Issue) (page : Page Issue) : Prop where
  total_eq : page.total.toNat = xs.length
  slice : 0 < q.maxResults → page.items <+: xs.drop q.startAt.toNat
  ne_nil : 0 < q.maxResults → q.startAt.toNat < xs.length → page.items ≠ []

end SearchRequest

/-- A server that answers a client's searches on a topic from one list of issues. -/
structure Server.Holds (answer : Server) (c : Client) (t : Topic) (xs : List Issue) : Prop where
  length_lt : xs.length < 2 ^ 32
  reply : ∀ n (q : SearchRequest), q.Concerns t →
    ∃ page, (answer n (q.post c)).page? (q.post c).url = some page ∧ q.IsAnswer xs page

/-- A server whose pages are as long as they can be. -/
def Server.Fills (answer : Server) (c : Client) (t : Topic) (xs : List Issue) : Prop :=
  ∀ n (q : SearchRequest) page, q.Concerns t →
    (answer n (q.post c)).page? (q.post c).url = some page →
    page.items.length = min q.maxResults.toNat (xs.length - q.startAt.toNat)

theorem SearchRequest.fetch_eq {l : Link} {c : Client} {token : Token} {answer : Server}
    {q : SearchRequest} {page : Page Issue} (hl : l.Reaches c token answer)
    (hp : (answer l.requests.length (q.post c)).page? (q.post c).url = some page) :
    q.fetch c token l = (.ok page, l.sent (q.post c)) := by
  unfold Reply.page? Reply.value? at hp
  split at hp
  · next status body ho =>
    cases hj : Response.read (q.post c).url status body with
    | error e => simp [hj, Except.toOption] at hp
    | ok j =>
      have hdecode : decode? j = some page := by simpa [hj, Except.toOption] using hp
      have hraw := Client.executeRaw_eq hl ho hj
      unfold fetch Client.execute
      simp only [bind, StateT.bind, hraw, pure, StateT.pure, Except.bind, hdecode]
      rfl
  · simp at hp

/-- The total of a search is the number of issues. -/
theorem searchTotal_eq {l : Link} {c : Client} {token : Token} {answer : Server} {t : Topic}
    {xs : List Issue} (hl : l.Reaches c token answer) (hs : answer.Holds c t xs) :
    ∃ total m, searchTotal c token t.jql l = (.ok total, m) ∧ total.toNat = xs.length := by
  let q : SearchRequest := { jql := t.jql, startAt := 0, maxResults := 0, fields := ["key"] }
  obtain ⟨page, hpage, ha⟩ := hs.reply l.requests.length q ⟨rfl, .inl rfl⟩
  have hfetch : q.fetch c token l = (.ok page, l.sent (q.post c)) := SearchRequest.fetch_eq hl hpage
  have htotal := congrArg (fun r => (r.1.map Page.total, r.2)) hfetch
  exact ⟨page.total, l.sent (q.post c), htotal, ha.total_eq⟩

/-! ## A server with two issues -/

def sampleIssues : List Issue := [{ id := "1", key := "A-1" }, { id := "2", key := "A-2" }]

/-- The page from a position on, of at most so many issues. -/
def sampleText : Nat → Nat → String
  | 0, 1 => "\x7b\"total\":2,\"issues\":[\x7b\"id\":\"1\",\"key\":\"A-1\"\x7d]\x7d"
  | 0, _ + 2 => "\x7b\"total\":2,\"issues\":[\x7b\"id\":\"1\",\"key\":\"A-1\"\x7d,\x7b\"id\":\"2\",\"key\":\"A-2\"\x7d]\x7d"
  | 1, _ + 1 => "\x7b\"total\":2,\"issues\":[\x7b\"id\":\"2\",\"key\":\"A-2\"\x7d]\x7d"
  | _, _ => "\x7b\"total\":2\x7d"

/-- Answers every search from the two issues, with pages that are as long as they can be. -/
def Server.sample : Server := fun _ r =>
  match (r.body.bind decode? : Option SearchRequest) with
  | some q => { outcome := .answered 200 (some (sampleText q.startAt.toNat q.maxResults.toNat)) }
  | none => { outcome := .answered 400 none }

/-- A text that is a document is read as it. -/
theorem Response.read_text {text : String} {j : Json} (url : String)
    (hmark : text.toList.head? ≠ some '\ufeff') (hblank : text.toList.all Text.isBlank = false)
    (hparse : Json.parse? text = some j) : Response.read url 200 (some text) = .ok j := by
  have htext : Response.text? 200 (some text) = some text := by
    unfold Response.text?
    split
    · simp_all
    · simp only [Option.map_some]
      split
      · simp_all
      · rw [String.ofList_toList]
  have hsuccess : isSuccess 200 = true := rfl
  simp only [Response.read, hsuccess, htext, if_true, Response.document, hblank, hparse]
  rfl

theorem value?_answered {α : Type} [Wire α] {text : String} {a : α} (url : String)
    (hmark : text.toList.head? ≠ some '\ufeff') (hblank : text.toList.all Text.isBlank = false)
    (ha : (Json.parse? text).bind decode? = some a) :
    (Reply.mk (.answered 200 (some text)) none).value? url = some a := by
  obtain ⟨j, hparse, hdecode⟩ := Option.bind_eq_some_iff.1 ha
  simp only [Reply.value?, Response.read_text url hmark hblank hparse]
  exact hdecode

theorem page?_answered {text : String} {page : Page Issue} (url : String)
    (hmark : text.toList.head? ≠ some '\ufeff') (hblank : text.toList.all Text.isBlank = false)
    (hpage : (Json.parse? text).bind decode? = some page) :
    (Reply.mk (.answered 200 (some text)) none).page? url = some page :=
  value?_answered url hmark hblank hpage

theorem page?_sampleText (url : String) : ∀ s m,
    (Reply.mk (.answered 200 (some (sampleText s m))) none).page? url =
      some { total := 2, items := (sampleIssues.drop s).take m }
  | 0, 0 => page?_answered url (by decide) (by decide) (by cbv)
  | 0, 1 => page?_answered url (by decide) (by decide) (by cbv)
  | 0, m + 2 => by
    have htake : sampleIssues.take (m + 2) = sampleIssues := List.take_of_length_le (Nat.le_add_left 2 m)
    rw [List.drop_zero, htake]
    exact @page?_answered (sampleText 0 2) _ url (by decide) (by decide) (by cbv)
  | 1, 0 => page?_answered url (by decide) (by decide) (by cbv)
  | 1, m + 1 => by
    have htake : (sampleIssues.drop 1).take (m + 1) = sampleIssues.drop 1 :=
      List.take_of_length_le (Nat.le_add_left 1 m)
    rw [htake]
    exact @page?_answered (sampleText 1 1) _ url (by decide) (by decide) (by cbv)
  | s + 2, m => by
    have hdrop : sampleIssues.drop (s + 2) = [] := List.drop_eq_nil_of_le (Nat.le_add_left 2 s)
    rw [hdrop, List.take_nil]
    exact @page?_answered (sampleText 2 0) _ url (by decide) (by decide) (by cbv)

theorem Server.page?_sample (n : Nat) (q : SearchRequest) (c : Client) (url : String) :
    (Server.sample n (q.post c)).page? url =
      some { total := 2, items := (sampleIssues.drop q.startAt.toNat).take q.maxResults.toNat } := by
  have hbody : ((q.post c).body.bind decode? : Option SearchRequest) = some q :=
    LawfulWire.decode_encode q
  unfold Server.sample
  rw [hbody]
  exact page?_sampleText url _ _

theorem Server.holds_sample (c : Client) (t : Topic) : Server.sample.Holds c t sampleIssues where
  length_lt := by decide
  reply n q _ := by
    refine ⟨_, page?_sample n q c _, rfl, fun _ => List.take_prefix _ _, fun hm hs hnil => ?_⟩
    have hpos : 0 < q.maxResults.toNat := UInt32.lt_iff_toNat_lt.1 hm
    have hlength := congrArg List.length hnil
    simp only [List.length_take, List.length_drop, List.length_nil] at hlength
    omega

theorem Server.fills_sample (c : Client) (t : Topic) : Server.sample.Fills c t sampleIssues := by
  intro n q page _ hpage
  obtain rfl := Option.some.inj (hpage.symm.trans (page?_sample n q c _))
  simp only [List.length_take, List.length_drop]

/-- A link to the server, over which nothing has been sent. -/
def sampleLink : Link := { server := some Server.sample }

/-- A client without credentials. -/
def sampleClient : Client := { baseUrl := "https://jira.example.com", auth := none, retries := 2 }

theorem reaches_sampleLink (token : Token) : sampleLink.Reaches sampleClient token Server.sample :=
  ⟨rfl, rfl, rfl⟩

end JiraQuery
