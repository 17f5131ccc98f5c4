import JiraQuery.Proofs.Handle.Results
import JiraQuery.Proofs.Search.Transcript

/-!
# Calls that ask the server

A call that has an answer has sent a request, and a call that gets through to the server sends one. What
a handle fetches stays out of the cache until the caller puts it there (`Handle.Asks`), as a collection
does with its slot (`Slot.collection_eq`).
-/

namespace JiraQuery

/-! ## Requests on the link -/

namespace Client

variable {token : Token} {r : Request} {l m : Link} {j : Json} {cancelled : Option Token}

theorem length_requests_le_attempt (token : Token) (r : Request) (l : Link) :
    l.requests.length ≤ (attempt token r l).2.requests.length := by
  obtain ⟨n, -, h⟩ := @requests_attempt token r l
  simp [h]

theorem length_requests_le_attempts (token : Token) (r : Request) (left failures : Nat) (l : Link) :
    l.requests.length ≤ (attempts token r left failures l).2.requests.length := by
  obtain ⟨n, -, h⟩ := @requests_attempts token r left failures l
  simp [h]

/-- Further attempts follow a failure that may pass. -/
theorem attempts_succ (left failures : Nat) (l : Link) :
    attempts token r (left + 1) failures l =
      match attempt token r l with
      | ((.ok j, _), m) => (.ok j, m)
      | ((.error e, cancelled), m) =>
        if e.isRetryable then
          attempts token r left (failures + 1) (backOff (failures + 1) cancelled m).2
        else (.error e, m) := by
  rcases hattempt : attempt token r l with ⟨⟨result, cancelled⟩, m⟩
  conv_lhs => unfold attempts
  simp only [bind, StateT.bind, hattempt]
  cases result with
  | ok j => rfl
  | error e => cases hretry : e.isRetryable <;> simp only [hretry] <;> rfl

/-- Nothing comes back from a request that does not go out. -/
theorem length_requests_attempt_of_ok (h : attempt token r l = ((.ok j, cancelled), m)) :
    l.requests.length < m.requests.length := by
  rw [attempt_eq] at h
  cases hcancelled : l.isCancelled token with
  | true =>
    rw [hcancelled, if_pos rfl] at h
    cases (Prod.mk.inj (Prod.mk.inj h).1).1
  | false =>
    rw [hcancelled, if_neg Bool.false_ne_true] at h
    obtain ⟨hresult, rfl⟩ := Prod.mk.inj h
    replace hresult := (Prod.mk.inj hresult).1
    rw [requests_settle]
    unfold Link.send at hresult ⊢
    cases hserver : l.server with
    | none => rw [hserver] at hresult; cases hresult
    | some answer =>
      cases hsendable : r.isSendable with
      | false => rw [hserver, hsendable] at hresult; cases hresult
      | true => simp

/-- An answer comes from the first attempt or from a later one, and requests are never taken back. -/
theorem length_requests_attempts_of_ok {left failures : Nat}
    (h : attempts token r left failures l = (.ok j, m)) : l.requests.length < m.requests.length := by
  induction left generalizing failures l with
  | zero =>
    rcases hattempt : attempt token r l with ⟨⟨result, cancelled⟩, n⟩
    have hresult : attempts token r 0 failures l = (result, n) := by
      show (Prod.fst (attempt token r l).1, (attempt token r l).2) = _
      rw [hattempt]
    obtain ⟨rfl, rfl⟩ := Prod.mk.inj (hresult.symm.trans h)
    exact length_requests_attempt_of_ok hattempt
  | succ left ih =>
    have hle := length_requests_le_attempt token r l
    rw [attempts_succ] at h
    rcases hattempt : attempt token r l with ⟨⟨result, cancelled⟩, n⟩
    rw [hattempt] at h hle
    cases result with
    | ok j' =>
      obtain ⟨-, rfl⟩ := Prod.mk.inj h
      exact length_requests_attempt_of_ok hattempt
    | error e =>
      cases hretry : e.isRetryable with
      | false =>
        simp only [hretry, Bool.false_eq_true, if_false] at h
        cases (Prod.mk.inj h).1
      | true =>
        simp only [hretry, if_true] at h
        have hlt := ih h
        rw [requests_backOff] at hlt
        exact lt_of_le_of_lt hle hlt

section
variable {c : Client} {answer : Server} (hl : l.Reaches c token answer) (method path : String)
  (body : Option Json)

include hl

/-- Against a server that can be reached the first attempt sends the request. -/
theorem length_requests_attempt_of_reaches :
    l.requests.length < (attempt token (c.request method path body) l).2.requests.length := by
  rw [attempt_eq, hl.not_cancelled, if_neg Bool.false_ne_true, hl.send_eq]
  show _ < (settle _ _ _ _).2.requests.length
  rw [requests_settle, Link.sent, List.length_append]
  exact Nat.lt_succ_self _

theorem length_requests_executeRaw_of_reaches :
    l.requests.length < (c.executeRaw token method path body l).2.requests.length := by
  have hfirst := length_requests_attempt_of_reaches hl method path body
  unfold executeRaw
  cases c.retries with
  | zero => exact hfirst
  | succ left =>
    rw [attempts_succ]
    rcases hattempt : attempt token (c.request method path body) l with ⟨⟨result, cancelled⟩, n⟩
    rw [hattempt] at hfirst
    cases result with
    | ok j => exact hfirst
    | error e =>
      cases hretry : e.isRetryable with
      | false => simpa [hretry] using hfirst
      | true =>
        simp only [hretry, if_true]
        refine lt_of_lt_of_le hfirst ?_
        rw [← requests_backOff 1 cancelled n]
        exact length_requests_le_attempts token _ left 1 _

/-- A server that says that something is not there is not asked again. -/
theorem executeRaw_of_missing {text : Option String}
    (ho : (answer l.requests.length (c.request method path body)).outcome = .answered 404 text) :
    ∃ what, c.executeRaw token method path body l =
      (.error (.notFound what), l.sent (c.request method path body)) := by
  let r := c.request method path body
  have hread : ∃ what, Response.read r.url 404 text = .error (.notFound what) := ⟨_, rfl⟩
  obtain ⟨what, hread⟩ := hread
  refine ⟨what, ?_⟩
  have hattempt : attempt token r l =
      ((Response.read r.url 404 text, (answer l.requests.length r).cancelOnRetry), l.sent r) := by
    rw [attempt_eq, hl.not_cancelled, if_neg Bool.false_ne_true, hl.send_eq]
    simp only [ho, settle]
    rfl
  unfold executeRaw
  cases c.retries with
  | zero =>
    show (Prod.fst (attempt token r l).1, (attempt token r l).2) = _
    rw [hattempt, hread]
  | succ left =>
    rw [attempts_succ, hattempt, hread]
    rfl

end

end Client

/-! ## Remote calls -/

theorem Remote.get_apply (s : Site) : (get : Remote Site) s = (.ok s, s) := rfl

theorem Remote.bind_eq {α β : Type} (call : Remote α) (f : α → Remote β) (s : Site) :
    (call >>= f) s =
      match call s with
      | (.ok a, m) => f a m
      | (.error e, m) => (.error e, m) := by
  show ExceptT.bindCont f (call s).1 (call s).2 = _
  rcases call s with ⟨_ | a, m⟩ <;> rfl

/-- A call that asks the server of a handle, and leaves the cache to others. -/
structure Handle.Asks {α : Type} (h : Handle) (call : Remote α) : Prop where
  cache_eq : ∀ s, (call s).2.cache = s.cache
  sent_of_ok : ∀ {s m a}, call s = (.ok a, m) → s.link.requests.length < m.link.requests.length
  sent_of_reaches : ∀ {s answer}, s.link.Reaches h.client h.token answer →
    s.link.requests.length < (call s).2.link.requests.length

/-- A call whose answer is read from the document that the server has at a path. -/
def Handle.Reads {α : Type} (h : Handle) (path : String) (read? : Json → Option α) (call : Remote α) : Prop :=
  ∀ s a m, call s = (.ok a, m) → ∃ j l,
    h.client.executeRaw h.token "GET" ("rest/api/2/" ++ path) none s.link = (.ok j, l) ∧ read? j = some a

namespace Handle

variable {α β : Type} {h : Handle} {call : Remote α}

/-- What a handle makes of the answer to its request. -/
theorem fetchWith_eq {read? : Json → Option α} {path : String} {s : Site} {r : Except ApiError Json}
    {l : Link} (hraw : h.client.executeRaw h.token "GET" ("rest/api/2/" ++ path) none s.link = (r, l)) :
    h.fetchWith read? path s =
      ((r.bind fun j => (read? j).elim (.error .invalidResponse) .ok).mapError .api, { s with link := l }) := by
  show Remote.viaLink (h.client.execute h.token "GET" ("rest/api/2/" ++ path) none read?) s = _
  unfold Remote.viaLink Client.execute
  simp only [bind, StateT.bind, hraw]
  rfl

theorem asks_fetchWith (h : Handle) (read? : Json → Option α) (path : String) :
    h.Asks (h.fetchWith read? path) where
  cache_eq _ := rfl
  sent_of_ok {s m a} hok := by
    rcases hraw : h.client.executeRaw h.token "GET" ("rest/api/2/" ++ path) none s.link with ⟨r, n⟩
    rw [fetchWith_eq hraw] at hok
    obtain ⟨hresult, rfl⟩ := Prod.mk.inj hok
    cases r with
    | error e => cases hresult
    | ok j => exact Client.length_requests_attempts_of_ok hraw
  sent_of_reaches hl := Client.length_requests_executeRaw_of_reaches hl _ _ _

theorem reads_fetchWith (h : Handle) (read? : Json → Option α) (path : String) :
    h.Reads path read? (h.fetchWith read? path) := by
  intro s a m hok
  rcases hraw : h.client.executeRaw h.token "GET" ("rest/api/2/" ++ path) none s.link with ⟨r, n⟩
  rw [fetchWith_eq hraw] at hok
  replace hok := (Prod.mk.inj hok).1
  cases r with
  | error e => cases hok
  | ok j =>
    refine ⟨j, n, rfl, ?_⟩
    simp only [Except.bind] at hok
    cases hread : read? j with
    | none => rw [hread] at hok; cases hok
    | some b => rw [hread] at hok; exact congrArg some (Except.ok.inj hok)

/-- What is made of the document goes on with what is read from it. -/
theorem Reads.bind {path : String} {read? : Json → Option α} (hcall : h.Reads path read? call) {f : α → Remote β}
    {g : α → Option β} (hf : ∀ a s b m, f a s = (.ok b, m) → g a = some b) :
    h.Reads path (fun j => (read? j).bind g) (call >>= f) := by
  intro s b m hok
  rw [Remote.bind_eq] at hok
  rcases hfirst : call s with ⟨_ | a, n⟩
  · rw [hfirst] at hok
    cases (Prod.mk.inj hok).1
  · rw [hfirst] at hok
    obtain ⟨j, l, hraw, hread⟩ := hcall _ _ _ hfirst
    exact ⟨j, l, hraw, Option.bind_eq_some_iff.2 ⟨a, hread, hf _ _ _ _ hok⟩⟩

/-- What the server has at a path. -/
theorem fetch_eq [Wire α] {s : Site} {path : String} {r : Request} {answer : Server} {status : Nat}
    {text : Option String} {j : Json} {a : α}
    (hr : h.client.request "GET" ("rest/api/2/" ++ path) none = r)
    (hl : s.link.Reaches h.client h.token answer)
    (ho : (answer s.link.requests.length r).outcome = .answered status text)
    (hj : Response.read r.url status text = .ok j) (ha : decode? j = some a) :
    h.fetch path s = (.ok a, { s with link := s.link.sent r }) := by
  subst hr
  refine (fetchWith_eq (Client.executeRaw_eq hl ho hj)).trans ?_
  simp only [Except.bind, ha]
  rfl

/-- What a server has at every path, if it has one text for all of them. -/
theorem fetch_of_text [Wire α] {s : Site} {text : String} {a : α} (path : String)
    (hl : s.link.Reaches h.client h.token fun _ _ => { outcome := .answered 200 (some text) })
    (hmark : text.toList.head? ≠ some '\ufeff') (hblank : text.toList.all Text.isBlank = false)
    (ha : (Json.parse? text).bind decode? = some a) :
    ∃ m, h.fetch path s = (.ok a, m) ∧ m.cache = s.cache := by
  obtain ⟨j, hj, hdecode⟩ := Option.bind_eq_some_iff.1 ha
  exact ⟨_, fetch_eq rfl hl rfl (Response.read_text _ hmark hblank hj) hdecode, rfl⟩

/-- A thing that the server says is not there. -/
theorem fetch_of_missing [Wire α] {s : Site} {path : String} {r : Request} {answer : Server}
    {text : Option String} (hr : h.client.request "GET" ("rest/api/2/" ++ path) none = r)
    (hl : s.link.Reaches h.client h.token answer)
    (ho : (answer s.link.requests.length r).outcome = .answered 404 text) :
    ∃ what, h.fetch (α := α) path s =
      (.error (.api (.notFound what)), { s with link := s.link.sent r }) := by
  subst hr
  obtain ⟨what, hraw⟩ := Client.executeRaw_of_missing hl "GET" ("rest/api/2/" ++ path) none ho
  exact ⟨what, fetchWith_eq hraw⟩

theorem Asks.bind_quiet (hcall : h.Asks call) {f : α → Remote β} (hf : ∀ a s, (f a s).2 = s) :
    h.Asks (call >>= f) := by
  have hsite : ∀ s, ((call >>= f) s).2 = (call s).2 := by
    intro s
    rw [Remote.bind_eq]
    rcases call s with ⟨_ | a, m⟩
    · rfl
    · exact hf a m
  refine ⟨fun s => by rw [hsite]; exact hcall.cache_eq s, fun {s m b} hok => ?_, fun hl => ?_⟩
  · have hm : (call s).2 = m := by rw [← hsite, hok]
    rw [Remote.bind_eq] at hok
    rcases hfirst : call s with ⟨_ | a, n⟩
    · rw [hfirst] at hok
      cases (Prod.mk.inj hok).1
    · have hsent := hcall.sent_of_ok hfirst
      rwa [← hm, hfirst]
  · rw [hsite]
    exact hcall.sent_of_reaches hl

/-- What becomes of a call for something that may not be there. -/
theorem notFoundAs_eq (call : Remote α) (message : String) (s : Site) :
    call.notFoundAs message s =
      ((call s).1.mapError fun e => if e.isNotFound then .notFound message else e, (call s).2) := by
  unfold Remote.notFoundAs
  simp only [tryCatch, tryCatchThe, MonadExceptOf.tryCatch, ExceptT.tryCatch, ExceptT.mk, bind, StateT.bind]
  rcases call s with ⟨r, m⟩
  cases r <;> rfl

theorem notFoundAs_of_ok {s m : Site} {a : α} (message : String) (hok : call s = (.ok a, m)) :
    call.notFoundAs message s = (.ok a, m) := by
  rw [notFoundAs_eq, hok]
  rfl

theorem notFoundAs_of_error {s m : Site} {e : Error} (message : String) (he : e.isNotFound = true)
    (herror : call s = (.error e, m)) : call.notFoundAs message s = (.error (.notFound message), m) := by
  rw [notFoundAs_eq, herror]
  show (Except.error (if e.isNotFound then .notFound message else e), m) = _
  rw [he]
  rfl

theorem Asks.notFoundAs (hcall : h.Asks call) (message : String) : h.Asks (call.notFoundAs message) := by
  refine ⟨fun s => by rw [notFoundAs_eq]; exact hcall.cache_eq s, fun {s m a} hok => ?_, fun hl => ?_⟩
  · rw [notFoundAs_eq] at hok
    obtain ⟨hresult, rfl⟩ := Prod.mk.inj hok
    rcases hfirst : call s with ⟨r, n⟩
    cases r with
    | error e => rw [hfirst] at hresult; cases hresult
    | ok a' => exact hcall.sent_of_ok hfirst
  · rw [notFoundAs_eq]
    exact hcall.sent_of_reaches hl

end Handle

/-! ## Collections -/

/-- All that asking for a collection can do. -/
theorem Slot.collection_eq {α : Type} [Entity α] (slot : Slot α) (fetch : Remote (List α)) (s : Site) :
    slot.collection fetch s =
      if (slot.read s.cache).complete then
        (.ok (slot.read s.cache).entries, { s with cache := slot.write s.cache (slot.read s.cache) })
      else
        let taken := (slot.read s.cache).populate (fetch s).1
        (taken.1, { (fetch s).2 with cache := slot.write (fetch s).2.cache taken.2 }) := by
  have hcollection : slot.collection fetch s =
      (fun r => (r.1.1, { r.2 with cache := slot.write r.2.cache r.1.2 }))
        ((slot.read s.cache).getOrPopulate fetch.run s) := rfl
  rw [hcollection]
  unfold Store.getOrPopulate
  split
  · rfl
  · rfl

/-- A collection that has not been fetched is taken over from the server. -/
theorem Slot.collection_of_ok {α : Type} [Entity α] {slot : Slot α} {fetch : Remote (List α)}
    {xs : List α} {s m : Site} (hnew : (slot.read s.cache).complete = false)
    (hfetch : fetch s = (.ok xs, m)) :
    slot.collection fetch s =
      (.ok ((slot.read s.cache).seed xs).entries,
        { m with cache := slot.write m.cache ((slot.read s.cache).seed xs) }) := by
  rw [collection_eq, hnew, hfetch]
  rfl

end JiraQuery
