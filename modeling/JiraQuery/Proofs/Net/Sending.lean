import JiraQuery.Proofs.Net.Asking

/-!
# What goes out

What is known of all requests of a call: a predicate on requests holds of everything that the call puts on
the link, whatever the link was and however the call ends (`Remote.Sends`). It is put together along the
call, from its single requests.
-/

namespace JiraQuery

variable {P : Request → Prop}

/-- What one link has sent and another one has not is such requests. -/
def Link.Adds (P : Request → Prop) (l m : Link) : Prop :=
  ∃ rs, m.requests = l.requests ++ rs ∧ ∀ r ∈ rs, P r

namespace Link.Adds

variable {l m n : Link}

theorem of_requests_eq (h : m.requests = l.requests) : l.Adds P m :=
  ⟨[], by rw [h, List.append_nil], List.forall_mem_nil _⟩

theorem refl (l : Link) : l.Adds P l :=
  of_requests_eq rfl

theorem trans (h : l.Adds P m) (h' : m.Adds P n) : l.Adds P n := by
  obtain ⟨rs, hm, hrs⟩ := h
  obtain ⟨rs', hn, hrs'⟩ := h'
  exact ⟨rs ++ rs', by rw [hn, hm, List.append_assoc], List.forall_mem_append.2 ⟨hrs, hrs'⟩⟩

end Link.Adds

/-- Retries send the same request again. -/
theorem Client.adds_executeRaw {c : Client} {token : Token} {method path : String} {body : Option Json}
    (h : P (c.request method path body)) (l : Link) :
    l.Adds P (c.executeRaw token method path body l).2 := by
  obtain ⟨n, -, hrequests⟩ := @requests_attempts token (c.request method path body) c.retries 0 l
  exact ⟨_, hrequests, fun r hr => List.eq_of_mem_replicate hr ▸ h⟩

/-- All requests of a call are such requests, and its result, if there is one, is such a value. -/
structure Remote.Sends {α : Type} (P : Request → Prop) (Q : α → Prop) (call : Remote α) : Prop where
  adds : ∀ s : Site, s.link.Adds P (call s).2.link
  result : ∀ {s m : Site} {a : α}, call s = (.ok a, m) → Q a

namespace Remote.Sends

variable {α β : Type} {Q : α → Prop} {R : β → Prop} {call : Remote α}

/-- A call that sends nothing. -/
theorem of_link_eq (hlink : ∀ s : Site, (call s).2.link = s.link)
    (hresult : ∀ {s m : Site} {a : α}, call s = (.ok a, m) → Q a) : Sends P Q call where
  adds s := .of_requests_eq (congrArg Link.requests (hlink s))
  result := hresult

theorem pure {a : α} (h : Q a) : Sends P Q (Pure.pure a) :=
  of_link_eq (fun _ => rfl) fun hok => by
    obtain rfl := Except.ok.inj (Prod.mk.inj hok).1
    exact h

theorem throw (e : Error) : Sends P Q (throw e : Remote α) :=
  of_link_eq (fun _ => rfl) fun hok => by cases (Prod.mk.inj hok).1

theorem bind {f : α → Remote β} (h : Sends P Q call) (hf : ∀ a, Q a → Sends P R (f a)) :
    Sends P R (call >>= f) where
  adds s := by
    have hfirst := h.adds s
    rw [bind_eq]
    rcases hcall : call s with ⟨e | a, m⟩
    · rwa [hcall] at hfirst
    · rw [hcall] at hfirst
      exact hfirst.trans ((hf a (h.result hcall)).adds m)
  result {s m b} hok := by
    rw [bind_eq] at hok
    rcases hcall : call s with ⟨e | a, m'⟩
    · rw [hcall] at hok
      cases (Prod.mk.inj hok).1
    · rw [hcall] at hok
      exact (hf a (h.result hcall)).result hok

theorem discard (h : Sends P Q call) : Sends P (fun _ => True) (discard call) := by
  have hbind : Functor.discard call = call >>= fun _ => Pure.pure () := by
    unfold Functor.discard
    rw [map_const]
    exact map_eq_pure_bind _ _
  rw [hbind]
  exact h.bind fun _ _ => .pure trivial

theorem viaLink {call : StateM Link (Except ApiError α)} (hadds : ∀ l : Link, l.Adds P (call l).2)
    (hresult : ∀ {l m : Link} {a : α}, call l = (.ok a, m) → Q a) : Sends P Q (viaLink call) where
  adds s := hadds s.link
  result {s m a} hok := by
    rcases hcall : call s.link with ⟨r, l⟩
    have hrun : Remote.viaLink call s = (r.mapError .api, { s with link := l }) := by
      unfold Remote.viaLink
      rw [hcall]
    rw [hrun] at hok
    cases r with
    | error e => cases (Prod.mk.inj hok).1
    | ok b =>
      obtain rfl : b = a := Except.ok.inj (Prod.mk.inj hok).1
      exact hresult hcall

theorem notFoundAs (h : Sends P Q call) (message : String) : Sends P Q (call.notFoundAs message) where
  adds s := by
    rw [Handle.notFoundAs_eq]
    exact h.adds s
  result {s m a} hok := by
    rw [Handle.notFoundAs_eq] at hok
    rcases hcall : call s with ⟨e | b, n⟩
    · rw [hcall] at hok
      cases (Prod.mk.inj hok).1
    · rw [hcall] at hok
      obtain rfl : b = a := Except.ok.inj (Prod.mk.inj hok).1
      exact h.result hcall

end Remote.Sends

end JiraQuery
