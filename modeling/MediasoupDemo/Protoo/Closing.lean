import MediasoupDemo.Protoo.Requests

/-!
# Requests when the peer is closed

`close` takes back the timeouts of the pending requests and forgets them.  It
calls no handler, so whoever waits for the outcome of such a request waits
forever.

* `Fates` says what becomes of a request: it is pending, or its handler was
  called, or it was dropped.  `fates_run` carries this through a run.
* `not_called_of_dropped`: a request that was dropped stays without outcome.
* `calls_close`: all requests are settled after `close` only if they were settled
  before.
-/

namespace MediasoupDemo.Protoo

open MediasoupDemo.Runtime

namespace Peer

/-- The run has made the peer forget a request without calling its handler. -/
def Dropped (transportClosed : Bool) (events : List Event)
    (proxy : ClientRequestHandlerProxy) : Prop :=
  ∃ before e after, events = before ++ e :: after ∧
    Drops ((new transportClosed).run before) e proxy

/-- The handler of a proxy was called. -/
def Called (p : Peer) (proxy : ClientRequestHandlerProxy) : Prop :=
  ∃ c ∈ p.calls, c.proxy = proxy

/-- Every request that was sent has had its handler called. -/
def AllSettled (p : Peer) : Prop :=
  ∀ proxy ∈ p.created, proxy.mClientRequestHandler ≠ none → Called p proxy

instance (p : Peer) (proxy : ClientRequestHandlerProxy) : Decidable (Called p proxy) :=
  inferInstanceAs (Decidable (∃ c ∈ p.calls, c.proxy = proxy))

instance (p : Peer) : Decidable (AllSettled p) :=
  inferInstanceAs (Decidable (∀ proxy ∈ p.created, _ → _))

variable {events : List Event}

theorem dropped_snoc {transportClosed : Bool} {e : Event} {proxy : ClientRequestHandlerProxy} :
    Dropped transportClosed (events ++ [e]) proxy ↔
      Dropped transportClosed events proxy ∨ Drops ((new transportClosed).run events) e proxy := by
  constructor
  · rintro ⟨before, e', after, heq, hdrops⟩
    rcases List.eq_nil_or_concat after with rfl | ⟨after, e'', rfl⟩
    · obtain ⟨rfl, hlast⟩ := List.append_inj' heq rfl
      cases hlast
      exact .inr hdrops
    · rw [List.concat_eq_append, ← List.cons_append, ← List.append_assoc] at heq
      obtain ⟨rfl, -⟩ := List.append_inj' heq rfl
      exact .inl ⟨before, e', after, rfl, hdrops⟩
  · rintro (⟨before, e', after, rfl, hdrops⟩ | hdrops)
    · exact ⟨before, e', after ++ [e], by simp, hdrops⟩
    · exact ⟨events, e, [], rfl, hdrops⟩

/-- What has become of the requests of a run. -/
structure Fates (p : Peer) (transportClosed : Bool) (events : List Event) : Prop where
  /-- a request is pending, or settled, or dropped -/
  fate : ∀ proxy ∈ p.created, proxy.mClientRequestHandler ≠ none →
    proxy ∈ p.timers ∨ Called p proxy ∨ Dropped transportClosed events proxy
  /-- a request that was dropped is not pending, and its handler not called -/
  lost : ∀ proxy, Dropped transportClosed events proxy →
    proxy ∈ p.created ∧ proxy ∉ p.timers ∧ ¬ Called p proxy

section Fates

variable {p p' : Peer} {e : Event} {proxy : ClientRequestHandlerProxy}

theorem called_call (p : Peer) (other : ClientRequestHandlerProxy) (outcome : Outcome) :
    Called (p.call other outcome) proxy ↔
      Called p proxy ∨ other.mClientRequestHandler ≠ none ∧ other = proxy := by
  unfold Called Peer.call
  cases other.mClientRequestHandler with
  | none => simp
  | some handler => simp [or_and_right, exists_or]

theorem called_of_calls_eq (h : p'.calls = p.calls) : Called p' proxy ↔ Called p proxy := by
  rw [Called, Called, h]

/-- A handler that an event calls is the one of a request that was pending and
is not dropped. -/
theorem Change.called (h : Change p e p') (hcalled : Called p' proxy) :
    Called p proxy ∨ proxy ∈ p.timers ∧ ¬ Drops p e proxy := by
  cases h with
  | unchanged _ _ hcalls => exact .inl ((called_of_calls_eq hcalls).mp hcalled)
  | added other _ _ _ hcalls => exact .inl ((called_of_calls_eq hcalls).mp hcalled)
  | dropped _ _ _ hcalls => exact .inl ((called_of_calls_eq hcalls).mp hcalled)
  | settled other outcome hother _ _ hcalls hno =>
    rw [called_of_calls_eq hcalls, called_call] at hcalled
    rcases hcalled with hbefore | ⟨-, rfl⟩
    · exact .inl hbefore
    · exact .inr ⟨hother, hno _⟩

theorem Change.called_mono (h : Change p e p') (hcalled : Called p proxy) : Called p' proxy := by
  cases h with
  | unchanged _ _ hcalls => exact (called_of_calls_eq hcalls).mpr hcalled
  | added other _ _ _ hcalls => exact (called_of_calls_eq hcalls).mpr hcalled
  | dropped _ _ _ hcalls => exact (called_of_calls_eq hcalls).mpr hcalled
  | settled other outcome _ _ _ hcalls =>
    rw [called_of_calls_eq hcalls, called_call]
    exact .inl hcalled

/-- A pending request stays pending, or its handler is called, or it is
dropped. -/
theorem Change.fate (h : Change p e p') (hproxy : proxy ∈ p.timers)
    (hhandler : proxy.mClientRequestHandler ≠ none) :
    proxy ∈ p'.timers ∨ Called p' proxy ∨ Drops p e proxy := by
  cases h with
  | unchanged htimers => exact .inl (htimers ▸ hproxy)
  | added other _ htimers =>
    rw [htimers]
    exact .inl (List.mem_append_left _ hproxy)
  | settled other outcome _ htimers _ hcalls =>
    by_cases heq : other = proxy
    · rw [called_of_calls_eq hcalls, called_call]
      exact .inr (.inl (.inr ⟨heq ▸ hhandler, heq⟩))
    · rw [htimers, List.mem_filter, decide_eq_true_eq]
      exact .inl ⟨hproxy, fun h => heq h.symm⟩
  | dropped _ htimers =>
    by_cases hdrops : Drops p e proxy
    · exact .inr (.inr hdrops)
    · exact .inl ((htimers proxy).mpr ⟨hproxy, hdrops⟩)

/-- A request that an event drops was pending and is not any more. -/
theorem Change.drops (h : Change p e p') (hdrops : Drops p e proxy) :
    proxy ∈ p.timers ∧ proxy ∉ p'.timers := by
  cases h with
  | unchanged _ _ _ hno => exact absurd hdrops (hno proxy)
  | added _ _ _ _ _ hno => exact absurd hdrops (hno proxy)
  | settled _ _ _ _ _ _ hno => exact absurd hdrops (hno proxy)
  | dropped harmed htimers =>
    refine ⟨harmed proxy hdrops, ?_⟩
    rw [htimers]
    exact fun hin => hin.2 hdrops

/-- A new request is pending. -/
theorem Change.mem_created_cases (h : Change p e p') (hproxy : proxy ∈ p'.created) :
    proxy ∈ p.created ∨ proxy ∈ p'.timers := by
  cases h with
  | unchanged _ hcreated => exact .inl (hcreated ▸ hproxy)
  | settled _ _ _ _ hcreated => exact .inl (hcreated ▸ hproxy)
  | dropped _ _ hcreated => exact .inl (hcreated ▸ hproxy)
  | added other _ htimers hcreated =>
    rw [hcreated, List.mem_append] at hproxy
    rw [htimers, List.mem_append]
    exact hproxy.imp_right .inr

/-- No handler of a pending request was called. -/
theorem Consistent.not_called (h : Consistent p) (hproxy : proxy ∈ p.timers) :
    ¬ Called p proxy := by
  rintro ⟨c, hc, rfl⟩
  exact (h.called c hc).2 hproxy

/-- A request that is neither pending nor settled stays so. -/
theorem Change.lost_of_lost (h : Change p e p')
    (hnew : ∀ requestId, e.requestId? = some requestId →
      requestId ∉ p.created.map ClientRequestHandlerProxy.mRequestId)
    (hcreated : proxy ∈ p.created) (hunarmed : proxy ∉ p.timers) (hno : ¬ Called p proxy) :
    proxy ∈ p'.created ∧ proxy ∉ p'.timers ∧ ¬ Called p' proxy := by
  refine ⟨h.mem_created hcreated, h.not_mem_timers hnew hcreated hunarmed, ?_⟩
  intro hcalled
  rcases h.called hcalled with hbefore | ⟨harmed, -⟩
  · exact hno hbefore
  · exact hunarmed harmed

/-- A request that an event drops is neither pending nor settled after it. -/
theorem Change.lost_of_drops (h : Change p e p') (hp : Consistent p) (hdrops : Drops p e proxy) :
    proxy ∈ p'.created ∧ proxy ∉ p'.timers ∧ ¬ Called p' proxy := by
  obtain ⟨harmed, hunarmed⟩ := h.drops hdrops
  refine ⟨h.mem_created (hp.known proxy harmed), hunarmed, ?_⟩
  intro hcalled
  rcases h.called hcalled with hbefore | ⟨-, hnot⟩
  · exact hp.not_called harmed hbefore
  · exact hnot hdrops

end Fates

theorem Fates.snoc {transportClosed : Bool} {e : Event}
    (h : ((new transportClosed).run events).Fates transportClosed events)
    (hids : (requestIds (events ++ [e])).Nodup) :
    ((new transportClosed).run (events ++ [e])).Fates transportClosed (events ++ [e]) := by
  have hstands := stands_run transportClosed (nodup_requestIds_left hids)
  have hchange := hstands.consistent.change (effect_next _ e)
  rw [run_snoc]
  refine ⟨?_, ?_⟩
  · intro proxy hproxy hhandler
    rw [dropped_snoc]
    rcases hchange.mem_created_cases hproxy with hcreated | harmed
    · rcases h.fate proxy hcreated hhandler with harmed | hcalled | hdropped
      · rcases hchange.fate harmed hhandler with harmed' | hcalled | hdrops
        · exact .inl harmed'
        · exact .inr (.inl hcalled)
        · exact .inr (.inr (.inr hdrops))
      · exact .inr (.inl (hchange.called_mono hcalled))
      · exact .inr (.inr (.inl hdropped))
    · exact .inl harmed
  · intro proxy hdropped
    rcases dropped_snoc.mp hdropped with hdropped | hdrops
    · obtain ⟨hcreated, hunarmed, hno⟩ := h.lost proxy hdropped
      exact hchange.lost_of_lost (hstands.new_id hids) hcreated hunarmed hno
    · exact hchange.lost_of_drops hstands.consistent hdrops

theorem fates_run (transportClosed : Bool) (hids : (requestIds events).Nodup) :
    ((new transportClosed).run events).Fates transportClosed events := by
  induction events using List.reverseRecOn with
  | nil =>
    refine ⟨?_, ?_⟩
    · cases transportClosed <;> nofun
    · rintro proxy ⟨before, e, after, heq, -⟩
      simp at heq
  | append_singleton events e ih => exact (ih (nodup_requestIds_left hids)).snoc hids

/-- A request that was dropped has not had its handler called, however long the
run goes on. -/
theorem not_called_of_dropped (transportClosed : Bool) {before after : List Event}
    (hids : (requestIds (before ++ after)).Nodup) {proxy : ClientRequestHandlerProxy}
    (h : Dropped transportClosed before proxy) :
    ¬ Called ((new transportClosed).run (before ++ after)) proxy := by
  obtain ⟨before', e, after', rfl, hdrops⟩ := h
  refine ((fates_run transportClosed hids).lost proxy ?_).2.2
  exact ⟨before', e, after' ++ after, by simp, hdrops⟩

theorem calls_close {p : Peer} (h : Consistent p) : (p.next .close).calls = p.calls ∧
    (p.next .close).created = p.created := by
  cases effect_next p .close with
  | unchanged hsame => exact ⟨hsame.calls, hsame.created⟩
  | closed _ hsame =>
    rw [h.cleared.2] at hsame
    exact ⟨hsame.calls, hsame.created⟩

/-- After `close`, all requests are settled if and only if no request was
pending before and none was dropped.  A request that is pending when `close` is
called on an open peer is never settled. -/
theorem settled_close_iff (transportClosed : Bool) (events : List Event)
    (hids : (requestIds events).Nodup) :
    (AllSettled (((new transportClosed).run events).next .close) ↔
      (∀ proxy ∈ ((new transportClosed).run events).pending,
        proxy.mClientRequestHandler = none) ∧
      ∀ proxy, Dropped transportClosed events proxy → proxy.mClientRequestHandler = none) ∧
    (∀ after proxy, (requestIds (events ++ .close :: after)).Nodup →
      ((new transportClosed).run events).mClosed = false →
      proxy ∈ ((new transportClosed).run events).pending →
      ¬ Called ((new transportClosed).run (events ++ .close :: after)) proxy) := by
  have h := (stands_run transportClosed hids).consistent
  have hfates := fates_run transportClosed hids
  obtain ⟨hcalls, hcreated⟩ := calls_close h
  have hcalled : ∀ proxy, Called (((new transportClosed).run events).next .close) proxy ↔
      Called ((new transportClosed).run events) proxy := fun proxy => called_of_calls_eq hcalls
  refine ⟨⟨?_, ?_⟩, ?_⟩
  · intro hsettled
    constructor
    · intro proxy hpending
      rw [h.mem_pending] at hpending
      by_contra hhandler
      have hdone := hsettled proxy (hcreated ▸ h.known proxy hpending) hhandler
      exact h.not_called hpending ((hcalled proxy).mp hdone)
    · intro proxy hdropped
      obtain ⟨hproxy, -, hno⟩ := hfates.lost proxy hdropped
      by_contra hhandler
      exact hno ((hcalled proxy).mp (hsettled proxy (hcreated ▸ hproxy) hhandler))
  · rintro ⟨hpending, hdropped⟩ proxy hproxy hhandler
    rw [hcreated] at hproxy
    rw [hcalled]
    rcases hfates.fate proxy hproxy hhandler with harmed | hdone | hlost
    · exact absurd (hpending proxy ((h.mem_pending proxy).mpr harmed)) hhandler
    · exact hdone
    · exact absurd (hdropped proxy hlost) hhandler
  · intro after proxy hids' hopen hpending
    rw [List.append_cons] at hids' ⊢
    exact not_called_of_dropped transportClosed hids'
      (dropped_snoc.mpr (.inr ⟨hopen, hpending⟩))

/-- A request that was answered is settled when the peer is closed. -/
theorem settled_close_answered :
    (requestIds [.request 7 "join" "data" (some 0),
      .message (.response { mId := 7, mOK := true, mData := some "data" })]).Nodup ∧
    AllSettled (((new false).run [.request 7 "join" "data" (some 0),
      .message (.response { mId := 7, mOK := true, mData := some "data" })]).next .close) := by
  refine ⟨by decide, (settled_close_iff false _ (by decide)).1.mpr ⟨by decide, ?_⟩⟩
  rintro proxy ⟨before, e, after, heq, hdrops⟩
  rcases before with _ | ⟨e₁, _ | ⟨e₂, before⟩⟩
  · cases heq
    cases hdrops
  · cases heq
    obtain ⟨-, -, hdata, -⟩ := hdrops
    cases hdata
  · simp at heq

/-- A request is pending when the peer is closed. -/
theorem not_settled_close_pending :
    (requestIds [.request 7 "join" "data" (some 0)]).Nodup ∧
      ((new false).run [.request 7 "join" "data" (some 0), .close]).calls = [] ∧
      ¬ AllSettled (((new false).run [.request 7 "join" "data" (some 0)]).next .close) := by
  decide

end Peer

end MediasoupDemo.Protoo
