import MediasoupDemo.Lib.Registry
import MediasoupDemo.Protoo.Effects
import Mathlib.Data.List.Induction

/-!
# Requests and their timeouts

What holds of the requests of a peer in every run in which each call is
executed as a whole and no id is used twice.

* `Consistent` is the invariant: the pending requests are those with an armed
  timeout, and none of them has had its handler called.  `stands_run` carries
  it through a run.
* `Change` says again what an event does, in terms of the timeouts only.
* `no_effect_after`: when a request is over, neither its timeout nor a response
  has an effect.
-/

namespace MediasoupDemo.Protoo

open MediasoupDemo.Runtime Registry

namespace Peer

/-! ## The invariant -/

/-- The pending requests are those with an armed timeout; a request whose
handler was called is no longer pending, and was called once. -/
structure Consistent (p : Peer) : Prop where
  entry : ∀ {requestId proxy}, p.mSends.lookup requestId = some proxy →
    proxy.mRequestId = requestId
  armed : ∀ proxy, proxy ∈ p.timers ↔ p.mSends.lookup proxy.mRequestId = some proxy
  timersNodup : p.timers.Nodup
  known : ∀ proxy ∈ p.timers, proxy ∈ p.created
  refs : p.created.map ClientRequestHandlerProxy.ref = List.range p.created.length
  ids : (p.created.map ClientRequestHandlerProxy.mRequestId).Nodup
  called : ∀ c ∈ p.calls, c.proxy ∈ p.created ∧ c.proxy ∉ p.timers
  once : (p.calls.map HandlerCall.proxy).Nodup

theorem consistent_new (transportClosed : Bool) : Consistent (new transportClosed) := by
  cases transportClosed with
  | true =>
    refine ⟨nofun, fun proxy => ?_, .nil, nofun, rfl, .nil, nofun, .nil⟩
    simp [new]
  | false =>
    refine ⟨nofun, fun proxy => ?_, .nil, nofun, rfl, .nil, nofun, .nil⟩
    simp [new]

section Preserved

variable {p p' : Peer} {proxy other : ClientRequestHandlerProxy}

/-- A proxy is determined by its identity. -/
theorem eq_of_ref
    (hrefs : p.created.map ClientRequestHandlerProxy.ref = List.range p.created.length)
    (hproxy : proxy ∈ p.created) (hother : other ∈ p.created) (href : proxy.ref = other.ref) :
    proxy = other := by
  have hnodup : (p.created.map ClientRequestHandlerProxy.ref).Nodup := by
    rw [hrefs]
    exact List.nodup_range
  exact List.inj_on_of_nodup_map hnodup hproxy hother href

section

variable (h : Consistent p)
include h

theorem Consistent.of_same (hsame : Same p p') : Consistent p' := by
  obtain ⟨hsends, htimers, hcreated, hcalls⟩ := hsame
  refine ⟨?_, ?_, ?_, ?_, ?_, ?_, ?_, ?_⟩
  · rw [hsends]
    exact h.entry
  · rw [hsends, htimers]
    exact h.armed
  · rw [htimers]
    exact h.timersNodup
  · rw [htimers, hcreated]
    exact h.known
  · rw [hcreated]
    exact h.refs
  · rw [hcreated]
    exact h.ids
  · rw [hcalls, hcreated, htimers]
    exact h.called
  · rw [hcalls]
    exact h.once

theorem Consistent.eq_of_id (hproxy : proxy ∈ p.created)
    (hother : other ∈ p.created) (hid : proxy.mRequestId = other.mRequestId) : proxy = other :=
  List.inj_on_of_nodup_map h.ids hproxy hother hid

/-- An entry of the map has an armed timeout. -/
theorem Consistent.armed_of_lookup {requestId : Int}
    (hlookup : p.mSends.lookup requestId = some proxy) : proxy ∈ p.timers := by
  rw [h.armed, h.entry hlookup]
  exact hlookup

theorem Consistent.added {requestId : Int} {method : String} {handler : Option Nat}
    (hnew : requestId ∉ p.created.map ClientRequestHandlerProxy.mRequestId) :
    Consistent ((p.construct (p.proxy requestId method handler)).put requestId
      (p.proxy requestId method handler)) := by
  have hids : ∀ other ∈ p.created, other.mRequestId ≠ requestId := by
    intro other hother heq
    exact hnew (heq ▸ List.mem_map_of_mem hother)
  have hfresh : p.proxy requestId method handler ∉ p.created := fun hin => hids _ hin rfl
  refine ⟨?_, ?_, ?_, ?_, ?_, ?_, ?_, h.once⟩
  · intro id other hlookup
    rcases lookup_insert_eq_some.mp hlookup with ⟨hid, rfl⟩ | ⟨-, hlookup⟩
    · exact hid.symm
    · exact h.entry hlookup
  · intro other
    show other ∈ p.timers ++ [_] ↔ AList.lookup _ (AList.insert _ _ p.mSends) = _
    rw [mem_snoc, lookup_insert_eq_some, ← h.armed]
    constructor
    · rintro (hin | rfl)
      · exact .inr ⟨hids other (h.known other hin), hin⟩
      · exact .inl ⟨rfl, rfl⟩
    · rintro (⟨-, heq⟩ | ⟨-, hin⟩)
      · exact .inr heq.symm
      · exact .inl hin
  · exact nodup_snoc.mpr ⟨fun hin => hfresh (h.known _ hin), h.timersNodup⟩
  · intro other hother
    rcases mem_snoc.mp hother with hin | heq
    · exact List.mem_append_left _ (h.known other hin)
    · exact mem_snoc.mpr (.inr heq)
  · show (p.created ++ [_]).map _ = List.range (p.created ++ [_]).length
    rw [List.map_append, h.refs, List.length_append, List.length_singleton, List.range_succ]
    rfl
  · exact nodup_map_snoc.mpr ⟨hids, h.ids⟩
  · intro c hc
    obtain ⟨hcreated, hunarmed⟩ := h.called c hc
    refine ⟨List.mem_append_left _ hcreated, ?_⟩
    show c.proxy ∉ p.timers ++ [_]
    rw [mem_snoc, not_or]
    exact ⟨hunarmed, fun heq => hfresh (heq ▸ hcreated)⟩

/-- A pending request is taken out together with its timeout. -/
theorem Consistent.removed (hproxy : proxy ∈ p.timers) :
    Consistent ((p.remove proxy.mRequestId).cancel proxy) := by
  refine ⟨?_, ?_, ?_, ?_, h.refs, h.ids, ?_, h.once⟩
  · intro id other hother
    exact h.entry (lookup_erase_eq_some.mp hother).2
  · intro other
    show other ∈ p.timers.filter _ ↔ AList.lookup _ (p.mSends.erase proxy.mRequestId) = _
    rw [List.mem_filter, decide_eq_true_eq, lookup_erase_eq_some, ← h.armed]
    constructor
    · rintro ⟨hin, hne⟩
      refine ⟨fun hid => hne ?_, hin⟩
      exact h.eq_of_id (h.known other hin) (h.known proxy hproxy) hid
    · rintro ⟨hid, hin⟩
      refine ⟨hin, ?_⟩
      rintro rfl
      exact hid rfl
  · exact h.timersNodup.filter _
  · intro other hother
    exact h.known other (List.mem_filter.mp hother).1
  · intro c hc
    obtain ⟨hcreated, hunarmed⟩ := h.called c hc
    exact ⟨hcreated, fun hin => hunarmed (List.mem_filter.mp hin).1⟩

/-- The handler of a request that is no longer pending is called for the first
time. -/
theorem Consistent.call (hcreated : proxy ∈ p.created)
    (hunarmed : proxy ∉ p.timers) (hfirst : ∀ c ∈ p.calls, c.proxy ≠ proxy) (outcome : Outcome) :
    Consistent (p.call proxy outcome) := by
  unfold Peer.call
  cases proxy.mClientRequestHandler with
  | none => exact h
  | some handler =>
    refine ⟨h.entry, h.armed, h.timersNodup, h.known, h.refs, h.ids, ?_, ?_⟩
    · intro c hc
      rcases mem_snoc.mp hc with hin | rfl
      · exact h.called c hin
      · exact ⟨hcreated, hunarmed⟩
    · exact nodup_map_snoc.mpr ⟨hfirst, h.once⟩

theorem Consistent.settled (hproxy : proxy ∈ p.timers) (outcome : Outcome) :
    Consistent (((p.remove proxy.mRequestId).cancel proxy).call proxy outcome) := by
  apply (h.removed hproxy).call
  · exact h.known proxy hproxy
  · intro hin
    simpa using (List.mem_filter.mp hin).2
  · intro c hc heq
    exact (h.called c hc).2 (heq ▸ hproxy)

/-- Taking a proxy from the queue is the same as taking it back. -/
theorem Consistent.dequeue_eq_cancel :
    p.dequeue proxy = p.cancel proxy := by
  rw [dequeue, cancel, h.timersNodup.erase_eq_filter]
  congr 2
  funext x
  simp [bne, Bool.beq_eq_decide_eq]

/-- `close` takes back all timeouts. -/
theorem Consistent.cleared :
    Consistent { p.cancelAll p.pending with mSends := ∅ } ∧
      { p.cancelAll p.pending with mSends := ∅ } = { p with mSends := ∅, timers := [] } := by
  have htimers : p.timers.filter (· ∉ p.pending) = [] := by
    rw [List.filter_eq_nil_iff]
    intro proxy hproxy
    have hentry := AList.mem_lookup_iff.mp ((h.armed proxy).mp hproxy)
    have hpending : proxy ∈ p.pending := List.mem_map_of_mem hentry
    simpa using hpending
  have heq : { p.cancelAll p.pending with mSends := ∅ } =
      { p with mSends := ∅, timers := [] } := by
    rw [cancelAll_eq, htimers]
  refine ⟨?_, heq⟩
  rw [heq]
  refine ⟨nofun, fun proxy => ?_, .nil, nofun, h.refs, h.ids, ?_, h.once⟩
  · simp
  · intro c hc
    exact ⟨(h.called c hc).1, by simp⟩

end

end Preserved

/-! ## Runs -/

def Event.requestId? : Event → Option Int
  | .request requestId _ _ _ => some requestId
  | _ => none

/-- The ids of the requests of a run. -/
def requestIds (events : List Event) : List Int := events.filterMap Event.requestId?

theorem run_snoc (p : Peer) (events : List Event) (e : Event) :
    p.run (events ++ [e]) = (p.run events).next e := by
  rw [run, run, List.foldl_append]
  rfl

/-- A peer after some events: the invariant holds, and its requests were made by
the events. -/
structure Stands (p : Peer) (events : List Event) : Prop where
  consistent : Consistent p
  issued : ∀ proxy ∈ p.created, proxy.mRequestId ∈ requestIds events

variable {proxy : ClientRequestHandlerProxy}

section Step

variable {p : Peer} {events : List Event} {e : Event}

variable {p' : Peer}

/-- The invariant of the next state, by what the event did. -/
theorem Consistent.effect (h : Consistent p) (heffect : Effect p e p')
    (hnew : ∀ requestId, e.requestId? = some requestId →
      requestId ∉ p.created.map ClientRequestHandlerProxy.mRequestId) : Consistent p' := by
  cases heffect with
  | unchanged hsame => exact h.of_same hsame
  | added hproxy hsame =>
    subst hproxy
    exact (h.added (hnew _ rfl)).of_same hsame
  | answered hlookup _ hsame =>
    rw [← h.entry hlookup] at hsame
    exact (h.settled (h.armed_of_lookup hlookup) _).of_same hsame
  | failed _ hlookup _ _ hsame =>
    rw [← h.entry hlookup] at hsame
    exact (h.removed (h.armed_of_lookup hlookup)).of_same hsame
  | expired hproxy _ hsame =>
    rw [h.dequeue_eq_cancel] at hsame
    exact (h.settled hproxy requestTimeout).of_same hsame
  | closed _ hsame => exact h.cleared.1.of_same hsame

/-- The same in terms of the queue of the looper, which the map repeats. -/
inductive Change (p : Peer) (e : Event) (p' : Peer) : Prop
  | unchanged :
      p'.timers = p.timers → p'.created = p.created → p'.calls = p.calls →
      (∀ proxy, ¬ Drops p e proxy) → Change p e p'
  | added (proxy : ClientRequestHandlerProxy) :
      e.requestId? = some proxy.mRequestId → p'.timers = p.timers ++ [proxy] →
      p'.created = p.created ++ [proxy] → p'.calls = p.calls →
      (∀ other, ¬ Drops p e other) → Change p e p'
  | settled (proxy : ClientRequestHandlerProxy) (outcome : Outcome) :
      proxy ∈ p.timers → p'.timers = p.timers.filter (· ≠ proxy) → p'.created = p.created →
      p'.calls = (p.call proxy outcome).calls → (∀ other, ¬ Drops p e other) → Change p e p'
  | dropped :
      (∀ proxy, Drops p e proxy → proxy ∈ p.timers) →
      (∀ proxy, proxy ∈ p'.timers ↔ proxy ∈ p.timers ∧ ¬ Drops p e proxy) →
      p'.created = p.created → p'.calls = p.calls → Change p e p'

theorem call_fields (p : Peer) (proxy : ClientRequestHandlerProxy) (outcome : Outcome) :
    (p.call proxy outcome).timers = p.timers ∧ (p.call proxy outcome).created = p.created ∧
      ∀ q : Peer, q.calls = p.calls →
        (q.call proxy outcome).calls = (p.call proxy outcome).calls := by
  unfold Peer.call
  cases proxy.mClientRequestHandler with
  | none => exact ⟨rfl, rfl, fun q hq => hq⟩
  | some handler => exact ⟨rfl, rfl, fun q hq => by rw [hq]⟩

theorem Consistent.mem_pending (h : Consistent p) (proxy : ClientRequestHandlerProxy) :
    proxy ∈ p.pending ↔ proxy ∈ p.timers := by
  constructor
  · intro hin
    obtain ⟨⟨requestId, other⟩, hentry, heq⟩ := List.mem_map.mp hin
    have hlookup := AList.mem_lookup_iff.mpr hentry
    subst heq
    exact h.armed_of_lookup hlookup
  · intro hin
    exact List.mem_map_of_mem (AList.mem_lookup_iff.mp ((h.armed proxy).mp hin))

theorem Consistent.change (h : Consistent p) (heffect : Effect p e p') :
    Change p e p' := by
  cases heffect with
  | unchanged hsame hno => exact .unchanged hsame.timers hsame.created hsame.calls hno
  | added hproxy hsame =>
    subst hproxy
    exact .added _ rfl hsame.timers hsame.created hsame.calls fun _ => id
  | @answered response proxy outcome _ hlookup houtcome hsame =>
    have hfields := call_fields ((p.remove response.mId).cancel proxy) proxy outcome
    refine .settled proxy outcome (h.armed_of_lookup hlookup) (hsame.timers.trans hfields.1)
      (hsame.created.trans hfields.2.1) (hsame.calls.trans (hfields.2.2 p rfl).symm) ?_
    rintro other ⟨-, hok, hdata, -⟩
    rw [outcomeOf, hok, hdata] at houtcome
    cases houtcome
  | @failed response proxy _ hopen hlookup hok hdata hsame =>
    have hdrops : ∀ other, Drops p (.message (.response response)) other ↔ other = proxy := by
      intro other
      show _ ∧ _ ∧ _ ∧ p.mSends.lookup response.mId = some other ↔ _
      rw [hlookup, Option.some.injEq]
      exact ⟨fun hdrop => hdrop.2.2.2.symm, fun heq => ⟨hopen, hok, hdata, heq.symm⟩⟩
    refine .dropped ?_ ?_ hsame.created hsame.calls
    · intro other hdrop
      rw [(hdrops other).mp hdrop]
      exact h.armed_of_lookup hlookup
    · intro other
      rw [hdrops, hsame.timers]
      show other ∈ p.timers.filter _ ↔ _
      rw [List.mem_filter, decide_eq_true_eq]
  | @expired ref proxy _ hproxy _ hsame =>
    rw [h.dequeue_eq_cancel] at hsame
    have hfields := call_fields ((p.cancel proxy).remove proxy.mRequestId) proxy requestTimeout
    exact .settled proxy requestTimeout hproxy (hsame.timers.trans hfields.1)
      (hsame.created.trans hfields.2.1) (hsame.calls.trans (hfields.2.2 p rfl).symm) fun _ => id
  | closed hopen hsame =>
    rw [h.cleared.2] at hsame
    have hdrops : ∀ other, Drops p .close other ↔ other ∈ p.timers := by
      intro other
      show _ ∧ other ∈ p.pending ↔ _
      rw [h.mem_pending]
      exact ⟨fun hdrop => hdrop.2, fun hin => ⟨hopen, hin⟩⟩
    refine .dropped (fun other hdrop => (hdrops other).mp hdrop) ?_ hsame.created hsame.calls
    intro other
    rw [hdrops, hsame.timers]
    simp

/-- A proxy stays in the list of proxies. -/
theorem Change.mem_created (h : Change p e p') (hin : proxy ∈ p.created) : proxy ∈ p'.created := by
  cases h with
  | unchanged _ hcreated => rwa [hcreated]
  | added other _ _ hcreated =>
    rw [hcreated]
    exact List.mem_append_left _ hin
  | settled other _ _ _ hcreated => rwa [hcreated]
  | dropped _ _ hcreated => rwa [hcreated]

/-- A timeout that is not armed stays so. -/
theorem Change.not_mem_timers (h : Change p e p')
    (hnew : ∀ requestId, e.requestId? = some requestId →
      requestId ∉ p.created.map ClientRequestHandlerProxy.mRequestId) (hcreated : proxy ∈ p.created)
    (hunarmed : proxy ∉ p.timers) : proxy ∉ p'.timers := by
  cases h with
  | unchanged htimers => rwa [htimers]
  | added other hid htimers =>
    rw [htimers, mem_snoc, not_or]
    refine ⟨hunarmed, ?_⟩
    rintro rfl
    exact hnew _ hid (List.mem_map_of_mem hcreated)
  | settled other _ _ htimers =>
    rw [htimers]
    exact fun hin => hunarmed (List.mem_filter.mp hin).1
  | dropped _ htimers =>
    rw [htimers]
    exact fun hin => hunarmed hin.1

theorem Stands.new_id (h : p.Stands events) (hids : (requestIds (events ++ [e])).Nodup)
    (requestId : Int) (he : e.requestId? = some requestId) :
    requestId ∉ p.created.map ClientRequestHandlerProxy.mRequestId := by
  intro hin
  obtain ⟨proxy, hproxy, hid⟩ := List.mem_map.mp hin
  have hissued := h.issued proxy hproxy
  rw [requestIds, List.filterMap_append, List.nodup_append] at hids
  exact hids.2.2 _ hissued requestId (by simp [he]) hid

/-- The invariant after one more event. -/
theorem Stands.next (h : p.Stands events) (hids : (requestIds (events ++ [e])).Nodup) :
    (p.next e).Stands (events ++ [e]) := by
  have heffect := effect_next p e
  refine ⟨h.consistent.effect heffect (h.new_id hids), ?_⟩
  intro proxy hproxy
  have hold : proxy ∈ p.created → proxy.mRequestId ∈ requestIds (events ++ [e]) := by
    intro hin
    rw [requestIds, List.filterMap_append]
    exact List.mem_append_left _ (h.issued proxy hin)
  cases h.consistent.change heffect with
  | unchanged _ hcreated => exact hold (hcreated ▸ hproxy)
  | added other hid _ hcreated =>
    rw [hcreated, mem_snoc] at hproxy
    rcases hproxy with hin | rfl
    · exact hold hin
    · rw [requestIds, List.filterMap_append]
      exact List.mem_append_right _ (by simp [hid])
  | settled _ _ _ _ hcreated => exact hold (hcreated ▸ hproxy)
  | dropped _ _ hcreated => exact hold (hcreated ▸ hproxy)

end Step

variable {before after : List Event}

theorem nodup_requestIds_left
    (hids : (requestIds (before ++ after)).Nodup) : (requestIds before).Nodup := by
  rw [requestIds, List.filterMap_append] at hids
  exact hids.of_append_left

/-- The invariant holds in every state of a run. -/
theorem stands_run (transportClosed : Bool) {events : List Event}
    (hids : (requestIds events).Nodup) : ((new transportClosed).run events).Stands events := by
  induction events using List.reverseRecOn with
  | nil =>
    refine ⟨consistent_new transportClosed, ?_⟩
    cases transportClosed <;> nofun
  | append_singleton events e ih =>
    rw [run_snoc]
    exact (ih (nodup_requestIds_left hids)).next hids

/-- A proxy whose timeout is no longer armed stays so in the rest of a run. -/
theorem unarmed_run {transportClosed : Bool} (hids : (requestIds (before ++ after)).Nodup)
    (hcreated : proxy ∈ ((new transportClosed).run before).created)
    (hunarmed : proxy ∉ ((new transportClosed).run before).timers) :
    proxy ∈ ((new transportClosed).run (before ++ after)).created ∧
      proxy ∉ ((new transportClosed).run (before ++ after)).timers := by
  induction after using List.reverseRecOn with
  | nil =>
    rw [List.append_nil]
    exact ⟨hcreated, hunarmed⟩
  | append_singleton after e ih =>
    rw [← List.append_assoc] at hids ⊢
    have hids' := nodup_requestIds_left hids
    obtain ⟨hcreated', hunarmed'⟩ := ih hids'
    have hstands := stands_run transportClosed hids'
    have hchange := hstands.consistent.change (effect_next _ e)
    rw [run_snoc]
    exact ⟨hchange.mem_created hcreated',
      hchange.not_mem_timers (hstands.new_id hids) hcreated' hunarmed'⟩

/-- Without an armed timeout, neither the timeout nor a response has an
effect. -/
theorem Consistent.no_effect {p : Peer} (h : Consistent p) (hcreated : proxy ∈ p.created)
    (hunarmed : proxy ∉ p.timers) :
    p.next (.timer proxy.ref) = p ∧
      ∀ response : Response, response.mId = proxy.mRequestId →
        p.next (.message (.response response)) = p := by
  constructor
  · apply next_timer_unarmed
    intro other hother href
    have heq := eq_of_ref h.refs (h.known other hother) hcreated href
    exact hunarmed (heq ▸ hother)
  · intro response hid
    apply next_response_unmatched
    cases hlookup : p.mSends.lookup response.mId with
    | none => rfl
    | some other =>
      have hother := h.armed_of_lookup hlookup
      have heq := h.eq_of_id (h.known other hother) hcreated ((h.entry hlookup).trans hid)
      exact absurd (heq ▸ hother) hunarmed

/-- A timeout that has run is not armed. -/
theorem Consistent.unarmed_timer {p : Peer} (h : Consistent p) (hproxy : proxy ∈ p.timers) :
    proxy ∉ (p.next (.timer proxy.ref)).timers := by
  have hfind : (p.timers.find? fun other => other.ref = proxy.ref) = some proxy :=
    find_of_key hproxy fun other hother href =>
      eq_of_ref h.refs (h.known other hother) (h.known proxy hproxy) href
  rw [next_timer_armed hfind, h.dequeue_eq_cancel, (call_fields _ _ _).1]
  show proxy ∉ p.timers.filter _
  simp

/-- Nor is the timeout of a request that was answered. -/
theorem unarmed_response {p : Peer} (hopen : p.mClosed = false) {response : Response}
    (hlookup : p.mSends.lookup response.mId = some proxy) :
    proxy ∉ (p.next (.message (.response response))).timers := by
  have hcancel : proxy ∉ ((p.remove response.mId).cancel proxy).timers := by
    show proxy ∉ p.timers.filter _
    simp
  rw [next_response_matched hopen hlookup]
  cases outcomeOf response with
  | ok outcome =>
    show proxy ∉ (Peer.call _ _ _).timers
    rwa [(call_fields _ _ _).1]
  | error ex => exact hcancel

/-- Once an event has left a timeout unarmed, the request is over: in the rest
of the run neither its timeout nor a response has an effect. -/
theorem no_effect_after {transportClosed : Bool} {e : Event}
    (hids : (requestIds (before ++ e :: after)).Nodup)
    (hproxy : proxy ∈ ((new transportClosed).run before).timers)
    (hunarmed : proxy ∉ (((new transportClosed).run before).next e).timers) :
    ((new transportClosed).run (before ++ e :: after)).next (.timer proxy.ref) =
        (new transportClosed).run (before ++ e :: after) ∧
      ∀ response : Response, response.mId = proxy.mRequestId →
        ((new transportClosed).run (before ++ e :: after)).next (.message (.response response)) =
          (new transportClosed).run (before ++ e :: after) := by
  have hend := (stands_run transportClosed hids).consistent
  have hbefore := (stands_run transportClosed (nodup_requestIds_left hids)).consistent
  have hcreated := (hbefore.change (effect_next _ e)).mem_created (hbefore.known proxy hproxy)
  rw [← run_snoc] at hunarmed hcreated
  rw [List.append_cons] at hids hend ⊢
  obtain ⟨hcreated', hunarmed'⟩ := unarmed_run hids hcreated hunarmed
  exact hend.no_effect hcreated' hunarmed'

/-- In every run with distinct ids, a handler is called at most once, and the
pending requests are those with an armed timeout.  After the timeout of a
request a response has no effect, and after a response the timeout has none. -/
theorem called_at_most_once (transportClosed : Bool) (events : List Event)
    (hids : (requestIds events).Nodup) :
    (∀ proxy, ((new transportClosed).run events).calls.countP (fun c => c.proxy == proxy) ≤ 1) ∧
    (∀ requestId, requestId ∈ ((new transportClosed).run events).mSends ↔
      ∃ proxy ∈ ((new transportClosed).run events).timers, proxy.mRequestId = requestId) ∧
    (∀ before proxy after response, events = before ++ .timer proxy.ref :: after →
      proxy ∈ ((new transportClosed).run before).timers →
      response.mId = proxy.mRequestId →
      ((new transportClosed).run events).next (.message (.response response)) =
        (new transportClosed).run events) ∧
    (∀ before response after proxy,
      events = before ++ .message (.response response) :: after →
      ((new transportClosed).run before).mClosed = false →
      ((new transportClosed).run before).mSends.lookup response.mId = some proxy →
      ((new transportClosed).run events).next (.timer proxy.ref) =
        (new transportClosed).run events) := by
  have h := (stands_run transportClosed hids).consistent
  refine ⟨?_, ?_, ?_, ?_⟩
  · intro proxy
    have hcount := List.nodup_iff_count_le_one.mp h.once proxy
    rw [List.count, List.countP_map] at hcount
    exact hcount
  · intro requestId
    rw [← AList.lookup_isSome, Option.isSome_iff_exists]
    constructor
    · rintro ⟨proxy, hlookup⟩
      exact ⟨proxy, h.armed_of_lookup hlookup, h.entry hlookup⟩
    · rintro ⟨proxy, hproxy, rfl⟩
      exact ⟨proxy, (h.armed proxy).mp hproxy⟩
  · rintro before proxy after response rfl hproxy hid
    have hbefore := (stands_run transportClosed (nodup_requestIds_left hids)).consistent
    exact (no_effect_after hids hproxy (hbefore.unarmed_timer hproxy)).2 response hid
  · rintro before response after proxy rfl hopen hlookup
    have hbefore := (stands_run transportClosed (nodup_requestIds_left hids)).consistent
    exact (no_effect_after hids (hbefore.armed_of_lookup hlookup)
      (unarmed_response hopen hlookup)).1

/-- A response comes after the timeout of its request. -/
theorem called_at_most_once_late :
    (requestIds [.request 7 "join" "data" (some 0), .timer 0]).Nodup ∧
      ((new false).run [.request 7 "join" "data" (some 0), .timer 0]).calls.length = 1 ∧
      ((new false).run [.request 7 "join" "data" (some 0), .timer 0]).next
          (.message (.response { mId := 7, mOK := true, mData := some "data" })) =
        (new false).run [.request 7 "join" "data" (some 0), .timer 0] := by
  have hids : (requestIds [.request 7 "join" "data" (some 0), .timer 0]).Nodup := by decide
  refine ⟨hids, by decide, ?_⟩
  have hlate := (called_at_most_once false _ hids).2.2.1
  exact hlate [.request 7 "join" "data" (some 0)] ⟨0, 7, "join", some 0⟩ [] _ rfl (by decide) rfl

end Peer

end MediasoupDemo.Protoo
