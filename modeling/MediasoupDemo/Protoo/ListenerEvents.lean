import MediasoupDemo.Lib.Trace
import MediasoupDemo.Protoo.Effects

/-!
# What the listener of a peer is told

A peer tells its listener once that it is closed, and nothing after that.  `close` and the callback
`onClose` set `mClosed` before they tell the listener, and every callback looks at the flag first.
The constructor does not set it: a peer over a transport that is closed already tells the listener
that it is closed, and goes on as an open peer.

`Tells` says what one event tells the listener, and what it does to the flag.
-/

namespace MediasoupDemo.Protoo

open MediasoupDemo.Runtime Method Trace

namespace Peer

variable {p p' : Peer}

/-- What the listener may have been told: `onClose` at most once, nothing after it, and the peer is
closed from then on. -/
structure ClosedOnce (p : Peer) : Prop where
  once : p.events.count .onClose ≤ 1
  last : ∀ before later, p.events = before ++ .onClose :: later → later = []
  isClosed : .onClose ∈ p.events → p.mClosed = true

/-- What an event tells the listener. -/
inductive Tells (p p' : Peer) : Prop
  | nothing (hevents : p'.events = p.events) (hclosed : p'.mClosed = p.mClosed)
  | event (hopen : p.mClosed = false) (hevents : ∃ e, e ≠ .onClose ∧ p'.events = p.events ++ [e])
  | close (hopen : p.mClosed = false) (hevents : p'.events = p.events ++ [.onClose])
      (hclosed : p'.mClosed = true)

/-- The listener has heard nothing new. -/
structure Unheard (p p' : Peer) : Prop where
  events : p'.events = p.events
  mClosed : p'.mClosed = p.mClosed

theorem Unheard.refl (p : Peer) : Unheard p p := ⟨rfl, rfl⟩

theorem Unheard.call (h : Unheard p p') (proxy : ClientRequestHandlerProxy) (outcome : Outcome) :
    Unheard p (p'.call proxy outcome) := by
  unfold Peer.call
  cases proxy.mClientRequestHandler with
  | none => exact h
  | some handler => exact ⟨h.events, h.mClosed⟩

theorem Unheard.tells (h : Unheard p p') : Tells p p' := .nothing h.events h.mClosed

theorem tells_request (p : Peer) (requestId : Int) (method data : String) (handler : Option Nat) :
    Tells p (p.next (.request requestId method data handler)) := by
  cases hclosed : p.transportClosed with
  | true =>
    rw [next_request_closed hclosed]
    exact (Unheard.refl p).tells
  | false =>
    rw [next_request hclosed]
    exact .nothing rfl rfl

theorem tells_notify (p : Peer) (method data : String) :
    Tells p (p.next (.notify method data)) := by
  have hrun : (Event.notify method data).method.run p =
      (sendMessage (createNotification method data)).run p := rfl
  rw [sendMessage, run_get_bind] at hrun
  split at hrun
  · rw [next_of_error hrun]
    exact (Unheard.refl p).tells
  · rw [next_of_ok hrun]
    exact .nothing rfl rfl

theorem tells_timer (p : Peer) (ref : Nat) : Tells p (p.next (.timer ref)) := by
  cases hfind : p.timers.find? fun proxy => proxy.ref = ref with
  | none =>
    have hnone := List.find?_eq_none.mp hfind
    rw [next_timer_unarmed fun proxy hproxy => by simpa using hnone proxy hproxy]
    exact (Unheard.refl p).tells
  | some proxy =>
    rw [next_timer_armed hfind]
    have hremoved : Unheard p ((p.dequeue proxy).remove proxy.mRequestId) := ⟨rfl, rfl⟩
    exact (hremoved.call proxy requestTimeout).tells

theorem tells_response (p : Peer) (response : Response) :
    Tells p (p.next (.message (.response response))) := by
  cases hclosed : p.mClosed with
  | true =>
    rw [next_message_closed hclosed]
    exact (Unheard.refl p).tells
  | false =>
    cases hlookup : p.mSends.lookup response.mId with
    | none =>
      rw [next_response_unmatched hlookup]
      exact (Unheard.refl p).tells
    | some proxy =>
      have hremoved : Unheard p ((p.remove response.mId).cancel proxy) := ⟨rfl, rfl⟩
      rw [next_response_matched hclosed hlookup]
      cases outcomeOf response with
      | ok outcome => exact (hremoved.call proxy outcome).tells
      | error ex => exact hremoved.tells

theorem tells_message (p : Peer) (message : Message) : Tells p (p.next (.message message)) := by
  cases hclosed : p.mClosed with
  | true =>
    rw [next_message_closed hclosed]
    exact .nothing rfl rfl
  | false =>
    cases message with
    | request request =>
      rw [next_message hclosed]
      exact .event hclosed ⟨.onRequest request, ListenerEvent.noConfusion, rfl⟩
    | notification notification =>
      rw [next_message hclosed]
      exact .event hclosed ⟨.onNotification notification, ListenerEvent.noConfusion, rfl⟩
    | response response => exact tells_response p response

/-- A callback that does nothing on a closed peer, and tells the listener otherwise. -/
theorem tells_of_guarded {p₁ q : Peer} {e : Event}
    (hrun : e.method.run p = (if p₁.mClosed then pure () else set q : Method Peer Unit).run p₁)
    (h₁ : Unheard p p₁) (hq : p.mClosed = false → Tells p q) : Tells p (p.next e) := by
  rw [next_of_guarded hrun]
  split
  · exact h₁.tells
  · next hopen => exact hq (h₁.mClosed ▸ by simpa using hopen)

theorem tells_close (p : Peer) : Tells p (p.next .close) := by
  refine @tells_of_guarded p p _ .close rfl (.refl p) fun hopen => ?_
  rw [cancelAll_eq]
  exact .close hopen rfl rfl

theorem tells_next (p : Peer) (e : Event) : Tells p (p.next e) := by
  cases e with
  | request requestId method data handler =>
    exact tells_request p requestId method data handler
  | notify method data => exact tells_notify p method data
  | message message => exact tells_message p message
  | timer ref => exact tells_timer p ref
  | close => exact tells_close p
  | onOpen =>
    refine @tells_of_guarded p p _ .onOpen rfl (.refl p) fun hopen => ?_
    exact .event hopen ⟨.onOpen, ListenerEvent.noConfusion, rfl⟩
  | onFail =>
    refine @tells_of_guarded p p _ .onFail rfl (.refl p) fun hopen => ?_
    exact .event hopen ⟨.onFail, ListenerEvent.noConfusion, rfl⟩
  | onDisconnected =>
    refine @tells_of_guarded p p _ .onDisconnected rfl (.refl p) fun hopen => ?_
    exact .event hopen ⟨.onDisconnected, ListenerEvent.noConfusion, rfl⟩
  | onClose =>
    refine @tells_of_guarded p { p with transportClosed := true } _ .onClose rfl ⟨rfl, rfl⟩
      fun hopen => ?_
    exact .close hopen rfl rfl

/-! ## Runs -/

/-- A peer that is open has not told the listener that it is closed. -/
theorem ClosedOnce.notMem (h : ClosedOnce p) (hopen : p.mClosed = false) :
    .onClose ∉ p.events := by
  intro hmem
  exact absurd ((h.isClosed hmem).symm.trans hopen) Bool.noConfusion

theorem closedOnce_of_notMem (h : .onClose ∉ p.events) : ClosedOnce p where
  once := by
    rw [List.count_eq_zero_of_not_mem h]
    exact Nat.zero_le 1
  last before later heq := by
    rw [heq] at h
    exact absurd (List.mem_append_right _ List.mem_cons_self) h
  isClosed hmem := absurd hmem h

theorem closedOnce_of_tells (h : ClosedOnce p) (htells : Tells p p') : ClosedOnce p' := by
  cases htells with
  | nothing hevents hclosed =>
    refine ⟨?_, ?_, ?_⟩
    · rw [hevents]
      exact h.once
    · rw [hevents]
      exact h.last
    · rw [hevents, hclosed]
      exact h.isClosed
  | event hopen hevents =>
    obtain ⟨e, hne, hevents⟩ := hevents
    apply closedOnce_of_notMem
    rw [hevents, List.mem_append, List.mem_singleton]
    rintro (hmem | heq)
    · exact h.notMem hopen hmem
    · exact hne heq.symm
  | close hopen hevents hclosed =>
    have hnew := h.notMem hopen
    refine ⟨?_, ?_, fun _ => hclosed⟩
    · rw [hevents, List.count_append, List.count_eq_zero_of_not_mem hnew]
      exact Nat.le_refl 1
    · intro before later heq
      rw [hevents] at heq
      rcases List.eq_nil_or_concat later with hnil | ⟨front, e, hfront⟩
      · exact hnil
      · -- the first `onClose` would be among the older events
        rw [hfront, List.concat_eq_append, ← List.cons_append, ← List.append_assoc] at heq
        have hold := (List.append_inj' heq rfl).1
        rw [hold] at hnew
        exact absurd (List.mem_append_right _ List.mem_cons_self) hnew

theorem closedOnce_new : ClosedOnce (new false) := closedOnce_of_notMem List.not_mem_nil

/-- A listener is told once that the peer is closed, and nothing after it, and the peer is closed
from then on, in every run of every peer whose transport was not closed when it was constructed,
and in no other. -/
theorem closedOnce_iff (transportClosed : Bool) (events : List Event) :
    Always next (new transportClosed) ClosedOnce events ↔ transportClosed = false := by
  constructor
  · intro h
    cases transportClosed with
    | false => rfl
    | true =>
      -- right after the constructor the listener was told, and the flag is not set
      have hfirst : ClosedOnce (new true) := h [] List.nil_prefix
      exact absurd (hfirst.isClosed (List.mem_singleton_self _)) Bool.noConfusion
  · rintro rfl before -
    exact invariant (I := ClosedOnce) closedOnce_new
      (fun p e h => closedOnce_of_tells h (tells_next p e)) before

/-- A peer over a closed transport is not closed after `onClose`, and it reports `onClose` again
when it is closed. -/
theorem not_closedOnce_closedTransport :
    ¬ ClosedOnce (new true) ∧ ((new true).run [.close]).events = [.onClose, .onClose] := by
  refine ⟨fun h => ?_, rfl⟩
  exact absurd (h.isClosed (List.mem_singleton_self _)) Bool.noConfusion

end Peer

end MediasoupDemo.Protoo
