import MediasoupDemo.Protoo.Peer

/-!
# What an event does to the requests

A peer gets calls from its owner, from the transport and from the looper.
`Effect` says once what they can do to the requests, and `effect_next` that
every event does one of these things.  All that is proved about runs goes
through it.

`Drops` are the events that make the peer forget a pending request without
calling its handler.
-/

namespace MediasoupDemo.Protoo

open MediasoupDemo.Runtime Method

namespace Peer

/-- The fields about requests are the same. -/
structure Same (p p' : Peer) : Prop where
  mSends : p'.mSends = p.mSends
  timers : p'.timers = p.timers
  created : p'.created = p.created
  calls : p'.calls = p.calls

variable (p : Peer) {proxy : ClientRequestHandlerProxy} {response : Response} {e : Event}

theorem Same.refl : Same p p := ⟨rfl, rfl, rfl, rfl⟩

/-- An event makes the peer forget a request without calling its handler: a
response that is OK has no data, or the peer is closed. -/
def Drops (p : Peer) (e : Event) (proxy : ClientRequestHandlerProxy) : Prop :=
  match e with
  | .message (.response response) =>
      p.mClosed = false ∧ response.mOK = true ∧ response.mData = none ∧
        p.mSends.lookup response.mId = some proxy
  | .close => p.mClosed = false ∧ proxy ∈ p.pending
  | _ => False

/-- What an event does to the requests. -/
inductive Effect (p : Peer) : Event → Peer → Prop
  | unchanged {e : Event} {p' : Peer} :
      Same p p' → (∀ proxy, ¬ Drops p e proxy) → Effect p e p'
  /-- a request is sent and registered -/
  | added {requestId : Int} {method data : String} {handler : Option Nat}
      {proxy : ClientRequestHandlerProxy} {p' : Peer} :
      proxy = p.proxy requestId method handler →
      Same ((p.construct proxy).put requestId proxy) p' →
      Effect p (.request requestId method data handler) p'
  /-- a response settles a pending request -/
  | answered {response : Response} {proxy : ClientRequestHandlerProxy} {outcome : Outcome}
      {p' : Peer} :
      p.mSends.lookup response.mId = some proxy → outcomeOf response = .ok outcome →
      Same (((p.remove response.mId).cancel proxy).call proxy outcome) p' →
      Effect p (.message (.response response)) p'
  /-- a response that is OK and has no data makes the peer throw -/
  | failed {response : Response} {proxy : ClientRequestHandlerProxy} {p' : Peer} :
      p.mClosed = false → p.mSends.lookup response.mId = some proxy → response.mOK = true →
      response.mData = none → Same ((p.remove response.mId).cancel proxy) p' →
      Effect p (.message (.response response)) p'
  /-- a request times out -/
  | expired {ref : Nat} {proxy : ClientRequestHandlerProxy} {p' : Peer} :
      proxy ∈ p.timers → proxy.ref = ref →
      Same (((p.dequeue proxy).remove proxy.mRequestId).call proxy requestTimeout) p' →
      Effect p (.timer ref) p'
  | closed {p' : Peer} :
      p.mClosed = false → Same { p.cancelAll p.pending with mSends := ∅ } p' →
      Effect p .close p'

/-- A key that is not in the map is not removed. -/
theorem remove_of_lookup_none {p : Peer} {requestId : Int}
    (h : p.mSends.lookup requestId = none) : p.remove requestId = p := by
  have hkeys : requestId ∉ p.mSends.entries.keys := AList.lookup_eq_none.mp h
  have herase : p.mSends.erase requestId = p.mSends := by
    apply AList.ext
    exact List.kerase_of_notMem_keys hkeys
  rw [remove, herase]

theorem cancelAll_eq (proxies : List ClientRequestHandlerProxy) :
    p.cancelAll proxies = { p with timers := p.timers.filter (· ∉ proxies) } := by
  induction proxies generalizing p with
  | nil => simp [cancelAll]
  | cons proxy proxies ih =>
    rw [cancelAll, ih, cancel]
    simp only [List.filter_filter, List.mem_cons, not_or]
    congr 2
    funext x
    simp [Bool.and_comm]

theorem next_of_ok {p p' : Peer} (h : e.method.run p = .ok () p') : p.next e = p' := by
  rw [next, h]

theorem next_of_error {p p' : Peer} {ex : JavaException} (h : e.method.run p = .error ex p') :
    p.next e = p' := by
  rw [next, h]

/-- A callback that does nothing on a closed peer, and sets a state otherwise. -/
theorem next_of_guarded {p p₁ q : Peer}
    (hrun : e.method.run p = (if p₁.mClosed then pure () else set q : Method Peer Unit).run p₁) :
    p.next e = if p₁.mClosed then p₁ else q := by
  split at hrun
  · next hclosed => rw [next_of_ok hrun, if_pos hclosed]
  · next hopen => rw [next_of_ok hrun, if_neg hopen]

theorem next_request {p : Peer} (hopen : p.transportClosed = false) (requestId : Int)
    (method data : String) (handler : Option Nat) :
    p.next (.request requestId method data handler) =
      (construct { p with sent := p.sent ++ [createRequest method requestId data] }
        (p.proxy requestId method handler)).put requestId (p.proxy requestId method handler) := by
  have hsend : (sendMessage (createRequest method requestId data)).run p =
      .ok () { p with sent := p.sent ++ [createRequest method requestId data] } := by
    rw [sendMessage, run_get_bind, if_neg (by simp [hopen]), run_set]
  apply next_of_ok
  show (request requestId method data handler).run p = _
  rw [request, run_bind_ok hsend]
  rfl

/-- A request on a closed transport throws before it is registered. -/
theorem next_request_closed {p : Peer} (hclosed : p.transportClosed = true) (requestId : Int)
    (method data : String) (handler : Option Nat) :
    p.next (.request requestId method data handler) = p := by
  have hrun : (Event.request requestId method data handler).method.run p =
      .error (.illegalState "transport closed") p := by
    show (request requestId method data handler).run p = _
    rw [request, run_bind_error]
    rw [sendMessage, run_get_bind, if_pos hclosed, run_throw]
  exact next_of_error hrun

theorem effect_request (requestId : Int) (method data : String) (handler : Option Nat) :
    Effect p (.request requestId method data handler)
      (p.next (.request requestId method data handler)) := by
  cases hclosed : p.transportClosed with
  | true =>
    rw [next_request_closed hclosed]
    exact .unchanged (.refl p) fun _ => id
  | false =>
    rw [next_request hclosed]
    exact .added rfl ⟨rfl, rfl, rfl, rfl⟩

theorem outcomeOf_cases (response : Response) :
    (∃ outcome, outcomeOf response = .ok outcome) ∨
      outcomeOf response = .error .nullPointer ∧ response.mOK = true ∧ response.mData = none := by
  unfold outcomeOf
  cases hok : response.mOK with
  | false => exact .inl ⟨_, rfl⟩
  | true =>
    cases hdata : response.mData with
    | none => exact .inr ⟨rfl, rfl, rfl⟩
    | some data => exact .inl ⟨_, rfl⟩

theorem next_message_closed {p : Peer} (h : p.mClosed = true) (message : Message) :
    p.next (.message message) = p := by
  apply next_of_ok
  show (onMessage message).run p = _
  rw [onMessage, run_get_bind, if_pos h, run_pure]

theorem next_message {p : Peer} (h : p.mClosed = false) (message : Message) :
    p.next (.message message) = final (handleMessage message) p := by
  have hrun : (Event.message message).method.run p = (handleMessage message).run p := by
    show (onMessage message).run p = _
    rw [onMessage, run_get_bind, if_neg (by simp [h])]
  rw [next, final, hrun]
  cases (handleMessage message).run p <;> rfl

/-- A response that matches no request has no effect. -/
theorem next_response_unmatched {p : Peer} (h : p.mSends.lookup response.mId = none) :
    p.next (.message (.response response)) = p := by
  cases hclosed : p.mClosed with
  | true => exact next_message_closed hclosed _
  | false =>
    rw [next_message hclosed]
    show final (handleResponse response) p = _
    rw [handleResponse, final_get_bind, final_set_bind, h, remove_of_lookup_none h]
    rfl

/-- A response that matches, up to the call of the handler. -/
theorem run_onMessage_matched {p : Peer} (hopen : p.mClosed = false)
    (h : p.mSends.lookup response.mId = some proxy) :
    (onMessage (.response response)).run p =
      (do
        let outcome ← MonadExcept.ofExcept (outcomeOf response)
        modify fun p => p.call proxy outcome : Method Peer Unit).run
          ((p.remove response.mId).cancel proxy) := by
  rw [onMessage, run_get_bind, if_neg (by simp [hopen])]
  show (handleResponse response).run p = _
  rw [handleResponse, run_get_bind, run_set_bind, h]
  rfl

theorem next_response_matched {p : Peer} (hopen : p.mClosed = false)
    (h : p.mSends.lookup response.mId = some proxy) :
    p.next (.message (.response response)) =
      match outcomeOf response with
      | .ok outcome => ((p.remove response.mId).cancel proxy).call proxy outcome
      | .error _ => (p.remove response.mId).cancel proxy := by
  have hrun := run_onMessage_matched hopen h
  cases houtcome : outcomeOf response with
  | ok outcome =>
    rw [houtcome] at hrun
    exact next_of_ok hrun
  | error ex =>
    rw [houtcome] at hrun
    exact next_of_error hrun

theorem effect_response (response : Response) :
    Effect p (.message (.response response)) (p.next (.message (.response response))) := by
  cases hclosed : p.mClosed with
  | true =>
    rw [next_message_closed hclosed]
    refine .unchanged (.refl p) ?_
    rintro proxy ⟨hopen, -⟩
    exact absurd (hclosed.symm.trans hopen) (by decide)
  | false =>
    cases hlookup : p.mSends.lookup response.mId with
    | none =>
      rw [next_response_unmatched hlookup]
      refine .unchanged (.refl p) ?_
      rintro proxy ⟨-, -, -, hsome⟩
      exact absurd (hlookup.symm.trans hsome) nofun
    | some proxy =>
      rw [next_response_matched hclosed hlookup]
      rcases outcomeOf_cases response with ⟨outcome, houtcome⟩ | ⟨houtcome, hok, hdata⟩
      · rw [houtcome]
        exact .answered hlookup houtcome (.refl _)
      · rw [houtcome]
        exact .failed hclosed hlookup hok hdata (.refl _)

/-- A proxy that is not posted does not run. -/
theorem next_timer_unarmed {p : Peer} {ref : Nat} (h : ∀ proxy ∈ p.timers, proxy.ref ≠ ref) :
    p.next (.timer ref) = p := by
  have hfind : (p.timers.find? fun proxy => proxy.ref = ref) = none := by
    rw [List.find?_eq_none]
    intro proxy hproxy
    simpa using h proxy hproxy
  apply next_of_ok
  show (runTimer ref).run p = _
  rw [runTimer, run_get_bind, hfind]
  rfl

/-- The looper runs a posted proxy. -/
theorem next_timer_armed {p : Peer} {ref : Nat}
    (h : (p.timers.find? fun proxy => proxy.ref = ref) = some proxy) :
    p.next (.timer ref) =
      ((p.dequeue proxy).remove proxy.mRequestId).call proxy requestTimeout := by
  apply next_of_ok
  show (runTimer ref).run p = _
  rw [runTimer, run_get_bind, h]
  rfl

theorem effect_timer (ref : Nat) : Effect p (.timer ref) (p.next (.timer ref)) := by
  cases hfind : p.timers.find? fun proxy => proxy.ref = ref with
  | none =>
    have hnone := List.find?_eq_none.mp hfind
    rw [next_timer_unarmed fun proxy hproxy => by simpa using hnone proxy hproxy]
    exact .unchanged (.refl p) fun _ => id
  | some proxy =>
    have hmem : proxy ∈ p.timers := List.mem_of_find?_eq_some hfind
    have href : proxy.ref = ref := by simpa using List.find?_some hfind
    rw [next_timer_armed hfind]
    exact .expired hmem href (.refl _)

theorem effect_close : Effect p .close (p.next .close) := by
  rw [@next_of_guarded .close p p _ rfl]
  split
  · next hclosed =>
    refine .unchanged (.refl p) ?_
    rintro proxy ⟨hopen, -⟩
    exact absurd (hclosed.symm.trans hopen) (by decide)
  · next hopen =>
    refine .closed (by simpa using hopen) ?_
    rw [cancelAll_eq, cancelAll_eq]
    exact ⟨rfl, rfl, rfl, rfl⟩

/-- Other messages do not touch the requests. -/
theorem same_message (message : Message) (h : ∀ response, message ≠ .response response) :
    Same p (p.next (.message message)) := by
  cases hclosed : p.mClosed with
  | true =>
    rw [next_message_closed hclosed]
    exact .refl p
  | false =>
    rw [next_message hclosed]
    cases message with
    | response response => exact absurd rfl (h response)
    | request request => exact ⟨rfl, rfl, rfl, rfl⟩
    | notification notification => exact ⟨rfl, rfl, rfl, rfl⟩

theorem same_notify (method data : String) : Same p (p.next (.notify method data)) := by
  have hrun : (Event.notify method data).method.run p =
      (sendMessage (createNotification method data)).run p := rfl
  rw [sendMessage, run_get_bind] at hrun
  split at hrun
  · rw [next_of_error hrun]
    exact .refl p
  · rw [next_of_ok hrun]
    exact ⟨rfl, rfl, rfl, rfl⟩

theorem same_of_guarded {p p₁ q : Peer}
    (hrun : e.method.run p = (if p₁.mClosed then pure () else set q : Method Peer Unit).run p₁)
    (h₁ : Same p p₁) (hq : Same p q) : Same p (p.next e) := by
  rw [next_of_guarded hrun]
  split
  · exact h₁
  · exact hq

/-- The callbacks of the transport about its connection do not either. -/
theorem same_transport (h : e = .onOpen ∨ e = .onFail ∨ e = .onDisconnected ∨ e = .onClose) :
    Same p (p.next e) := by
  rcases h with rfl | rfl | rfl | rfl
  · exact @same_of_guarded .onOpen p p _ rfl (.refl p) ⟨rfl, rfl, rfl, rfl⟩
  · exact @same_of_guarded .onFail p p _ rfl (.refl p) ⟨rfl, rfl, rfl, rfl⟩
  · exact @same_of_guarded .onDisconnected p p _ rfl (.refl p) ⟨rfl, rfl, rfl, rfl⟩
  · exact @same_of_guarded .onClose p { p with transportClosed := true } _ rfl
      ⟨rfl, rfl, rfl, rfl⟩ ⟨rfl, rfl, rfl, rfl⟩

theorem effect_next (e : Event) : Effect p e (p.next e) := by
  cases e with
  | request requestId method data handler => exact effect_request p requestId method data handler
  | timer ref => exact effect_timer p ref
  | close => exact effect_close p
  | message m =>
    cases m with
    | response response => exact effect_response p response
    | request request => exact .unchanged (same_message p _ fun _ => nofun) fun _ => id
    | notification notification => exact .unchanged (same_message p _ fun _ => nofun) fun _ => id
  | notify method data => exact .unchanged (same_notify p method data) fun _ => id
  | onOpen | onFail | onDisconnected | onClose =>
    exact .unchanged (same_transport p (by simp)) fun _ => id

end Peer

end MediasoupDemo.Protoo
