import MediasoupDemo.Lib.Interleave
import MediasoupDemo.Lib.Registry
import MediasoupDemo.Protoo.Effects

/-!
# The threads of a peer

The methods of a peer are not executed as a whole.  A request is sent by the
thread of its caller, its response is handled on the thread of the socket, and
its timeout runs on the main looper.  This module cuts the three methods into
their steps and lets the threads take them in any order:

* `request` hands the message to the transport (`send`), constructs the proxy,
  which arms its timeout (`construct`), and registers it (`put`);
* `handleResponse` removes the entry (`receive`), takes back the timeout
  (`cancel`) and calls the handler (`deliver`);
* the timeout is taken from the queue once its delay is over (`elapse`,
  `start`), removes the entry (`unregister`) and calls the handler (`reject`).

Taken without interruption, the steps are the methods.  The server may send any
response at any time.  The peer stays open: no thread calls `close`.
-/

namespace MediasoupDemo.Protoo

open MediasoupDemo.Runtime Method Registry

/-- The arguments of a call of `request`, whose handler is not `null`. -/
structure RequestCall where
  requestId : Int
  method : String
  data : String
  handler : Nat
  deriving DecidableEq

/-- Where a call of `request` stands. -/
inductive Caller where
  | sent (call : RequestCall)
  | constructed (proxy : ClientRequestHandlerProxy)
  deriving DecidableEq

def Caller.requestId : Caller → Int
  | sent call => call.requestId
  | constructed proxy => proxy.mRequestId

/-- Where the thread of the socket stands. -/
inductive Socket where
  | idle
  | removed (proxy : ClientRequestHandlerProxy) (response : Response)
  | cancelled (proxy : ClientRequestHandlerProxy) (response : Response)
  deriving DecidableEq

/-- The proxy that the thread of the socket holds. -/
def Socket.proxy? : Socket → Option ClientRequestHandlerProxy
  | idle => none
  | removed proxy _ => some proxy
  | cancelled proxy _ => some proxy

/-- Where the main looper stands. -/
inductive Looper where
  | idle
  | started (proxy : ClientRequestHandlerProxy)
  | unregistered (proxy : ClientRequestHandlerProxy)
  deriving DecidableEq

/-- The proxy that the looper runs. -/
def Looper.proxy? : Looper → Option ClientRequestHandlerProxy
  | idle => none
  | started proxy => some proxy
  | unregistered proxy => some proxy

/-- The peer and its threads.  `due` lists the proxies whose delay is over, and
`server` the ids of the requests to which no response has come. -/
structure Threads where
  peer : Peer := {}
  callers : List Caller := []
  socket : Socket := .idle
  looper : Looper := .idle
  due : List ClientRequestHandlerProxy := []
  server : List Int := []

/-- The steps of the threads. -/
inductive Action where
  | send (call : RequestCall)
  | construct (call : RequestCall)
  | put (proxy : ClientRequestHandlerProxy)
  | elapse (proxy : ClientRequestHandlerProxy)
  | start (proxy : ClientRequestHandlerProxy)
  | unregister (proxy : ClientRequestHandlerProxy)
  | reject (proxy : ClientRequestHandlerProxy)
  | receive (response : Response)
  | cancel (proxy : ClientRequestHandlerProxy) (response : Response)
  | deliver (proxy : ClientRequestHandlerProxy) (response : Response)

namespace Threads

/-- A step can be taken. -/
def Enabled (s : Threads) : Action → Prop
  | .send _ => s.peer.transportClosed = false
  | .construct call => .sent call ∈ s.callers
  | .put proxy => .constructed proxy ∈ s.callers
  | .elapse proxy => proxy ∈ s.peer.timers
  | .start proxy => s.looper = .idle ∧ proxy ∈ s.peer.timers ∧ proxy ∈ s.due
  | .unregister proxy => s.looper = .started proxy
  | .reject proxy => s.looper = .unregistered proxy
  | .receive _ => s.socket = .idle
  | .cancel proxy response => s.socket = .removed proxy response
  | .deliver proxy response => s.socket = .cancelled proxy response

instance (s : Threads) (a : Action) : Decidable (s.Enabled a) :=
  match a with
  | .send _ => inferInstanceAs (Decidable (_ = _))
  | .construct call => inferInstanceAs (Decidable (Caller.sent call ∈ s.callers))
  | .put proxy => inferInstanceAs (Decidable (Caller.constructed proxy ∈ s.callers))
  | .elapse proxy => inferInstanceAs (Decidable (proxy ∈ s.peer.timers))
  | .start proxy =>
      inferInstanceAs (Decidable (s.looper = .idle ∧ proxy ∈ s.peer.timers ∧ proxy ∈ s.due))
  | .unregister _ => inferInstanceAs (Decidable (_ = _))
  | .reject _ => inferInstanceAs (Decidable (_ = _))
  | .receive _ => inferInstanceAs (Decidable (_ = _))
  | .cancel _ _ => inferInstanceAs (Decidable (_ = _))
  | .deliver _ _ => inferInstanceAs (Decidable (_ = _))

variable (p : Peer)

/-- The message of a request is in the hands of the transport. -/
def handedOver (call : RequestCall) : Peer :=
  { p with sent := p.sent ++ [createRequest call.method call.requestId call.data] }

/-- The proxy that a call constructs. -/
def proxyOf (call : RequestCall) : ClientRequestHandlerProxy :=
  p.proxy call.requestId call.method (some call.handler)

/-- The socket after the entry of a response was removed: without an entry the
response is thrown away. -/
def matched (response : Response) : Socket :=
  match p.mSends.lookup response.mId with
  | none => .idle
  | some proxy => .removed proxy response

theorem proxy?_matched (response : Response) :
    (matched p response).proxy? = p.mSends.lookup response.mId := by
  rw [matched]
  cases p.mSends.lookup response.mId <;> rfl

/-- The peer after the handler was called for a response. -/
def delivered (proxy : ClientRequestHandlerProxy) (response : Response) : Peer :=
  match Peer.outcomeOf response with
  | .ok outcome => p.call proxy outcome
  | .error _ => p

/-- The state after a step. -/
def after (s : Threads) : Action → Threads
  | .send call =>
      { s with
        peer := handedOver s.peer call, callers := s.callers ++ [.sent call]
        server := s.server ++ [call.requestId] }
  | .construct call =>
      { s with
        peer := s.peer.construct (proxyOf s.peer call)
        callers := s.callers.erase (.sent call) ++ [.constructed (proxyOf s.peer call)] }
  | .put proxy =>
      { s with
        peer := s.peer.put proxy.mRequestId proxy
        callers := s.callers.erase (.constructed proxy) }
  | .elapse proxy => { s with due := s.due ++ [proxy] }
  | .start proxy => { s with peer := s.peer.dequeue proxy, looper := .started proxy }
  | .unregister proxy =>
      { s with peer := s.peer.remove proxy.mRequestId, looper := .unregistered proxy }
  | .reject proxy => { s with peer := s.peer.call proxy Peer.requestTimeout, looper := .idle }
  | .receive response =>
      { s with
        peer := s.peer.remove response.mId, socket := matched s.peer response
        server := s.server.erase response.mId }
  | .cancel proxy response =>
      { s with peer := s.peer.cancel proxy, socket := .cancelled proxy response }
  | .deliver proxy response => { s with peer := delivered s.peer proxy response, socket := .idle }

/-- One step. -/
def step (s : Threads) (a : Action) : Option Threads :=
  if s.Enabled a then some (s.after a) else none

theorem step_eq_some {s s' : Threads} {a : Action} (h : s.step a = some s') :
    s.Enabled a ∧ s' = s.after a := by
  rw [step] at h
  split at h
  · rename_i henabled
    cases h
    exact ⟨henabled, rfl⟩
  · cases h

/-- The state after a list of steps, if they can be taken. -/
def run (actions : List Action) : Option Threads := Interleave.run step {} actions

theorem step_of_enabled {s : Threads} {a : Action} (h : s.Enabled a) :
    s.step a = some (s.after a) := by
  rw [step, if_pos h]

/-! ## Methods that nothing interrupts -/

open Interleave (Leads leads_foldl run_cons_of_step)

/-- A call of one of the three methods. -/
inductive MethodCall where
  | request (call : RequestCall)
  | response (response : Response)
  | timer (ref : Nat)

/-- The call, as an event of the peer. -/
def MethodCall.event : MethodCall → Peer.Event
  | .request call => .request call.requestId call.method call.data (some call.handler)
  | .response r => .message (.response r)
  | .timer ref => .timer ref

/-- The step comes from outside. -/
def isCall : Action → Bool
  | .send _ | .receive _ => true
  | _ => false

/-- The step that starts the call. -/
def MethodCall.start : MethodCall → List Action
  | .request call => [.send call]
  | .response r => [.receive r]
  | .timer _ => []

/-- The threads have this peer, it is open, and the socket and the looper are in no method. -/
structure Rests (p : Peer) (s : Threads) : Prop where
  peer : s.peer = p
  isOpen : p.mClosed = false ∧ p.transportClosed = false
  socket : s.socket = .idle
  looper : s.looper = .idle

theorem isOpen_call {p : Peer} (h : p.mClosed = false ∧ p.transportClosed = false)
    (proxy : ClientRequestHandlerProxy) (outcome : Outcome) :
    (p.call proxy outcome).mClosed = false ∧ (p.call proxy outcome).transportClosed = false := by
  unfold Peer.call
  split <;> exact h

variable {p : Peer} {s : Threads}

theorem leads_three {a b c : Action} (ha : s.Enabled a) (hb : (s.after a).Enabled b)
    (hc : ((s.after a).after b).Enabled c) (h : Rests p (((s.after a).after b).after c)) :
    Leads step isCall Rests ([a, b, c].filter isCall) p s := by
  refine ⟨[a, b, c], _, ?_, rfl, h⟩
  rw [run_cons_of_step (step_of_enabled ha),
    run_cons_of_step (step_of_enabled hb),
    run_cons_of_step (step_of_enabled hc)]
  rfl

theorem request_atomic (h : Rests p s) (call : RequestCall) :
    Leads step isCall Rests [.send call] (p.next (MethodCall.request call).event) s := by
  obtain ⟨rfl, hopen, hsocket, hlooper⟩ := h
  rw [MethodCall.event, Peer.next_request hopen.2]
  refine leads_three (a := .send call) (b := .construct call) (c := .put (proxyOf s.peer call))
    hopen.2 ?_ ?_ ⟨rfl, hopen, hsocket, hlooper⟩
  · exact mem_snoc.mpr (.inr rfl)
  · exact mem_snoc.mpr (.inr rfl)

theorem response_atomic (h : Rests p s) (response : Response) :
    Leads step isCall Rests [.receive response] (p.next (MethodCall.response response).event)
      s := by
  obtain ⟨rfl, hopen, hsocket, hlooper⟩ := h
  rw [MethodCall.event]
  cases hlookup : s.peer.mSends.lookup response.mId with
  | none =>
    -- The response is thrown away.
    have hreceive : s.Enabled (.receive response) := hsocket
    rw [Peer.next_response_unmatched hlookup]
    refine ⟨[.receive response], _, run_cons_of_step (step_of_enabled hreceive) [], rfl,
      Peer.remove_of_lookup_none hlookup, hopen, ?_, hlooper⟩
    show matched s.peer response = .idle
    rw [matched, hlookup]
  | some proxy =>
    have hcancel : (s.after (.receive response)).Enabled (.cancel proxy response) := by
      show matched s.peer response = .removed proxy response
      rw [matched, hlookup]
    rw [Peer.next_response_matched hopen.1 hlookup]
    refine leads_three (a := .receive response) (c := .deliver proxy response) hsocket hcancel rfl
      ⟨?_, ?_, rfl, hlooper⟩
    · show delivered _ proxy response = _
      unfold delivered
      cases Peer.outcomeOf response <;> rfl
    · cases Peer.outcomeOf response with
      | ok outcome => exact isOpen_call (p := (s.peer.remove response.mId).cancel proxy) hopen _ _
      | error e => exact hopen

theorem timer_atomic (h : Rests p s) (ref : Nat) :
    Leads step isCall Rests [] (p.next (MethodCall.timer ref).event) s := by
  rw [MethodCall.event]
  cases hfind : p.timers.find? fun proxy => proxy.ref = ref with
  | none =>
    rw [Peer.next_timer_unarmed fun proxy hproxy => by
      simpa using List.find?_eq_none.mp hfind proxy hproxy]
    exact .refl h
  | some proxy =>
    obtain ⟨rfl, hopen, hsocket, hlooper⟩ := h
    have harmed : s.Enabled (.elapse proxy) := List.mem_of_find?_eq_some hfind
    have hstart : (s.after (.elapse proxy)).Enabled (.start proxy) :=
      ⟨hlooper, harmed, mem_snoc.mpr (.inr rfl)⟩
    rw [Peer.next_timer_armed hfind]
    -- The delay is over, and then the looper runs the timeout.
    have hdue : Leads step isCall (fun _ s' => s' = s.after (.elapse proxy)) [] s.peer s :=
      ⟨[.elapse proxy], _, run_cons_of_step (step_of_enabled harmed) [], rfl, rfl⟩
    refine hdue.trans fun s' hs' => ?_
    rw [hs']
    refine leads_three (b := .unregister proxy) (c := .reject proxy) hstart rfl rfl
      ⟨rfl, ?_, hsocket, rfl⟩
    exact isOpen_call (p := (s.peer.dequeue proxy).remove proxy.mRequestId) hopen _ _

/-- Methods that do not overlap are those of the peer: with the same calls in the same order, the
threads can bring the peer to the same state. -/
theorem calls_follow (calls : List MethodCall) (h : Rests p s) :
    Leads step isCall Rests (calls.flatMap MethodCall.start)
      (calls.foldl (fun p call => p.next call.event) p) s := by
  refine leads_foldl (fun p s call h => ?_) calls h
  cases call with
  | request call => exact request_atomic h call
  | response response => exact response_atomic h response
  | timer ref => exact timer_atomic h ref

/-- A request is sent, and its timeout runs. -/
theorem calls_follow_timeout :
    Leads step isCall Rests [.send ⟨1, "join", "", 0⟩]
      ([MethodCall.request ⟨1, "join", "", 0⟩, .timer 0].foldl (fun p call => p.next call.event) {})
      {} :=
  calls_follow [.request ⟨1, "join", "", 0⟩, .timer 0] ⟨rfl, ⟨rfl, rfl⟩, rfl, rfl⟩

end Threads

end MediasoupDemo.Protoo
