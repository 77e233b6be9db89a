import MediasoupDemo.Runtime.Method
import Mathlib.Data.List.AList

/-!
# `Peer`: requests over a protoo connection

A `Peer` sends requests over a transport and matches the responses with them.
For every request it keeps a `ClientRequestHandlerProxy` in the map `mSends`,
under the id of the request, and posts the proxy to the main looper, where it
runs as the timeout of the request.

* The small updates come first: `construct`, `put`, `remove`, `cancel`,
  `dequeue` and `call` are what single statements of the class do.  The methods
  are sequences of them.
* `Event` lists the calls that a peer gets, from its owner, from the transport
  and from the looper.  `next` is the state after an event.  What an event
  throws goes to its caller and does not undo what was done before.

A JSON object is its text.  The delay of a timeout is left out: the looper may
run a posted proxy at any time, unless it was taken back.  `transportClosed` is
the closed flag of the transport, which the peer asks for by sending.

Four fields are not fields of the class.  `timers` is the queue of the looper.
`created` lists the proxies that were constructed; a proxy is an object with an
identity, and its place in this list is its `ref`.  `calls` lists what the
request handlers were called with, and `events` what the listener was told.
-/

namespace MediasoupDemo.Protoo

open MediasoupDemo.Runtime

/-! ## Messages -/

/-- `Message.Request`. -/
structure Request where
  mMethod : String
  mId : Int
  mData : Option String
  deriving DecidableEq

/-- `Message.Response`. -/
structure Response where
  mId : Int
  mOK : Bool
  mData : Option String := none
  mErrorCode : Int := 0
  mErrorReason : Option String := none
  deriving DecidableEq

/-- `Message.Notification`. -/
structure Notification where
  mMethod : String
  mData : Option String
  deriving DecidableEq

inductive Message where
  | request (request : Request)
  | response (response : Response)
  | notification (notification : Notification)

/-- `Utils.generateRandomNumber()`, with what `nextInt(10000000)` returns. -/
def generateRandomNumber (nextInt : Fin 10000000) : Int := nextInt.val

/-- `Message.createRequest(method, data)`, with the id that is drawn. -/
def createRequest (method : String) (requestId : Int) (data : String) : Message :=
  .request { mMethod := method, mId := requestId, mData := some data }

def createNotification (method data : String) : Message :=
  .notification { mMethod := method, mData := some data }

/-! ## The peer -/

/-- `ClientRequestHandlerProxy`.  A handler is a number, `none` is `null`. -/
structure ClientRequestHandlerProxy where
  ref : Nat
  mRequestId : Int
  mMethod : String
  mClientRequestHandler : Option Nat
  deriving DecidableEq

/-- What a request handler is called with. -/
inductive Outcome where
  | resolve (data : String)
  | reject (error : Int) (errorReason : Option String)
  deriving DecidableEq

/-- A call of the handler of a proxy. -/
structure HandlerCall where
  proxy : ClientRequestHandlerProxy
  outcome : Outcome
  deriving DecidableEq

/-- What the listener of the peer is told. -/
inductive ListenerEvent where
  | onOpen
  | onFail
  | onRequest (request : Request)
  | onNotification (notification : Notification)
  | onDisconnected
  | onClose
  deriving DecidableEq

structure Peer where
  mClosed : Bool := false
  mConnected : Bool := false
  mSends : AList fun _ : Int => ClientRequestHandlerProxy := ∅
  transportClosed : Bool := false
  sent : List Message := []
  timers : List ClientRequestHandlerProxy := []
  created : List ClientRequestHandlerProxy := []
  calls : List HandlerCall := []
  events : List ListenerEvent := []

namespace Peer

/-! ## Single statements -/

variable (p : Peer)

/-- The next proxy. -/
def proxy (requestId : Int) (method : String) (handler : Option Nat) :
    ClientRequestHandlerProxy where
  ref := p.created.length
  mRequestId := requestId
  mMethod := method
  mClientRequestHandler := handler

/-- A proxy is constructed: it posts itself to the looper. -/
def construct (proxy : ClientRequestHandlerProxy) : Peer :=
  { p with created := p.created ++ [proxy], timers := p.timers ++ [proxy] }

/-- `mSends.put(requestId, proxy)`. -/
def put (requestId : Int) (proxy : ClientRequestHandlerProxy) : Peer :=
  { p with mSends := p.mSends.insert requestId proxy }

/-- `mSends.remove(requestId)`. -/
def remove (requestId : Int) : Peer :=
  { p with mSends := p.mSends.erase requestId }

/-- `mTimerCheckHandler.removeCallbacks(proxy)`. -/
def cancel (proxy : ClientRequestHandlerProxy) : Peer :=
  { p with timers := p.timers.filter (· ≠ proxy) }

/-- The looper takes a proxy from its queue. -/
def dequeue (proxy : ClientRequestHandlerProxy) : Peer :=
  { p with timers := p.timers.erase proxy }

/-- The handler of a proxy is called, unless it is `null`. -/
def call (proxy : ClientRequestHandlerProxy) (outcome : Outcome) : Peer :=
  match proxy.mClientRequestHandler with
  | none => p
  | some _ => { p with calls := p.calls ++ [{ proxy, outcome }] }

/-- The listener is told. -/
def tell (event : ListenerEvent) : Peer := { p with events := p.events ++ [event] }

/-- The proxies in the map. -/
def pending : List ClientRequestHandlerProxy := p.mSends.entries.map Sigma.snd

/-- The loop of `close()` over the proxies. -/
def cancelAll (p : Peer) : List ClientRequestHandlerProxy → Peer
  | [] => p
  | proxy :: proxies => (p.cancel proxy).cancelAll proxies

/-! ## Methods -/

/-- `new Peer(transport, listener)`, with the transport closed or not. -/
def new (transportClosed : Bool) : Peer :=
  if transportClosed then { transportClosed, events := [.onClose] } else { transportClosed }

/-- `mTransport.sendMessage(message)`. -/
def sendMessage (message : Message) : Method Peer Unit := do
  let p ← get
  if p.transportClosed then throw (.illegalState "transport closed")
  else set { p with sent := p.sent ++ [message] }

/-- `request(method, data, clientRequestHandler)`, with the id that the message
gets. -/
def request (requestId : Int) (method data : String) (handler : Option Nat) :
    Method Peer Unit := do
  -- The message is out before the request is registered.
  sendMessage (createRequest method requestId data)
  let p ← get
  let proxy := p.proxy requestId method handler
  set ((p.construct proxy).put requestId proxy)

def notify (method data : String) : Method Peer Unit :=
  sendMessage (createNotification method data)

/-- What the handler is called with for a response.  The data of a response
that is OK is used as an object. -/
def outcomeOf (response : Response) : Except JavaException Outcome :=
  if response.mOK then
    match response.mData with
    | none => throw .nullPointer
    | some data => pure (.resolve data)
  else pure (.reject response.mErrorCode response.mErrorReason)

def handleResponse (response : Response) : Method Peer Unit := do
  let p ← get
  set (p.remove response.mId)
  match p.mSends.lookup response.mId with
  | none => pure ()
  | some proxy =>
      modify fun p => p.cancel proxy
      -- The entry is gone when it turns out that the data is missing.
      let outcome ← MonadExcept.ofExcept (outcomeOf response)
      modify fun p => p.call proxy outcome

/-- The branches of `onMessage` on the class of the message. -/
def handleMessage : Message → Method Peer Unit
  | .request request => modify fun p => p.tell (.onRequest request)
  | .response response => handleResponse response
  | .notification notification => modify fun p => p.tell (.onNotification notification)

def onMessage (message : Message) : Method Peer Unit := do
  if (← get).mClosed then pure () else handleMessage message

/-- The outcome of a request that has timed out. -/
def requestTimeout : Outcome := .reject 408 (some "request timeout")

/-- The looper runs the posted proxy with this identity, if there is one. -/
def runTimer (ref : Nat) : Method Peer Unit := do
  let p ← get
  match p.timers.find? fun proxy => proxy.ref = ref with
  | none => pure ()
  | some proxy =>
      -- The handler is called whether or not there was an entry to remove.
      set (((p.dequeue proxy).remove proxy.mRequestId).call proxy requestTimeout)

def close : Method Peer Unit := do
  let p ← get
  if p.mClosed then pure ()
  else
    let p := { p with mClosed := true, mConnected := false, transportClosed := true }
    -- `ClientRequestHandlerProxy.close` takes back the timeout and calls no handler.
    let p := { p.cancelAll p.pending with mSends := ∅ }
    set (p.tell .onClose)

def onOpen : Method Peer Unit := do
  let p ← get
  if p.mClosed then pure () else set ({ p with mConnected := true }.tell .onOpen)

def onFail : Method Peer Unit := do
  let p ← get
  if p.mClosed then pure () else set ({ p with mConnected := false }.tell .onFail)

def onDisconnected : Method Peer Unit := do
  let p ← get
  if p.mClosed then pure () else set ({ p with mConnected := false }.tell .onDisconnected)

/-- `onClose()`, by a transport that has closed itself. -/
def onClose : Method Peer Unit := do
  modify fun p => { p with transportClosed := true }
  let p ← get
  -- The requests stay pending, and time out.
  if p.mClosed then pure ()
  else set ({ p with mClosed := true, mConnected := false }.tell .onClose)

/-! ## Runs -/

/-- The calls that a peer gets. -/
inductive Event where
  | request (requestId : Int) (method data : String) (handler : Option Nat)
  | notify (method data : String)
  | message (message : Message)
  | timer (ref : Nat)
  | close
  | onOpen
  | onFail
  | onDisconnected
  | onClose

/-- The method that is called. -/
def Event.method : Event → Method Peer Unit
  | request requestId method data handler => Peer.request requestId method data handler
  | notify method data => Peer.notify method data
  | message m => onMessage m
  | timer ref => runTimer ref
  | close => Peer.close
  | onOpen => Peer.onOpen
  | onFail => Peer.onFail
  | onDisconnected => Peer.onDisconnected
  | onClose => Peer.onClose

/-- The state after an event, whether it has thrown or not. -/
def next (e : Event) : Peer :=
  match e.method.run p with
  | .ok _ p' => p'
  | .error _ p' => p'

/-- The state after a list of events. -/
def run (events : List Event) : Peer := events.foldl next p

end Peer

end MediasoupDemo.Protoo
