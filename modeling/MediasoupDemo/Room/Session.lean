import MediasoupDemo.Lib.Registry
import MediasoupDemo.Lib.Trace
import MediasoupDemo.Room.Requests

/-!
# A client across joins and disconnects

The worker thread of a `RoomClient` runs one task after the other: the join when the
socket opens, the requests and notifications of the server, and the disconnect when the
socket is lost.  `Session` is a client that is not closed with the native objects behind
it, and `step` is one task.

* The answers of the server and of the native library are parameters: `JoinScript` for
  a join, and for a request the native transport that it finds.
* A native receive transport knows its open consumers.  Closing it calls the
  transport-close listener of each of them (`onTransportClose`).  A join makes a new
  transport and drops the old one without closing it.
* `owner`, `closedPeers`, `joined` and `expected` are not fields of the source.  They keep
  the peer that a consumer was announced for, the peers that have left, whether the
  client has joined since the last disconnect, and the peers that are in the room then.

`SameMaps` says that two states of a client file the same consumers and peers.
-/

namespace MediasoupDemo.Protoo

def JSONObject.optJSONArray (object : JSONObject) (name : String) : Option (List Json) :=
  match object.opt name with
  | some (.array items) => some items
  | _ => none

end MediasoupDemo.Protoo

namespace MediasoupDemo.Room

open MediasoupDemo.Runtime Protoo Method

/-! ## The store -/

namespace RoomStore

/-- `addPeer(peerId, peerInfo)`: a new `Peer` has no consumers, and it takes the place of
an old one. -/
def addPeer (store : RoomStore) (peerId : String) : RoomStore :=
  { store with peers := store.peers.insert peerId [] }

def removePeer (store : RoomStore) (peerId : String) : RoomStore :=
  { store with peers := if peerId.isEmpty then store.peers else store.peers.erase peerId }

def removeConsumer (store : RoomStore) (peerId consumerId : String) : RoomStore :=
  { store with
    consumers := store.consumers.erase consumerId
    peers :=
      match store.peers.lookup peerId with
      | none => store.peers
      | some ids => if peerId.isEmpty then store.peers
          else store.peers.insert peerId (ids.filter (· ≠ consumerId)) }

/-- `setConsumerPaused(consumerId, "remote")` and `setConsumerResumed(consumerId, "remote")`. -/
def setRemotelyPaused (store : RoomStore) (consumerId : String) (mRemotelyPaused : Bool) :
    RoomStore :=
  match store.consumers.lookup consumerId with
  | none => store
  | some wrapper =>
      { store with consumers := store.consumers.insert consumerId { wrapper with mRemotelyPaused } }

theorem peers_foldl_addPeer (store : RoomStore) (ids : List String) :
    (ids.foldl addPeer store).peers =
      ids.foldl (fun peers id => peers.insert id []) store.peers := by
  induction ids generalizing store with
  | nil => rfl
  | cons id ids ih => exact ih (store.addPeer id)

theorem consumers_foldl_addPeer (store : RoomStore) (ids : List String) :
    (ids.foldl addPeer store).consumers = store.consumers := by
  induction ids generalizing store with
  | nil => rfl
  | cons id ids ih => exact ih (store.addPeer id)

end RoomStore

/-! ## Notifications -/

/-- The `case`s of `handleNotification`.  The scores, the layers, the active speaker and the
bandwidth are not kept in the model, so their cases are `other`. -/
inductive NotificationMethod where
  | newPeer
  | peerClosed
  | peerDisplayNameChanged
  | consumerClosed
  | consumerPaused
  | consumerResumed
  | other
  deriving DecidableEq

/-- The `switch` over the method of the notification. -/
def NotificationMethod.ofString (method : String) : NotificationMethod :=
  if method = "newPeer" then .newPeer
  else if method = "peerClosed" then .peerClosed
  else if method = "peerDisplayNameChanged" then .peerDisplayNameChanged
  else if method = "consumerClosed" then .consumerClosed
  else if method = "consumerPaused" then .consumerPaused
  else if method = "consumerResumed" then .consumerResumed
  else .other

namespace RoomClient

/-- `consumerClosed`: the holder is taken out, and the store is told. -/
def consumerClosed (c : RoomClient) (consumerId : String) : RoomClient :=
  match c.mConsumers.lookup consumerId with
  | none => c
  | some holder =>
      { c with
        mConsumers := c.mConsumers.erase consumerId
        mStore := c.mStore.removeConsumer holder.peerId holder.mConsumer.id }

/-- The store is told that a consumer was paused or resumed by the server. -/
def consumerPaused (c : RoomClient) (consumerId : String) (paused : Bool) : RoomClient :=
  match c.mConsumers.lookup consumerId with
  | none => c
  | some holder => { c with mStore := c.mStore.setRemotelyPaused holder.mConsumer.id paused }

def handleNotification (lib : OrgJson) (method : NotificationMethod) (data : JSONObject)
    (c : RoomClient) : RoomClient :=
  match method with
  | .newPeer =>
      { c with
        mStore := (c.mStore.addPeer (data.optString lib "id")).addNotify "info"
          (data.optString lib "displayName" ++ " has joined the room") }
  | .peerClosed => { c with mStore := c.mStore.removePeer (data.optString lib "peerId") }
  | .peerDisplayNameChanged =>
      { c with
        mStore := c.mStore.addNotify "info"
          (data.optString lib "oldDisplayName" ++ " is now " ++ data.optString lib "displayName") }
  | .consumerClosed => c.consumerClosed (data.optString lib "consumerId")
  | .consumerPaused => c.consumerPaused (data.optString lib "consumerId") true
  | .consumerResumed => c.consumerPaused (data.optString lib "consumerId") false
  | .other => c

end RoomClient

/-! ## Joins -/

/-- What the server and the native library answer in a join. -/
structure JoinScript where
  /-- the capabilities, the device and the send transport -/
  prepare : Except JavaException Unit
  /-- `createRecvTransport()` -/
  recvTransport : Except JavaException RecvTransport
  /-- the answer to the request `join` -/
  response : Except JavaException String
  /-- the exception of `getJSONObject(i)` on another value -/
  notAnObject : JavaException
  /-- what follows the peers -/
  finish : Except JavaException Unit

/-- The member `peers` of the join response.  A text that is no object is taken for an empty
one. -/
def peersOf (lib : OrgJson) (response : String) : List Json :=
  (((lib.parse response).getD []).optJSONArray "peers").getD []

/-- The ids of the peers in front of the first value that is no object. -/
def peerIds (lib : OrgJson) : List Json → List String
  | .object peer :: peers => JSONObject.optString lib peer "id" :: peerIds lib peers
  | _ => []

namespace RoomClient

/-- The loop of `joinImpl` over the peers. -/
def addPeers (lib : OrgJson) (script : JoinScript) : List Json → Method RoomClient Unit
  | [] => pure ()
  | .object peer :: peers => do
      modify fun c => { c with mStore := c.mStore.addPeer (JSONObject.optString lib peer "id") }
      addPeers lib script peers
  | _ => throw script.notAnObject

/-- The receive transport of a join. -/
def createRecvTransport (script : JoinScript) : Method RoomClient Unit := do
  if (← get).isConsume then
    let transport ← MonadExcept.ofExcept script.recvTransport
    modify fun c => { c with mRecvTransport := some transport }

/-- The `try` block of `joinImpl`. -/
def join (lib : OrgJson) (script : JoinScript) : Method RoomClient Unit := do
  MonadExcept.ofExcept script.prepare
  createRecvTransport script
  let response ← MonadExcept.ofExcept script.response
  modify fun c => { c with mStore := c.mStore.addNotify "info" "You are in the room!" }
  addPeers lib script (peersOf lib response)
  MonadExcept.ofExcept script.finish

/-- The text for a failed join. -/
def joinError (e : JavaException) : String :=
  match e with
  | .illegalArgument message | .illegalState message | .io message | .eof message =>
      if message.isEmpty then "Could not join the room, internal error"
      else "Could not join the room: " ++ message
  | _ => "Could not join the room, internal error"

/-- `joinImpl()`.  After an exception the client is closed by a task of the main thread. -/
def joinImpl (lib : OrgJson) (script : JoinScript) : Method RoomClient Unit :=
  catchException (join lib script) fun e => notifyError (joinError e)

/-! ## Disconnects -/

/-- The transport-close listener of a consumer.  The store is not told. -/
def onTransportClose (c : RoomClient) (id : String) : RoomClient :=
  if c.isConnecting then { c with mConsumers := c.mConsumers.erase id } else c

/-- `disposeTransportDevice()`, where the receive transport has these consumers open. -/
def disposeTransportDevice (c : RoomClient) (opened : List String) : RoomClient :=
  { opened.foldl onTransportClose c with mRecvTransport := none }

/-- `onDisconnected()`.  The state `DISCONNECTED` clears nothing in the store. -/
def onDisconnected (c : RoomClient) (opened : List String) : RoomClient :=
  disposeTransportDevice
    { c with mStore := c.mStore.addNotify "error" "WebSocket disconnected" } opened

/-- The consumer that a request makes, with the peer that it is announced for. -/
def created (lib : OrgJson) (c : RoomClient) (request : ServerRequest) :
    Option (String × Consumer) := do
  let data ← request.mData
  if request.mMethod = "newConsumer" ∧ c.isConsume then
    let consumer ← (c.consume lib data).toOption
    pure (data.optString lib "peerId", consumer)
  else none

end RoomClient

/-! ## Sessions -/

structure NativeConsumer where
  number : Nat
  transport : Nat
  id : String
  deriving DecidableEq

/-- A client, and what is behind it. -/
structure Session where
  client : RoomClient
  /-- The number of the latest receive transport. -/
  transport : Nat := 0
  /-- How many native consumers were made. -/
  consumers : Nat := 0
  /-- The native consumers that are open. -/
  opened : List NativeConsumer := []
  /-- The native consumer of each holder. -/
  held : AList fun _ : String => Nat := ∅
  owner : AList fun _ : String => String := ∅
  closedPeers : List String := []
  joined : Bool := false
  expected : List String := []

/-- The tasks of the worker. -/
inductive Event where
  | join (script : JoinScript)
  /-- a request, and how the native transport behaves -/
  | request (native : RecvTransport) (script : Script) (request : ServerRequest)
  | notification (method : String) (data : JSONObject)
  | disconnect

namespace Session

/-- A new client with its options.  `isConnecting()` is true, with or without a callback. -/
def start (isConsume callback : Bool) (isAudioOnly : Bool) : Session where
  client :=
    { isConsume, connectCallback := if callback then some true else none
      mStore := { isAudioOnly } }

/-- The peers of the join response. -/
def responsePeers (lib : OrgJson) (script : JoinScript) : List String :=
  match script.response with
  | .ok response => peerIds lib (peersOf lib response)
  | .error _ => []

/-- The peers that a join adds to the store. -/
def announced (lib : OrgJson) (script : JoinScript) (isConsume : Bool) : List String :=
  if script.prepare.isOk && (!isConsume || script.recvTransport.isOk) then responsePeers lib script
  else []

/-- The join comes to its end. -/
def succeeds (lib : OrgJson) (script : JoinScript) (c : RoomClient) : Bool :=
  match (RoomClient.join lib script).run c with
  | .ok _ _ => true
  | .error _ _ => false

def join (lib : OrgJson) (script : JoinScript) (s : Session) : Session :=
  let ids := announced lib script s.client.isConsume
  { s with
    client := final (RoomClient.joinImpl lib script) s.client
    transport :=
      if s.client.isConsume && script.prepare.isOk && script.recvTransport.isOk then s.transport + 1
      else s.transport
    closedPeers := s.closedPeers.filter (· ∉ ids)
    joined := s.joined || succeeds lib script s.client
    expected :=
      if succeeds lib script s.client then responsePeers lib script else s.expected }

/-- The client finds a native transport that behaves so, if it has one. -/
def withNative (c : RoomClient) (native : RecvTransport) : RoomClient :=
  { c with mRecvTransport := c.mRecvTransport.map fun _ => native }

def request (lib : OrgJson) (native : RecvTransport) (script : Script) (request : ServerRequest)
    (s : Session) : Session :=
  let client := final (RoomClient.work lib script request) (withNative s.client native)
  match (withNative s.client native).created lib request with
  | none => { s with client }
  | some (peerId, consumer) =>
      { s with
        client
        consumers := s.consumers + 1
        opened :=
          s.opened ++ [{ number := s.consumers, transport := s.transport, id := consumer.id }]
        held := s.held.insert consumer.id s.consumers
        owner := s.owner.insert consumer.id peerId }

/-- `holder.mConsumer.close()`, if there is a holder. -/
def closeHeld (s : Session) (consumerId : String) : List NativeConsumer :=
  if consumerId ∈ s.client.mConsumers then
    s.opened.filter fun n => s.held.lookup consumerId ≠ some n.number
  else s.opened

/-- A notification of the server. -/
def notification (lib : OrgJson) (method : NotificationMethod) (data : JSONObject) (s : Session) :
    Session :=
  let s' := { s with client := s.client.handleNotification lib method data }
  match method with
  | .newPeer =>
      { s' with
        closedPeers := s.closedPeers.filter (· ≠ data.optString lib "id")
        expected := s.expected ++ [data.optString lib "id"] }
  | .peerClosed =>
      { s' with
        closedPeers := data.optString lib "peerId" :: s.closedPeers
        expected := s.expected.filter (· ≠ data.optString lib "peerId") }
  | .consumerClosed => { s' with opened := s.closeHeld (data.optString lib "consumerId") }
  | _ => s'

/-- The open consumers of the receive transport. -/
def closing (s : Session) : List NativeConsumer :=
  if s.client.mRecvTransport.isSome then s.opened.filter (·.transport = s.transport) else []

/-- The socket is lost. -/
def disconnect (s : Session) : Session :=
  { s with
    client := s.client.onDisconnected (s.closing.map NativeConsumer.id)
    opened := s.opened.filter (· ∉ s.closing)
    joined := false }

/-- One task of the worker. -/
def step (lib : OrgJson) (s : Session) : Event → Session
  | .join script => s.join lib script
  | .request native script request => s.request lib native script request
  | .notification method data => s.notification lib (.ofString method) data
  | .disconnect => s.disconnect

end Session

/-! ## What the tasks do to the maps -/

variable (lib : OrgJson)

variable (script : JoinScript)

namespace RoomClient

/-- The clients file the same consumers and peers. -/
structure SameMaps (c c' : RoomClient) : Prop where
  mClosed : c'.mClosed = c.mClosed
  isConsume : c'.isConsume = c.isConsume
  connectCallback : c'.connectCallback = c.connectCallback
  mConsumers : c'.mConsumers = c.mConsumers
  peers : c'.mStore.peers = c.mStore.peers
  consumers : ∀ id, id ∈ c'.mStore.consumers ↔ id ∈ c.mStore.consumers

section SameMaps

variable {c c' : RoomClient}

theorem SameMaps.refl (c : RoomClient) : SameMaps c c := ⟨rfl, rfl, rfl, rfl, rfl, fun _ => Iff.rfl⟩

/-- A value is written under a key that is there. -/
theorem mem_insert_of_lookup {V : Type} {m : AList fun _ : String => V} {id : String} {v : V}
    (h : m.lookup id = some v) (v' : V) (id' : String) : id' ∈ m.insert id v' ↔ id' ∈ m := by
  rw [AList.mem_insert]
  refine or_iff_right_of_imp fun hid => ?_
  rw [hid, ← AList.lookup_isSome, h]
  rfl

/-- The peer may change, and the notifications. -/
theorem SameMaps.withProtoo (h : SameMaps c c') (p : Peer) : SameMaps c { c' with mProtoo := p } :=
  ⟨h.mClosed, h.isConsume, h.connectCallback, h.mConsumers, h.peers, h.consumers⟩

theorem SameMaps.addNotify (h : SameMaps c c') (type text : String) :
    SameMaps c { c' with mStore := c'.mStore.addNotify type text } :=
  ⟨h.mClosed, h.isConsume, h.connectCallback, h.mConsumers, h.peers, h.consumers⟩

theorem SameMaps.refile (h : SameMaps c c') {id : String} {wrapper : ConsumerWrapper}
    (hwrapper : c'.mStore.consumers.lookup id = some wrapper) (wrapper' : ConsumerWrapper) :
    SameMaps c { c' with mStore :=
      { c'.mStore with consumers := c'.mStore.consumers.insert id wrapper' } } := by
  refine ⟨h.mClosed, h.isConsume, h.connectCallback, h.mConsumers, h.peers, fun id' => ?_⟩
  exact (mem_insert_of_lookup hwrapper wrapper' id').trans (h.consumers id')

theorem SameMaps.setLocallyPaused (h : SameMaps c c') (id : String) :
    SameMaps c { c' with mStore := c'.mStore.setLocallyPaused id true } := by
  unfold RoomStore.setLocallyPaused
  cases hwrapper : c'.mStore.consumers.lookup id with
  | none => exact h
  | some wrapper => exact h.refile hwrapper _

theorem SameMaps.setRemotelyPaused (h : SameMaps c c') (id : String) (paused : Bool) :
    SameMaps c { c' with mStore := c'.mStore.setRemotelyPaused id paused } := by
  unfold RoomStore.setRemotelyPaused
  cases hwrapper : c'.mStore.consumers.lookup id with
  | none => exact h
  | some wrapper => exact h.refile hwrapper _

theorem preserves_protoo (x : Method Peer Unit) : Preserves (SameMaps c) (protoo x) := by
  refine preserves_get_bind fun c' h => ?_
  cases hrun : x.run c'.mProtoo with
  | ok a p => exact h.withProtoo p
  | error e p => exact h.withProtoo p

theorem preserves_notifyError (text : String) : Preserves (SameMaps c) (notifyError text) :=
  preserves_modify fun _ h => h.addNotify "error" text

theorem preserves_syncRequest (script : Script) (method data : String) :
    Preserves (SameMaps c) (syncRequest script method data) := by
  refine preserves_get_bind fun c' h => ?_
  cases hrun : (Peer.request script.requestId method data (some 0)).run c'.mProtoo with
  | ok a p => exact h.withProtoo p
  | error e p => exact h.withProtoo p

theorem preserves_pauseConsumer (script : Script) (consumer : Consumer) :
    Preserves (SameMaps c) (pauseConsumer lib script consumer) := by
  refine preserves_get_bind fun c' h => ?_
  split
  · exact h
  · split
    · exact h
    · refine (preserves_syncRequest script _ _).bind (fun answer => ?_) c' h
      cases answer with
      | error e => exact preserves_notifyError _
      | ok data =>
        refine (preserves_ofExcept _).bind fun _ => ?_
        exact preserves_modify fun _ h => h.setLocallyPaused consumer.id

end SameMaps

variable {c : RoomClient} {request : ServerRequest}

theorem created_eq_some {lib : OrgJson} {peerId : String} {consumer : Consumer} :
    c.created lib request = some (peerId, consumer) ↔
      ∃ data, request.mData = some data ∧ (request.mMethod = "newConsumer" ∧ c.isConsume = true) ∧
        c.consume lib data = .ok consumer ∧ peerId = data.optString lib "peerId" := by
  unfold created
  cases request.mData with
  | none => simp
  | some data =>
    by_cases hwanted : request.mMethod = "newConsumer" ∧ c.isConsume = true
    · cases hconsume : c.consume lib data with
      | error e => simp [hwanted, hconsume, Except.toOption]
      | ok made =>
        simp only [Option.bind_eq_bind, Option.bind_some, if_pos hwanted, hconsume, Except.toOption,
          Option.pure_def, Option.some.injEq, Prod.mk.injEq]
        constructor
        · rintro ⟨hpeer, hmade⟩
          exact ⟨data, rfl, hwanted, hmade ▸ hconsume, hpeer.symm⟩
        · rintro ⟨data', hdata, -, hconsumer, hpeer⟩
          cases hdata
          rw [hconsume] at hconsumer
          cases hconsumer
          exact ⟨hpeer.symm, rfl⟩
    · simp [hwanted]

theorem work_created {lib : OrgJson} {peerId : String} {consumer : Consumer}
    (h : c.created lib request = some (peerId, consumer)) (script : Script) :
    ∃ data, peerId = data.optString lib "peerId" ∧
      SameMaps (c.addConsumer lib data consumer) (final (work lib script request) c) := by
  obtain ⟨data, hdata, ⟨hmethod, hconsume⟩, hconsumer, hpeer⟩ := created_eq_some.mp h
  refine ⟨data, hpeer, final_catchException_of ?_ fun e => preserves_pure ()⟩
  rw [handle, if_pos hmethod, onNewConsumer, final_get_bind, if_neg (by simp [hconsume])]
  refine final_catchException_of ?_ fun e => preserves_notifyError _
  rw [newConsumer, hdata]
  show SameMaps _ (final (get >>= _) c)
  rw [final_get_bind, final_ofExcept_bind hconsumer, final_set_bind]
  refine ((preserves_protoo _).bind fun _ => ?_).final_of (SameMaps.refl _)
  split
  · exact preserves_pauseConsumer lib script consumer
  · exact preserves_pure ()

/-- Any other request files nothing. -/
theorem work_none {lib : OrgJson} (h : c.created lib request = none) (script : Script) :
    SameMaps c (final (work lib script request) c) := by
  refine final_catchException_of ?_ fun e => preserves_pure ()
  unfold handle
  split
  · rename_i hmethod
    rw [onNewConsumer, final_get_bind]
    split
    · exact (preserves_protoo _).final_of (SameMaps.refl c)
    · rename_i hconsume
      refine final_catchException_of ?_ fun e => preserves_notifyError _
      obtain ⟨e, hrun⟩ :=
        run_newConsumer_error lib script request c fun data consumer hdata hok => by
        have hsome := created_eq_some.mpr
          ⟨data, hdata, ⟨hmethod, by simpa using hconsume⟩, hok, rfl⟩
        rw [h] at hsome
        cases hsome
      rw [final_of_error hrun]
      exact SameMaps.refl c
  · split
    · exact (preserves_protoo _).final_of (SameMaps.refl c)
    · exact (preserves_protoo _).final_of (SameMaps.refl c)

/-! ### Joins -/

theorem final_addPeers (peers : List Json) (c : RoomClient) :
    final (addPeers lib script peers) c =
      { c with mStore := (peerIds lib peers).foldl RoomStore.addPeer c.mStore } := by
  induction peers generalizing c with
  | nil => rfl
  | cons peer peers ih =>
    cases peer with
    | object members =>
      rw [addPeers, final_modify_bind, ih]
      rfl
    | _ => rfl

theorem run_createRecvTransport (c : RoomClient) :
    ((!c.isConsume || script.recvTransport.isOk) = false ∧
        ∃ e, (createRecvTransport script).run c = .error e c) ∨
      (!c.isConsume || script.recvTransport.isOk) = true ∧
        ∃ mRecvTransport,
          (createRecvTransport script).run c = .ok () { c with mRecvTransport } := by
  rw [createRecvTransport, run_get_bind]
  by_cases hconsume : c.isConsume = true
  · rw [if_pos hconsume]
    cases script.recvTransport with
    | error e => exact .inl ⟨by rw [hconsume]; rfl, e, rfl⟩
    | ok transport => exact .inr ⟨by rw [hconsume]; rfl, some transport, rfl⟩
  · rw [if_neg hconsume]
    exact .inr ⟨by simp [hconsume], c.mRecvTransport, rfl⟩

/-- What a join does to the maps: it adds peers. -/
theorem sameMaps_joinImpl (c : RoomClient) :
    SameMaps
      { c with
        mStore := (Session.announced lib script c.isConsume).foldl RoomStore.addPeer c.mStore }
      (final (joinImpl lib script) c) := by
  refine final_catchException_of ?_ fun e => preserves_notifyError _
  unfold join Session.announced
  cases hprepare : script.prepare with
  | error e => exact SameMaps.refl c
  | ok _ =>
    rw [final_ofExcept_bind rfl, Except.isOk, Except.toBool, Bool.true_and]
    rcases run_createRecvTransport script c with ⟨hnone, e, hrun⟩ | ⟨hsome, mRecvTransport, hrun⟩
    · rw [final_of_error (run_bind_error hrun _), hnone, if_neg Bool.false_ne_true]
      exact SameMaps.refl c
    · rw [final_bind_ok hrun, hsome, if_pos rfl, Session.responsePeers]
      cases hresponse : script.response with
      | error e => exact ⟨rfl, rfl, rfl, rfl, rfl, fun _ => Iff.rfl⟩
      | ok response =>
        rw [final_ofExcept_bind rfl, final_modify_bind]
        refine final_bind_of ?_ fun _ => preserves_ofExcept _
        rw [final_addPeers]
        refine ⟨rfl, rfl, rfl, rfl, ?_, fun id => ?_⟩
        · rw [RoomStore.peers_foldl_addPeer, RoomStore.peers_foldl_addPeer]
          rfl
        · rw [RoomStore.consumers_foldl_addPeer, RoomStore.consumers_foldl_addPeer]
          rfl

/-- A join that comes to its end has added all the peers of its response. -/
theorem announced_of_succeeds {lib : OrgJson} {script : JoinScript}
    (h : Session.succeeds lib script c = true) :
    Session.announced lib script c.isConsume = Session.responsePeers lib script := by
  unfold Session.succeeds at h
  split at h
  · rename_i c' hrun
    obtain ⟨_, hprepare, hrest⟩ := run_ofExcept_bind_eq_ok hrun
    obtain ⟨_, c₁, htransport, -⟩ := run_bind_eq_ok hrest
    rcases run_createRecvTransport script c with ⟨-, e, hnone⟩ | ⟨hsome, -⟩
    · rw [hnone] at htransport
      cases htransport
    · rw [Session.announced, hprepare, hsome]
      rfl
  · cases h

theorem SameMaps.isConnecting {c' : RoomClient} (h : c.SameMaps c') :
    c'.isConnecting = c.isConnecting := by
  rw [RoomClient.isConnecting, RoomClient.isConnecting, h.connectCallback, h.mClosed]

/-! ### Notifications -/

theorem sameMaps_consumerPaused (c : RoomClient) (consumerId : String) (paused : Bool) :
    c.SameMaps (c.consumerPaused consumerId paused) := by
  unfold consumerPaused
  split
  · exact SameMaps.refl c
  · exact (SameMaps.refl c).setRemotelyPaused _ paused

theorem consumerClosed_cases (c : RoomClient) (consumerId : String) :
    c.mConsumers.lookup consumerId = none ∧ c.consumerClosed consumerId = c ∨
      ∃ holder, c.mConsumers.lookup consumerId = some holder ∧
        c.consumerClosed consumerId =
          { c with
            mConsumers := c.mConsumers.erase consumerId
            mStore := c.mStore.removeConsumer holder.peerId holder.mConsumer.id } := by
  unfold consumerClosed
  cases hholder : c.mConsumers.lookup consumerId with
  | none => exact .inl ⟨rfl, rfl⟩
  | some holder => exact .inr ⟨holder, rfl, rfl⟩

end RoomClient

/-! ### Tasks of a session -/

namespace Session

/-- The sessions file the same consumers and peers, with the same owners. -/
structure Same (s s' : Session) : Prop extends RoomClient.SameMaps s.client s'.client where
  owner : s'.owner = s.owner
  closedPeers : s'.closedPeers = s.closedPeers
  joined : s'.joined = s.joined
  expected : s'.expected = s.expected

def file (s : Session) (data : JSONObject) (consumer : Consumer) : Session :=
  { s with
    client := s.client.addConsumer lib data consumer
    owner := s.owner.insert consumer.id (data.optString lib "peerId") }

/-- A request makes no consumer and changes no map, or it files a consumer. -/
theorem request_cases (native : RecvTransport) (script : Script) (request : ServerRequest)
    (s : Session) :
    (withNative s.client native).created lib request = none ∧
        s.Same (s.request lib native script request) ∨
      ∃ data consumer,
        (withNative s.client native).created lib request =
            some (JSONObject.optString lib data "peerId", consumer) ∧
          (s.file lib data consumer).Same (s.request lib native script request) := by
  cases hcreated : (withNative s.client native).created lib request with
  | none =>
    have hsame := RoomClient.work_none hcreated script
    rw [Session.request, hcreated]
    exact .inl
      ⟨rfl, { hsame with owner := rfl, closedPeers := rfl, joined := rfl, expected := rfl }⟩
  | some made =>
    obtain ⟨data, hpeer, hsame⟩ := RoomClient.work_created hcreated script
    rw [Session.request, hcreated]
    refine .inr ⟨data, made.2, by rw [← hpeer], ?_⟩
    exact { hsame with
      owner := by rw [file, ← hpeer], closedPeers := rfl, joined := rfl, expected := rfl }

/-- A notification of a new or a closed peer, or one that closes a known consumer, or one that
changes no map. -/
theorem notification_cases (method : NotificationMethod) (data : JSONObject) (s : Session) :
    method = .newPeer ∨ method = .peerClosed ∨
      (∃ holder, method = .consumerClosed ∧
        s.client.mConsumers.lookup (data.optString lib "consumerId") = some holder ∧
        (s.notification lib method data).client =
          { s.client with
            mConsumers := s.client.mConsumers.erase (data.optString lib "consumerId")
            mStore := s.client.mStore.removeConsumer holder.peerId holder.mConsumer.id }) ∨
      (method ≠ .newPeer ∧ method ≠ .peerClosed ∧
        (method = .consumerClosed →
          s.client.mConsumers.lookup (data.optString lib "consumerId") = none) ∧
        s.Same (s.notification lib method data)) := by
  cases method with
  | newPeer => exact .inl rfl
  | peerClosed => exact .inr (.inl rfl)
  | consumerClosed =>
    rcases s.client.consumerClosed_cases (data.optString lib "consumerId") with
      ⟨hnone, hclient⟩ | ⟨holder, hholder, hclient⟩
    · have hsame : s.client.SameMaps (s.notification lib .consumerClosed data).client :=
        hclient ▸ RoomClient.SameMaps.refl s.client
      exact .inr (.inr (.inr ⟨nofun, nofun, fun _ => hnone, hsame, rfl, rfl, rfl, rfl⟩))
    · exact .inr (.inr (.inl ⟨holder, rfl, hholder, hclient⟩))
  | consumerPaused =>
    exact .inr (.inr (.inr ⟨nofun, nofun, nofun, s.client.sameMaps_consumerPaused _ true,
      rfl, rfl, rfl, rfl⟩))
  | consumerResumed =>
    exact .inr (.inr (.inr ⟨nofun, nofun, nofun, s.client.sameMaps_consumerPaused _ false,
      rfl, rfl, rfl, rfl⟩))
  | peerDisplayNameChanged | other =>
    exact .inr (.inr (.inr ⟨nofun, nofun, nofun, ⟨rfl, rfl, rfl, rfl, rfl, fun _ => Iff.rfl⟩,
      rfl, rfl, rfl, rfl⟩))

theorem lookup_join (s : Session) (peer : String) :
    (s.join lib script).client.mStore.peers.lookup peer =
      if peer ∈ announced lib script s.client.isConsume then some []
      else s.client.mStore.peers.lookup peer := by
  have hsame := RoomClient.sameMaps_joinImpl lib script s.client
  have hpeers := RoomStore.peers_foldl_addPeer s.client.mStore
    (announced lib script s.client.isConsume)
  rw [← Registry.lookup_foldl_insert, ← hpeers]
  exact congrArg (AList.lookup peer) hsame.peers

theorem consumers_join (s : Session) (id : String) :
    id ∈ (s.join lib script).client.mStore.consumers ↔ id ∈ s.client.mStore.consumers := by
  have hsame := RoomClient.sameMaps_joinImpl lib script s.client
  rw [← RoomStore.consumers_foldl_addPeer s.client.mStore (announced lib script s.client.isConsume)]
  exact hsame.consumers id

end Session

end MediasoupDemo.Room
