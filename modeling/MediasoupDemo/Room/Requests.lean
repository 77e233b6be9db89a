import MediasoupDemo.Protoo.Message

/-!
# `RoomClient`: requests of the server

The server asks the client to consume a media stream, and waits for the reply.
The request comes in on the thread of the socket (`onRequest`), which posts a
job to the worker (`work`).

* `RecvTransport.consume` makes the native consumer and may throw.  `Script` is
  what happens while the consumer is paused: the answer to the request
  `pauseConsumer`, and what the native `pause` does.
* A reply is sent when it is handed to the transport of the peer.  `responses`
  lists the replies that were sent.
* Between `onRequest` and `work` anything may happen to the client, so the two
  have a state each.

Of the store only the consumers, the peers they belong to and the
notifications are kept.
-/

namespace MediasoupDemo.Room

open MediasoupDemo.Runtime Protoo Method

structure Consumer where
  id : String
  kind : String
  isPaused : Bool

/-- `RecvTransport`, with its native `consume`. -/
structure RecvTransport where
  consume : (id producerId kind rtpParameters appData : String) → Except JavaException Consumer

structure ConsumerHolder where
  peerId : String
  mConsumer : Consumer

structure ConsumerWrapper where
  mType : String
  mLocallyPaused : Bool
  mRemotelyPaused : Bool
  mConsumer : Consumer

structure RoomStore where
  isAudioOnly : Bool := false
  consumers : AList fun _ : String => ConsumerWrapper := ∅
  /-- The consumers of every peer. -/
  peers : AList fun _ : String => List String := ∅
  /-- The type and the text of every notification. -/
  notifications : List (String × String) := []

namespace RoomStore

def addNotify (store : RoomStore) (type text : String) : RoomStore :=
  { store with notifications := store.notifications ++ [(type, text)] }

def addConsumer (store : RoomStore) (peerId type : String) (consumer : Consumer)
    (remotelyPaused : Bool) : RoomStore where
  isAudioOnly := store.isAudioOnly
  consumers := store.consumers.insert consumer.id
    { mType := type, mLocallyPaused := false, mRemotelyPaused := remotelyPaused
      mConsumer := consumer }
  peers :=
    -- A peer that is not known is skipped.
    match store.peers.lookup peerId with
    | none => store.peers
    | some ids => if peerId.isEmpty then store.peers
        else store.peers.insert peerId (ids.insert consumer.id)
  notifications := store.notifications

/-- `setConsumerPaused(consumerId, "local")` and `setConsumerResumed(consumerId, "local")`. -/
def setLocallyPaused (store : RoomStore) (consumerId : String) (paused : Bool) : RoomStore :=
  match store.consumers.lookup consumerId with
  | none => store
  | some wrapper =>
      { store with
        consumers := store.consumers.insert consumerId { wrapper with mLocallyPaused := paused } }

end RoomStore

structure RoomClient where
  mClosed : Bool := false
  /-- `mOptions.isConsume()`. -/
  isConsume : Bool := true
  /-- The answer of `connectCallback.isConnecting()`, if there is a callback. -/
  connectCallback : Option Bool := none
  mRecvTransport : Option RecvTransport := none
  mConsumers : AList fun _ : String => ConsumerHolder := ∅
  mStore : RoomStore := {}
  mProtoo : Peer := {}

/-- `Message.Request` of the server. -/
structure ServerRequest where
  mMethod : String
  mId : Int
  mData : Option JSONObject

/-- What happens while a consumer is paused. -/
structure Script where
  requestId : Int
  answer : Except JavaException String
  pause : Except JavaException Unit

namespace RoomClient

def isConnecting (c : RoomClient) : Bool := c.connectCallback.getD (!c.mClosed)

/-- `e.getMessage()`. -/
def getMessage : JavaException → String
  | .illegalArgument message | .illegalState message | .io message | .eof message => message
  | _ => "null"

def protoo (x : Method Peer Unit) : Method RoomClient Unit := do
  let c ← get
  match x.run c.mProtoo with
  | .ok _ p => set { c with mProtoo := p }
  | .error e p => do
      set { c with mProtoo := p }
      throw e

/-- `mStore.addNotify("error", text)`. -/
def notifyError (text : String) : Method RoomClient Unit :=
  modify fun c => { c with mStore := c.mStore.addNotify "error" text }

/-- `mRecvTransport.consume(...)`, with the members of the data. -/
def consume (lib : OrgJson) (c : RoomClient) (data : JSONObject) :
    Except JavaException Consumer :=
  match c.mRecvTransport with
  | none => throw .nullPointer
  | some transport =>
      transport.consume (data.optString lib "id") (data.optString lib "producerId")
        (data.optString lib "kind") (data.optString lib "rtpParameters")
        (data.optString lib "appData")

/-- A new consumer is filed. -/
def addConsumer (lib : OrgJson) (c : RoomClient) (data : JSONObject) (consumer : Consumer) :
    RoomClient :=
  let peerId := data.optString lib "peerId"
  { c with
    mConsumers := c.mConsumers.insert consumer.id { peerId, mConsumer := consumer }
    mStore := c.mStore.addConsumer peerId (data.optString lib "type") consumer
      (data.optBoolean "producerPaused") }

/-- `mProtoo.syncRequest(method, data)`: the answer, or the exception that is
thrown for it. -/
def syncRequest (script : Script) (method data : String) :
    Method RoomClient (Except JavaException String) := do
  let c ← get
  match (Peer.request script.requestId method data (some 0)).run c.mProtoo with
  | .ok _ p => do
      set { c with mProtoo := p }
      pure script.answer
  | .error e p => do
      set { c with mProtoo := p }
      pure (.error e)

/-- `pauseConsumer(consumer)`.  The exception of the request is caught, that of
the native `pause` is not. -/
def pauseConsumer (lib : OrgJson) (script : Script) (consumer : Consumer) :
    Method RoomClient Unit := do
  if !(← get).isConnecting then pure ()
  else if consumer.isPaused then pure ()
  else
    match ← syncRequest script "pauseConsumer"
      (lib.toString (JSONObject.put [] "consumerId" (some (.string consumer.id)))) with
    -- A `ProtooException` has no message.
    | .error _ => notifyError "Error pausing Consumer: null"
    | .ok _ => do
        MonadExcept.ofExcept script.pause
        modify fun c => { c with mStore := c.mStore.setLocallyPaused consumer.id true }

/-- The `try` block of `onNewConsumer`. -/
def newConsumer (lib : OrgJson) (script : Script) (request : ServerRequest) :
    Method RoomClient Unit := do
  match request.mData with
  | none => throw .nullPointer
  | some data => do
      let c ← get
      let consumer ← MonadExcept.ofExcept (c.consume lib data)
      set (c.addConsumer lib data consumer)
      protoo (Peer.accept lib request.mId none)
      if consumer.kind = "video" ∧ c.mStore.isAudioOnly then pauseConsumer lib script consumer
      else pure ()

def onNewConsumer (lib : OrgJson) (script : Script) (request : ServerRequest) :
    Method RoomClient Unit := do
  if !(← get).isConsume then
    protoo (Peer.reject lib request.mId 403 "I do not want to consume")
  else
    -- The server is not told about the exception.
    catchException (newConsumer lib script request)
      fun e => notifyError ("Error creating a Consumer: " ++ getMessage e)

def onNewDataConsumer (lib : OrgJson) (request : ServerRequest) : Method RoomClient Unit :=
  protoo (Peer.reject lib request.mId 403 "I do not want to data consume")

/-- The `switch` over the method of the request. -/
def handle (lib : OrgJson) (script : Script) (request : ServerRequest) :
    Method RoomClient Unit :=
  if request.mMethod = "newConsumer" then onNewConsumer lib script request
  else if request.mMethod = "newDataConsumer" then onNewDataConsumer lib request
  else
    protoo (Peer.reject lib request.mId 403 ("unknown protoo request.method " ++ request.mMethod))

/-- The job that `onRequest` posts. -/
def work (lib : OrgJson) (script : Script) (request : ServerRequest) : Method RoomClient Unit :=
  catchException (handle lib script request) fun _ => pure ()

/-- `onRequest(request, handler)`, called by a peer that is not closed: whether
the job was posted.  The first statement logs the text of the data. -/
def onRequest (request : ServerRequest) : Method RoomClient Bool := do
  let c ← get
  if c.mProtoo.mClosed then pure false
  else
    match request.mData with
    | none => throw .nullPointer
    | some _ => if c.mClosed then pure false else pure true

/-! ## Replies -/

/-- The replies that were sent. -/
def responses (c : RoomClient) : List Response :=
  c.mProtoo.sent.filterMap fun
    | .response response => some response
    | _ => none

/-- A request is processed from `c`, the job running in `c'`: exactly one reply
is sent, and it is one to the request. -/
def RepliesOnce (lib : OrgJson) (script : Script) (request : ServerRequest)
    (c c' : RoomClient) : Prop :=
  (onRequest request).run c = .ok true c ∧
    ∃ c'' reply, (work lib script request).run c' = .ok () c'' ∧
      c''.responses = c'.responses ++ [reply] ∧ reply.mId = request.mId

theorem responses_append (c : RoomClient) (sent : List Message) :
    responses { c with mProtoo := { c.mProtoo with sent := c.mProtoo.sent ++ sent } } =
      c.responses ++ sent.filterMap fun
        | .response response => some response
        | _ => none := by
  show List.filterMap _ (c.mProtoo.sent ++ sent) = _
  rw [List.filterMap_append]
  rfl

/-- The client after a reply was given to the transport. -/
def replied (c : RoomClient) (lib : OrgJson) (response : ParsedMessage) : RoomClient :=
  { c with
    mProtoo :=
      if c.mProtoo.transportClosed then c.mProtoo
      else { c.mProtoo with sent := c.mProtoo.sent ++ [response.toMessage lib] } }

variable (lib : OrgJson) {request : ServerRequest} {c : RoomClient}

theorem run_sendReply (response : ParsedMessage) (c : RoomClient) :
    (protoo (Peer.sendReply response lib)).run c = .ok () (c.replied lib response) := by
  rw [protoo, run_get_bind, Peer.run_sendReply]
  rfl

theorem responses_replied {lib : OrgJson} {response : ParsedMessage} {id : Int}
    (h : response.responseId? = some id) (c : RoomClient) :
    ∃ reply : Response, reply.mId = id ∧
      (c.replied lib response).responses =
        if c.mProtoo.transportClosed then c.responses else c.responses ++ [reply] := by
  have hmessage : ∃ reply : Response, reply.mId = id ∧
      response.toMessage lib = .response reply := by
    cases response with
    | request | notification => cases h
    | successResponse mId mData =>
      cases h
      exact ⟨_, rfl, rfl⟩
    | errorResponse mId mErrorCode mErrorReason =>
      cases h
      exact ⟨_, rfl, rfl⟩
  obtain ⟨reply, hid, hreply⟩ := hmessage
  refine ⟨reply, hid, ?_⟩
  unfold replied
  by_cases hclosed : c.mProtoo.transportClosed = true
  · rw [if_pos hclosed, if_pos hclosed]
  · rw [if_neg hclosed, if_neg hclosed, hreply, responses_append]
    rfl

/-! ## The job -/

theorem run_syncRequest (script : Script) (method data : String) (c : RoomClient) :
    ∃ answer c', (syncRequest script method data).run c = .ok answer c' ∧
      c'.responses = c.responses := by
  rw [syncRequest, run_get_bind]
  cases hclosed : c.mProtoo.transportClosed with
  | true =>
    have hrun : (Peer.request script.requestId method data (some 0)).run c.mProtoo =
        .error (.illegalState "transport closed") c.mProtoo := by
      rw [Peer.request, run_bind_error]
      rw [Peer.sendMessage, run_get_bind, if_pos hclosed, run_throw]
    rw [hrun]
    exact ⟨_, _, rfl, rfl⟩
  | false =>
    have hsend : (Peer.sendMessage (createRequest method script.requestId data)).run c.mProtoo =
        .ok () { c.mProtoo with
          sent := c.mProtoo.sent ++ [createRequest method script.requestId data] } := by
      rw [Peer.sendMessage, run_get_bind, if_neg (by simp [hclosed]), run_set]
    rw [Peer.request, run_bind_ok hsend]
    refine ⟨_, _, rfl, ?_⟩
    show List.filterMap _ (c.mProtoo.sent ++ [_]) = _
    rw [List.filterMap_append]
    exact List.append_nil _

theorem responses_pauseConsumer (script : Script) (consumer : Consumer) (c : RoomClient) :
    (final (pauseConsumer lib script consumer) c).responses = c.responses := by
  rw [pauseConsumer, final_get_bind]
  by_cases hconnecting : (!c.isConnecting) = true
  · rw [if_pos hconnecting]
    rfl
  · rw [if_neg hconnecting]
    by_cases hpaused : consumer.isPaused = true
    · rw [if_pos hpaused]
      rfl
    · rw [if_neg hpaused]
      obtain ⟨answer, c', hrun, hresponses⟩ := run_syncRequest script "pauseConsumer"
        (lib.toString (JSONObject.put [] "consumerId" (some (.string consumer.id)))) c
      rw [final_bind_ok hrun, ← hresponses]
      cases answer with
      | error e => rfl
      | ok data =>
        cases hpause : script.pause with
        | error e => rfl
        | ok _ => rfl

theorem run_accept (id : Int) (c : RoomClient) :
    (protoo (Peer.accept lib id none)).run c =
      .ok () (c.replied lib (.successResponse id (some []))) :=
  run_sendReply lib (.successResponse id (some [])) c

/-- A new consumer is accepted with the state that its filing leaves, and the
pause changes nothing about the replies. -/
theorem responses_newConsumer (script : Script) (request : ServerRequest) (c : RoomClient)
    {data : JSONObject} (hdata : request.mData = some data) {consumer : Consumer}
    (hconsumer : c.consume lib data = .ok consumer) :
    (final (newConsumer lib script request) c).responses =
      ((c.addConsumer lib data consumer).replied lib
        (.successResponse request.mId (some []))).responses := by
  rw [newConsumer, hdata]
  show (final (get >>= _) c).responses = _
  rw [final_get_bind, final_ofExcept_bind hconsumer, final_set_bind,
    final_bind_ok (run_accept lib request.mId _)]
  split
  · exact responses_pauseConsumer lib script consumer _
  · rfl

/-- When there is no consumer, an exception is thrown before anything is
sent. -/
theorem run_newConsumer_error (script : Script) (request : ServerRequest) (c : RoomClient)
    (h : ∀ data consumer, request.mData = some data → c.consume lib data ≠ .ok consumer) :
    ∃ e, (newConsumer lib script request).run c = .error e c := by
  cases hdata : request.mData with
  | none =>
    rw [newConsumer, hdata]
    exact ⟨_, rfl⟩
  | some data =>
    cases hconsumer : c.consume lib data with
    | ok consumer => exact absurd hconsumer (h data consumer hdata)
    | error e =>
      rw [newConsumer, hdata]
      refine ⟨e, ?_⟩
      rw [run_get_bind, hconsumer]
      rfl

/-- The client wants to consume, and gets no consumer. -/
def Unanswered (lib : OrgJson) (request : ServerRequest) (c : RoomClient) : Prop :=
  request.mMethod = "newConsumer" ∧ c.isConsume = true ∧
    ∀ data consumer, request.mData = some data → c.consume lib data ≠ .ok consumer

theorem responses_handle_unanswered {lib : OrgJson} (h : Unanswered lib request c)
    (script : Script) :
    (final (handle lib script request) c).responses = c.responses := by
  obtain ⟨hmethod, hconsume, hnone⟩ := h
  obtain ⟨e, hrun⟩ := run_newConsumer_error lib script request c hnone
  rw [handle, if_pos hmethod, onNewConsumer, final_get_bind, if_neg (by simp [hconsume]),
    final_catchException, hrun]
  rfl

/-- Otherwise the job sends one reply, unless the transport is closed. -/
theorem responses_handle {lib : OrgJson} (h : ¬ Unanswered lib request c) (script : Script) :
    ∃ reply : Response, reply.mId = request.mId ∧
      (final (handle lib script request) c).responses =
        if c.mProtoo.transportClosed then c.responses else c.responses ++ [reply] := by
  have hreject : ∀ code reason, ∃ reply : Response, reply.mId = request.mId ∧
      (final (protoo (Peer.reject lib request.mId code reason)) c).responses =
        if c.mProtoo.transportClosed then c.responses else c.responses ++ [reply] := by
    intro code reason
    have hrun := run_sendReply lib (.errorResponse request.mId code reason) c
    rw [final, Peer.reject, hrun]
    exact responses_replied rfl c
  unfold handle
  split
  next hmethod =>
    rw [onNewConsumer, final_get_bind]
    split
    next => exact hreject 403 "I do not want to consume"
    next hconsume =>
      have hconsumer : ∃ data consumer, request.mData = some data ∧
          c.consume lib data = .ok consumer := by
        by_contra hnone
        push Not at hnone
        exact h ⟨hmethod, by simpa using hconsume, hnone⟩
      obtain ⟨data, consumer, hdata, hconsumer⟩ := hconsumer
      have hfinal : (final (catchException (newConsumer lib script request)
          fun e => notifyError ("Error creating a Consumer: " ++ getMessage e)) c).responses =
            (final (newConsumer lib script request) c).responses := by
        rw [final_catchException, final]
        cases (newConsumer lib script request).run c with
        | ok a c' => rfl
        | error e c' => rfl
      rw [hfinal, responses_newConsumer lib script request c hdata hconsumer]
      exact responses_replied rfl (c.addConsumer lib data consumer)
  next =>
    split
    next => exact hreject 403 "I do not want to data consume"
    next => exact hreject 403 ("unknown protoo request.method " ++ request.mMethod)

theorem run_onRequest_eq_true (hopen : c.mClosed = false) :
    (onRequest request).run c = .ok true c ↔
      c.mProtoo.mClosed = false ∧ request.mData ≠ none := by
  rw [onRequest, run_get_bind]
  cases hprotoo : c.mProtoo.mClosed with
  | true => simp
  | false =>
    cases hdata : request.mData with
    | none => simp
    | some data => simp [hopen]

/-- A request to a client that is not closed gets exactly one reply if and only
if its data is an object, the connection is open, and a consumer can be made
when one is wanted. -/
theorem repliesOnce_iff (lib : OrgJson) (script : Script) (request : ServerRequest)
    (c c' : RoomClient) (hopen : c.mClosed = false) :
    RepliesOnce lib script request c c' ↔
      c.mProtoo.mClosed = false ∧ request.mData ≠ none ∧ c'.mProtoo.transportClosed = false ∧
        (request.mMethod = "newConsumer" → c'.isConsume = true →
          ∃ data consumer, request.mData = some data ∧ c'.consume lib data = .ok consumer) := by
  have hanswered : (request.mMethod = "newConsumer" → c'.isConsume = true →
      ∃ data consumer, request.mData = some data ∧ c'.consume lib data = .ok consumer) ↔
        ¬ Unanswered lib request c' := by
    unfold Unanswered
    push Not
    rfl
  rw [RepliesOnce, run_onRequest_eq_true hopen, work, run_catchException_pure, hanswered,
    and_assoc]
  refine and_congr_right fun _ => and_congr_right fun _ => ?_
  constructor
  · rintro ⟨c'', reply, hrun, hresponses, hid⟩
    cases hrun
    by_cases hsilent : Unanswered lib request c'
    · rw [responses_handle_unanswered hsilent] at hresponses
      simp at hresponses
    · obtain ⟨other, -, hsent⟩ := responses_handle hsilent script
      refine ⟨?_, hsilent⟩
      by_contra hclosed
      rw [hsent, if_pos (by simpa using hclosed)] at hresponses
      simp at hresponses
  · rintro ⟨hclosed, hsilent⟩
    obtain ⟨reply, hid, hsent⟩ := responses_handle hsilent script
    rw [if_neg (by simp [hclosed])] at hsent
    exact ⟨_, reply, rfl, hsent, hid⟩

/-- A receive transport whose `consume` succeeds. -/
def consuming : RecvTransport where
  consume id _ kind _ _ := .ok { id, kind, isPaused := false }

/-- A client in audio-only mode accepts a video consumer, then asks to pause
it. -/
theorem repliesOnce_video :
    RepliesOnce (OrgJson.sample []) ⟨12, .ok "", .ok ()⟩
      ⟨"newConsumer", 5, some [("id", .string "c1"), ("kind", .string "video")]⟩
      { mRecvTransport := some consuming, mStore := { isAudioOnly := true } }
      { mRecvTransport := some consuming, mStore := { isAudioOnly := true } } := by
  refine (repliesOnce_iff _ _ _ _ _ rfl).mpr ⟨rfl, nofun, rfl, fun _ _ => ?_⟩
  exact ⟨_, _, rfl, rfl⟩

/-- No reply to a request whose data is absent, and none to a request for a
consumer before there is a receive transport. -/
theorem not_repliesOnce_absent :
    let absent : JSONObject :=
      [("request", .bool true), ("method", .string "newConsumer"), ("id", .int 5)]
    let lib := OrgJson.sample [absent]
    let script : Script := ⟨12, .ok "", .ok ()⟩
    Message.parse lib "\x7b\"request\":true,\"method\":\"newConsumer\",\"id\":5\x7d" =
        some (.request "newConsumer" 5 none) ∧
      (onRequest ⟨"newConsumer", 5, none⟩).run { mRecvTransport := some consuming } =
        .error .nullPointer { mRecvTransport := some consuming } ∧
      ¬ RepliesOnce lib script ⟨"newConsumer", 5, none⟩ { mRecvTransport := some consuming }
        { mRecvTransport := some consuming } ∧
      ¬ RepliesOnce lib script ⟨"newConsumer", 5, some []⟩ {} {} ∧
      (final (work lib script ⟨"newConsumer", 5, some []⟩) {}).mProtoo.sent = [] ∧
      (final (work lib script ⟨"newConsumer", 5, some []⟩) {}).mStore.notifications =
        [("error", "Error creating a Consumer: null")] := by
  refine ⟨rfl, rfl, ?_, ?_, rfl, rfl⟩
  · rintro ⟨hrun, -⟩
    cases hrun
  · rintro ⟨-, c, reply, hrun, hresponses, -⟩
    cases hrun
    cases hresponses

end RoomClient

end MediasoupDemo.Room
