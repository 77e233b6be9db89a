import MediasoupDemo.Rtmp.Connection

/-!
# Answers to the commands of the client

The server answers a command with a `_result` that carries the transaction id of the command.
`handleRxInvoke` takes the command out of the table of pending ones and does what it is for.

What an answer may change is guarded by the table: `connected` by a pending `connect`, and the
stream id by a pending `createStream`.  What it holds is not checked.  An id without a pending
command ends in `"createStream".contains(null)`, and the values of the answer are taken by their
position and cast.  The receiving thread ends with each of these exceptions.

`Answerable` says which answers are handled.
-/

namespace MediasoupDemo.Rtmp

open MediasoupDemo.Runtime Method

namespace RtmpConnection

variable (data : List AmfData) {c : RtmpConnection}

/-! ## Sending -/

/-- What sending a packet leaves as it is. -/
def kept (c : RtmpConnection) : Bool × Int × Option RtmpDecoder :=
  (c.connected, c.currentStreamId, c.session.map Session.rtmpDecoder)

/-- The next packet cannot be written or flushed, and the `SocketException` has no message. -/
def FailsSilently (network : List (Option SocketFailure)) : Prop :=
  network.head?.join = some (.socketException none) ∨
    network.head?.join = none ∧ network.tail.head?.join = some (.socketException none)

theorem run_getSession {session : Session} (h : c.session = some session) :
    getSession.run c = .ok session c := by
  rw [getSession, run_get_bind, h]
  rfl

theorem run_socketOperation (c : RtmpConnection) :
    socketOperation.run c = .ok c.network.head?.join { c with network := c.network.tail } := rfl

theorem returns_sendFailed (failure : SocketFailure) :
    Returns (sendFailed failure) c ↔ failure ≠ .socketException none := by
  cases failure with
  | ioException message => exact iff_of_true ⟨_, _, rfl⟩ SocketFailure.noConfusion
  | socketException message =>
    cases message with
    | none => simp [sendFailed]
    | some message =>
      refine iff_of_true ?_ (by simp)
      rw [sendFailed, returns_get_bind]
      split_ifs
      · exact returns_pure _ _
      · exact ⟨_, _, rfl⟩

theorem returns_sending (rest : Method RtmpConnection Unit) :
    Returns (sending rest) c ↔ c.network.head?.join ≠ some (.socketException none) ∧
      (c.network.head?.join = none → Returns rest { c with network := c.network.tail }) := by
  rw [sending, returns_bind_ok (run_socketOperation c)]
  cases c.network.head?.join with
  | some failure => simp [returns_sendFailed]
  | none => simp

theorem returns_sendRtmpPacket (reply : Reply) (h : c.session ≠ none) :
    Returns (sendRtmpPacket reply) c ↔ ¬ FailsSilently c.network := by
  obtain ⟨session, hsession⟩ := Option.ne_none_iff_exists'.mp h
  have hwritten : Returns (do
      modify fun c => { c with sent := c.sent ++ [reply] }
      addInvoked (invokedBy reply)
      sending (pure ())) { c with network := c.network.tail } ↔
        c.network.tail.head?.join ≠ some (.socketException none) := by
    rw [returns_modify_bind]
    cases reply <;> exact (returns_sending _).trans (by simp [onSession])
  rw [sendRtmpPacket, returns_bind_ok (run_getSession hsession), returns_sending, hwritten,
    FailsSilently]
  simp [not_or]

variable (k : Bool × Int × Option RtmpDecoder)

theorem preserves_sendFailed (failure : SocketFailure) :
    Preserves (fun c => c.kept = k) (sendFailed failure) := by
  cases failure with
  | ioException message => exact preserves_modify fun _ h => h
  | socketException message =>
    cases message with
    | none => exact preserves_throw _
    | some message =>
      refine preserves_get_bind fun c h => ?_
      split_ifs
      · exact h
      · exact h

theorem preserves_sending
    {rest : Method RtmpConnection Unit} (h : Preserves (fun c => c.kept = k) rest) :
    Preserves (fun c => c.kept = k) (sending rest) := by
  refine Preserves.bind (fun _ hkept => hkept) fun outcome => ?_
  cases outcome with
  | some failure => exact preserves_sendFailed k failure
  | none => exact h

theorem preserves_sendRtmpPacket (reply : Reply) :
    Preserves (fun c => c.kept = k) (sendRtmpPacket reply) := by
  refine Preserves.bind (fun c h => ?_) fun _ => preserves_sending k ?_
  · rw [getSession, final_get_bind]
    cases c.session <;> exact h
  · refine Preserves.bind (x := modify _) (fun _ h => h) fun _ => Preserves.bind ?_ fun _ =>
      preserves_sending k (preserves_pure ())
    cases reply with
    | publish _ _ _ =>
      intro c h
      rw [← h]
      show (c.connected, c.currentStreamId, (c.session.map _).map Session.rtmpDecoder) = c.kept
      rw [Option.map_map]
      rfl
    | pong _ | windowAckSize _ | metaData _ _ _ => exact preserves_pure ()

/-- Publishing: a connection without a stream only tells the handler. -/
theorem preserves_sendOnStream (reply : Int → Reply) :
    Preserves (fun c => c.kept = k) (sendOnStream reply) := by
  refine preserves_get_bind fun c h => ?_
  split_ifs
  · exact h
  · exact h
  · exact preserves_sendRtmpPacket k _ c h

/-! ## The values of an answer -/

theorem getItem_bind_eq_ok {α : Type} {cast : AmfData → Except JavaException α} {index : Nat}
    {a : α} : (getItem data index >>= cast) = .ok a ↔
      ∃ item, data[index]? = some item ∧ cast item = .ok a := by
  rw [getItem]
  cases data[index]? with
  | none => simp [bind, Except.bind, throw, throwThe, MonadExceptOf.throw]
  | some item => simp [bind, Except.bind, pure, Except.pure]

theorem castObject_eq_ok {item : AmfData} {properties : List (String × AmfData)} :
    castObject item = .ok properties ↔ objectProperties item = some properties := by
  rw [castObject]
  cases objectProperties item with
  | none => simp [throw, throwThe, MonadExceptOf.throw]
  | some properties => simp [pure, Except.pure]

theorem castNumber_eq_ok {item : AmfData} {bits : BitVec 64} :
    castNumber item = .ok bits ↔ item = .number bits := by
  cases item <;> simp [castNumber, pure, Except.pure, throw, throwThe, MonadExceptOf.throw]

theorem castString_eq_ok {item : AmfData} {value : String} :
    castString item = .ok value ↔ item = .string value := by
  cases item <;> simp [castString, pure, Except.pure, throw, throwThe, MonadExceptOf.throw]

/-- A property is cast if it is missing or of the class. -/
theorem castProperty_returns {α : Type} {cast : AmfData → Except JavaException α}
    {properties : List (String × AmfData)} {key : String} :
    (∃ a, castProperty cast properties key = .ok a) ↔
      ∀ item, properties.lookup key = some item → ∃ a, cast item = .ok a := by
  rw [castProperty]
  cases properties.lookup key with
  | none => simp [pure, Except.pure]
  | some item => cases hcast : cast item <;> simp [hcast, Functor.map, Except.map]

/-- The three properties of the server are missing or of the right types. -/
def ServerInfo (objData : List (String × AmfData)) : Prop :=
  (∀ item, objData.lookup "srs_server_ip" = some item → ∃ value, item = .string value) ∧
    (∀ item, objData.lookup "srs_pid" = some item → ∃ bits, item = .number bits) ∧
      ∀ item, objData.lookup "srs_id" = some item → ∃ bits, item = .number bits

/-- The second value of an answer to `connect` is an object, and what that says of the server is
of the right types. -/
def ConnectAnswer (data : List AmfData) : Prop :=
  ∃ item properties, data[1]? = some item ∧ objectProperties item = some properties ∧
    ∀ objData, (properties.lookup "data").bind objectProperties = some objData →
      ServerInfo objData

theorem returns_takeServerInfo (objData : List (String × AmfData)) (c : RtmpConnection) :
    Returns (takeServerInfo objData) c ↔ ServerInfo objData := by
  have hip := @castProperty_returns _ castString objData "srs_server_ip"
  have hpid := @castProperty_returns _ castNumber objData "srs_pid"
  have hid := @castProperty_returns _ castNumber objData "srs_id"
  simp only [castString_eq_ok, castNumber_eq_ok] at hip hpid hid
  simp only [takeServerInfo, returns_ofExcept_bind, returns_modify_bind, returns_modify, and_true]
  rw [ServerInfo, ← hip, ← hpid, ← hid]
  simp

theorem returns_onSrsServerInfo (c : RtmpConnection) :
    Returns (onSrsServerInfo data) c ↔ ConnectAnswer data := by
  have hinfo : ∀ objData : Option (List (String × AmfData)),
      Returns (takeServerData objData) c ↔ ∀ properties, objData = some properties →
        ServerInfo properties := by
    intro objData
    cases objData with
    | none => exact iff_of_true ⟨_, _, rfl⟩ (by simp)
    | some objData => simpa [takeServerData] using returns_takeServerInfo objData c
  rw [onSrsServerInfo, returns_ofExcept_bind, ConnectAnswer]
  simp only [getItem_bind_eq_ok, castObject_eq_ok, ← hinfo]
  constructor
  · rintro ⟨properties, ⟨item, hitem, hobject⟩, hreturns⟩
    exact ⟨item, properties, hitem, hobject,
      (returns_bind_iff fun _ c' => ⟨_, c', rfl⟩).mp hreturns⟩
  · rintro ⟨item, properties, hitem, hobject, hreturns⟩
    exact ⟨properties, ⟨item, hitem, hobject⟩,
      (returns_bind_iff fun _ c' => ⟨_, c', rfl⟩).mpr hreturns⟩

theorem preserves_onSrsServerInfo :
    Preserves (fun c => c.kept = k) (onSrsServerInfo data) := by
  refine (preserves_ofExcept _).bind fun properties => Preserves.bind ?_ fun _ _ h => h
  cases (properties.lookup "data").bind objectProperties with
  | none => exact preserves_pure ()
  | some objData =>
    exact (preserves_ofExcept _).bind fun _ =>
      Preserves.bind (x := modify _) (fun _ h => h) fun _ =>
      (preserves_ofExcept _).bind fun _ => Preserves.bind (x := modify _) (fun _ h => h) fun _ =>
        (preserves_ofExcept _).bind fun _ => fun _ h => h

/-! ## Answers -/

/-- The command that an answer with this id is for. -/
def pending (c : RtmpConnection) (transactionId : Int) : Option InvokedCommand :=
  c.session.bind fun session => session.invokedMethods transactionId

/-- The stream gets a `publish` command as soon as it has this id. -/
def Publishes (c : RtmpConnection) (streamId : Int) : Prop :=
  c.streamName ≠ none ∧ c.publishType ≠ none ∧ c.connected = true ∧ streamId ≠ 0

/-- The answer is to a pending command and has the values that are taken from it.  What is sent
then is written, or the reason why not has a message. -/
def Answerable (c : RtmpConnection) (transactionId : Int) (data : List AmfData) : Prop :=
  match c.pending transactionId with
  | none => False
  | some .connect => ConnectAnswer data
  | some .createStream => ∃ bits, data[1]? = some (.number bits) ∧
      (c.Publishes (doubleToInt bits) → ¬ FailsSilently c.network)
  | some .releaseStream | some .FCPublish | some .publish | some .closeStream => True

theorem returns_streamCreated (bits : BitVec 64) (h : c.session ≠ none) :
    Returns (streamCreated bits) c ↔
      (c.Publishes (doubleToInt bits) → ¬ FailsSilently c.network) := by
  rw [streamCreated, returns_modify_bind, returns_get_bind, Publishes]
  cases c.streamName with
  | none => simp [fmlePublish]
  | some streamName =>
    cases c.publishType with
    | none => simp [fmlePublish]
    | some publishType =>
      simp only [fmlePublish, sendOnStream, returns_get_bind]
      split_ifs with hconnected hzero
      · simp_all [notify]
      · simp_all [notify]
      · rw [returns_sendRtmpPacket]
        · simp_all
        · exact h

theorem preserves_fmlePublish (streamName publishType : Option String) :
    Preserves (fun c => c.kept = k) (fmlePublish streamName publishType) := by
  unfold fmlePublish
  split
  · exact preserves_sendOnStream k _
  · exact preserves_pure ()

theorem connected_streamCreated (bits : BitVec 64) (c : RtmpConnection) :
    (final (streamCreated bits) c).connected = c.connected := by
  have hkept := preserves_fmlePublish _ c.streamName c.publishType
    { c with currentStreamId := doubleToInt bits } rfl
  exact congrArg Prod.fst hkept

/-- What is left of the pending commands. -/
def answered (transactionId : Int) (c : RtmpConnection) : RtmpConnection :=
  c.onSession fun s =>
    { s with invokedMethods := Function.update s.invokedMethods transactionId none }

theorem run_takeInvokedCommand {session : Session} (h : c.session = some session)
    (transactionId : Int) :
    (takeInvokedCommand transactionId).run c =
      .ok (session.invokedMethods transactionId) (c.answered transactionId) := by
  rw [takeInvokedCommand, run_bind_ok (run_getSession h)]
  rfl

/-- What the answer to a command is for. -/
def answer (data : List AmfData) : InvokedCommand → Method RtmpConnection Unit
  | .connect => do
      let srsServerInfo ← onSrsServerInfo data
      modify fun c => { c with srsServerInfo, connected := true }
  | .createStream => MonadExcept.ofExcept (getItem data 1 >>= castNumber) >>= streamCreated
  | .releaseStream | .FCPublish | .publish | .closeStream => pure ()

/-- Only `createStream` is contained in `createStream`. -/
theorem run_handleResult {transactionId : Int} {method : InvokedCommand}
    (h : c.pending transactionId = some method) :
    (handleResult transactionId data).run c =
      (answer data method).run (c.answered transactionId) := by
  obtain ⟨session, hsession, hmethod⟩ := Option.bind_eq_some_iff.mp h
  rw [handleResult, run_bind_ok (run_takeInvokedCommand hsession transactionId), hmethod]
  cases method <;> rfl

/-- `"createStream".contains(null)` throws. -/
theorem run_handleResult_none {transactionId : Int} (h : c.pending transactionId = none) :
    (handleResult transactionId data).run c = .error .nullPointer c := by
  cases hsession : c.session with
  | none =>
    have hthrown : getSession.run c = .error .nullPointer c := by
      rw [getSession, run_get_bind, hsession]
      rfl
    rw [handleResult, takeInvokedCommand, run_bind_error (run_bind_error hthrown _)]
  | some session =>
    have hnone : session.invokedMethods transactionId = none := by
      rwa [pending, hsession] at h
    have hanswered : c.answered transactionId = c := by
      rw [answered, onSession, hsession]
      show { c with session := some { session with invokedMethods := _ } } = c
      rw [← hnone, Function.update_eq_self, ← hsession]
    rw [handleResult, run_bind_ok (run_takeInvokedCommand hsession transactionId), hnone,
      hanswered]
    rfl

/-- An answer is handled just when it is answerable.  It changes `connected` only for a pending
`connect`, the stream id only for a pending `createStream`, and nothing without a pending
command. -/
theorem handleRxInvoke_result (c : RtmpConnection) (transactionId : Int) (data : List AmfData) :
    let x := handleRxInvoke "_result" transactionId data
    (thrown x c = none ↔ c.Answerable transactionId data) ∧
      ((final x c).connected ≠ c.connected → c.pending transactionId = some .connect) ∧
      ((final x c).currentStreamId ≠ c.currentStreamId →
        c.pending transactionId = some .createStream) ∧
      (c.pending transactionId = none → final x c = c) := by
  show (thrown (handleResult transactionId data) c = none ↔ _) ∧
    ((final (handleResult transactionId data) c).connected ≠ _ → _) ∧
    ((final (handleResult transactionId data) c).currentStreamId ≠ _ → _) ∧
    (_ → final (handleResult transactionId data) c = c)
  rw [Answerable]
  cases hpending : c.pending transactionId with
  | none =>
    have hrun := run_handleResult_none data hpending
    rw [thrown, final, hrun]
    simp
  | some method =>
    have hrun := run_handleResult data hpending
    have hthrown : thrown (handleResult transactionId data) c = none ↔
        Returns (answer data method) (c.answered transactionId) := by
      rw [thrown_eq_none_iff, Returns, hrun, Returns]
    have hfinal : final (handleResult transactionId data) c =
        final (answer data method) (c.answered transactionId) := by
      rw [final, hrun, final]
    have hsession : (c.answered transactionId).session ≠ none := by
      obtain ⟨session, hsession, -⟩ := Option.bind_eq_some_iff.mp hpending
      simp [answered, onSession, hsession]
    have hsame : (c.answered transactionId).kept = c.kept := by
      rw [answered, kept, onSession, Option.map_map]
      rfl
    rw [hthrown, hfinal]
    cases method with
    | releaseStream | FCPublish | publish | closeStream => simp [answer, final, answered, onSession]
    | connect =>
      refine ⟨?_, fun _ => rfl, fun hne => absurd ?_ hne, fun h => by cases h⟩
      · rw [answer, returns_bind_iff fun _ c' => returns_modify _ c', returns_onSrsServerInfo]
      · have hkept := preserves_onSrsServerInfo data c.kept (c.answered transactionId) hsame
        exact final_bind_of (P := fun c' : RtmpConnection => c'.currentStreamId = c.currentStreamId)
          (congrArg (fun k => k.2.1) hkept) fun _ _ h => h
    | createStream =>
      refine ⟨?_, fun hne => absurd ?_ hne, fun _ => rfl, fun h => by cases h⟩
      · rw [answer, returns_ofExcept_bind]
        simp only [getItem_bind_eq_ok, castNumber_eq_ok, exists_eq_right]
        refine exists_congr fun bits => and_congr_right fun _ => ?_
        exact returns_streamCreated (c := c.answered transactionId) bits hsession
      · rw [answer]
        cases getItem data 1 >>= castNumber with
        | error e => rfl
        | ok bits => exact connected_streamCreated bits (c.answered transactionId)

/-- A connection that waits for the stream id. -/
def creatingStream : RtmpConnection where
  session := some
    { rtmpDecoder := .start 128 [] []
      invokedMethods := Function.update (fun _ => none) 4 (some .createStream) }
  connected := true

/-- The answer to a command that is repeated, and an answer without a stream id. -/
theorem not_handled_repeated :
    let x := handleRxInvoke "_result" 4 [.null, .number 0x3ff0000000000000]
    thrown x creatingStream = none ∧ (final x creatingStream).currentStreamId = 1 ∧
      thrown x (final x creatingStream) = some .nullPointer ∧
      thrown (handleRxInvoke "_result" 4 [.null]) creatingStream = some .indexOutOfBounds := by
  refine ⟨rfl, rfl, rfl, rfl⟩

end RtmpConnection

end MediasoupDemo.Rtmp
