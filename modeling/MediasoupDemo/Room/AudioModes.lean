import MediasoupDemo.Room.Pausing

/-!
# Audio only and muted audio

`enableAudioOnly`, `disableAudioOnly`, `muteAudio` and `unmuteAudio` are called on the main
thread.  Each of them posts a job to the worker, which goes through the consumers and pauses
or resumes those of one kind.  The store says "audio only" when the job ends, and "muted"
before the job is posted.  A new consumer is a job too.

* `AudioRoom` is a client with the queue of its worker.  The jobs run one after another, in
  the order in which they were posted.
* The jobs for the camera that `enableAudioOnly` and `disableAudioOnly` post do not touch a
  consumer.  They are left out.
* `onNewConsumer` is that of `RoomClient` with the flags of the native consumers.

A new video consumer is paused when the store says "audio only".  A new audio consumer is
not paused when the store says "muted", and `MissesMute` is the job where this is not made
good by a job behind it in the queue.
-/

namespace MediasoupDemo.Room

open MediasoupDemo.Runtime Protoo Method Trace

namespace PausingClient

/-! ## The jobs -/

/-- A new consumer is filed. -/
def addConsumer (lib : OrgJson) (c : PausingClient) (data : JSONObject) (consumer : Consumer) :
    PausingClient :=
  { c with
    toRoomClient := c.toRoomClient.addConsumer lib data consumer
    consumerPaused := Function.update c.consumerPaused consumer.id consumer.isPaused
    consumerClosed := Function.update c.consumerClosed consumer.id false }

/-- The `try` block of `onNewConsumer`. -/
def newConsumer (lib : OrgJson) (replies : String → Reply) (request : ServerRequest) :
    Method PausingClient Unit := do
  match request.mData with
  | none => throw .nullPointer
  | some data => do
      let c ← get
      let consumer ← MonadExcept.ofExcept (c.consume lib data)
      set (c.addConsumer lib data consumer)
      room (RoomClient.protoo (Peer.accept lib request.mId none))
      if consumer.kind = "video" ∧ c.mStore.isAudioOnly then
        pauseConsumer lib (replies consumer.id) consumer.id
      else pure ()

def onNewConsumer (lib : OrgJson) (replies : String → Reply) (request : ServerRequest) :
    Method PausingClient Unit := do
  if !(← get).isConsume then
    room (RoomClient.protoo (Peer.reject lib request.mId 403 "I do not want to consume"))
  else
    catchException (newConsumer lib replies request) fun e =>
      room (RoomClient.notifyError ("Error creating a Consumer: " ++ RoomClient.getMessage e))

/-- The loop over `mConsumers.values()`. -/
def forKind (kind : String) (body : String → Method PausingClient Unit) :
    List ConsumerHolder → Method PausingClient Unit
  | [] => pure ()
  | holder :: rest => do
      if holder.mConsumer.kind = kind then body holder.mConsumer.id else pure ()
      forKind kind body rest

/-- `mConsumers.values()`. -/
def values (c : PausingClient) : List ConsumerHolder := c.mConsumers.entries.map Sigma.snd

def setAudioOnlyState (c : PausingClient) (enabled : Bool) : PausingClient :=
  { c with mStore := { c.mStore with isAudioOnly := enabled } }

end PausingClient

/-- A job of the worker. -/
inductive AudioJob where
  | enableAudioOnly
  | disableAudioOnly
  | muteAudio
  | unmuteAudio
  | newConsumer (request : ServerRequest)

namespace PausingClient

/-- What a job does.  The replies are those to the requests for each consumer. -/
def work (lib : OrgJson) (replies : String → Reply) : AudioJob → Method PausingClient Unit
  | .enableAudioOnly => do
      forKind "video" (fun id => pauseConsumer lib (replies id) id) (← get).values
      modify fun c => c.setAudioOnlyState true
  | .disableAudioOnly => do
      forKind "video" (fun id => resumeConsumer lib (replies id) id) (← get).values
      modify fun c => c.setAudioOnlyState false
  | .muteAudio => do
      forKind "audio" (fun id => pauseConsumer lib (replies id) id) (← get).values
  | .unmuteAudio => do
      forKind "audio" (fun id => resumeConsumer lib (replies id) id) (← get).values
  | .newConsumer request => onNewConsumer lib replies request

end PausingClient

/-! ## The calls -/

/-- A client and the jobs that wait for the worker. -/
structure AudioRoom where
  client : PausingClient
  queue : List AudioJob := []

/-- What happens to a room. -/
inductive AudioEvent where
  | enableAudioOnly
  | disableAudioOnly
  | muteAudio
  | unmuteAudio
  /-- the server announces a consumer -/
  | newConsumer (request : ServerRequest)
  /-- the worker runs its next job -/
  | run (replies : String → Reply)

namespace AudioRoom

/-- `mWorkHandler.post(job)`. -/
def post (s : AudioRoom) (job : AudioJob) : AudioRoom := { s with queue := s.queue ++ [job] }

def setAudioMutedState (s : AudioRoom) (enabled : Bool) : AudioRoom :=
  { s with client := { s.client with isAudioMuted := enabled } }

/-- One event. -/
def step (lib : OrgJson) (s : AudioRoom) : AudioEvent → AudioRoom
  | .enableAudioOnly => if s.client.isConnecting then s.post .enableAudioOnly else s
  | .disableAudioOnly => if s.client.isConnecting then s.post .disableAudioOnly else s
  | .muteAudio =>
      if s.client.isConnecting then (s.setAudioMutedState true).post .muteAudio else s
  | .unmuteAudio =>
      if s.client.isConnecting then (s.setAudioMutedState false).post .unmuteAudio else s
  | .newConsumer request =>
      match (RoomClient.onRequest request).run s.client.toRoomClient with
      | .ok true _ => s.post (.newConsumer request)
      | _ => s
  | .run replies =>
      match s.queue with
      | [] => s
      | job :: rest =>
          { client := final (PausingClient.work lib replies job) s.client, queue := rest }

end AudioRoom

variable {replies : String → Reply} {request : ServerRequest} {lib : OrgJson}

namespace PausingClient

variable {c c' : PausingClient}

/-! ## The loops -/

/-- A connected room: requests can be sent, and the consumers are open and filed under their
ids. -/
structure Ready (c : PausingClient) : Prop where
  connecting : c.isConnecting = true
  transport : c.mProtoo.transportClosed = false
  keyed : ∀ key holder, c.mConsumers.lookup key = some holder → holder.mConsumer.id = key
  opened : ∀ key holder, c.mConsumers.lookup key = some holder →
    c.consumerClosed holder.mConsumer.id = false

/-- Every consumer of a kind is paused. -/
def AllPaused (c : PausingClient) (kind : String) : Prop :=
  ∀ key holder, c.mConsumers.lookup key = some holder → holder.mConsumer.kind = kind →
    c.consumerPaused holder.mConsumer.id = true

/-- What a loop leaves as it was. -/
structure Frame (c c' : PausingClient) : Prop where
  mClosed : c'.mClosed = c.mClosed
  connectCallback : c'.connectCallback = c.connectCallback
  transportClosed : c'.mProtoo.transportClosed = c.mProtoo.transportClosed
  mConsumers : c'.mConsumers = c.mConsumers
  consumerClosed : c'.consumerClosed = c.consumerClosed
  isAudioOnly : c'.mStore.isAudioOnly = c.mStore.isAudioOnly
  isAudioMuted : c'.isAudioMuted = c.isAudioMuted

theorem Frame.trans {c'' : PausingClient} (h : c.Frame c') (h' : c'.Frame c'') : c.Frame c'' where
  mClosed := h'.mClosed.trans h.mClosed
  connectCallback := h'.connectCallback.trans h.connectCallback
  transportClosed := h'.transportClosed.trans h.transportClosed
  mConsumers := h'.mConsumers.trans h.mConsumers
  consumerClosed := h'.consumerClosed.trans h.consumerClosed
  isAudioOnly := h'.isAudioOnly.trans h.isAudioOnly
  isAudioMuted := h'.isAudioMuted.trans h.isAudioMuted

theorem Frame.isConnecting (h : c.Frame c') : c'.isConnecting = c.isConnecting := by
  unfold RoomClient.isConnecting
  rw [h.connectCallback, h.mClosed]

theorem Frame.ready (h : c.Frame c') (hready : c.Ready) : c'.Ready where
  connecting := h.isConnecting.trans hready.connecting
  transport := h.transportClosed.trans hready.transport
  keyed := by
    rw [h.mConsumers]
    exact hready.keyed
  opened := by
    rw [h.mConsumers, h.consumerClosed]
    exact hready.opened

theorem frame_room {r : RoomClient} (h : SameRoom c.toRoomClient r) :
    c.Frame { c with toRoomClient := r } :=
  ⟨h.mClosed, h.connectCallback, h.transportClosed, h.mConsumers, rfl, h.isAudioOnly, rfl⟩

theorem frame_applyConsumer (c : PausingClient) (id : String) (paused : Bool) :
    c.Frame (c.applyConsumer id paused) := by
  refine ⟨rfl, rfl, rfl, rfl, rfl, ?_, rfl⟩
  show (c.mStore.setLocallyPaused id paused).isAudioOnly = _
  unfold RoomStore.setLocallyPaused
  split <;> rfl

theorem run_changeConsumer_of_ready {reply : Reply} {id : String}
    (hconnecting : c.isConnecting = true) (htransport : c.mProtoo.transportClosed = false)
    (hopen : c.consumerClosed id = false) (hreply : reply.answer.isOk = true) (lib : OrgJson)
    (paused : Bool) (method participle : String) :
    ∃ c', (changeConsumer lib reply id paused method participle).run c = .ok () c' ∧
      c.Frame c' ∧ c'.consumerPaused = Function.update c.consumerPaused id paused := by
  obtain ⟨r, hr, hrun⟩ := run_changeConsumer lib reply id paused method participle c
  have hsucceeds : c.succeeds reply = true := by
    rw [succeeds, htransport, hreply]
    rfl
  by_cases hflag : c.consumerPaused id = paused
  · rw [if_neg fun h => h.2.1 hflag] at hrun
    refine ⟨_, hrun, frame_room hr, ?_⟩
    rw [← hflag]
    exact (Function.update_eq_self id c.consumerPaused).symm
  · rw [if_pos ⟨hconnecting, hflag, hsucceeds⟩] at hrun
    refine ⟨_, hrun, (frame_room hr).trans (frame_applyConsumer _ id paused), ?_⟩
    show (if c.consumerClosed id = true then _ else _) = _
    rw [hopen]
    rfl

/-- The loop changes the consumers of its kind and no others. -/
theorem run_forKind (kind : String) (paused : Bool)
    (hreplies : ∀ id, (replies id).answer.isOk = true) (lib : OrgJson) (method participle : String)
    (holders : List ConsumerHolder) (hconnecting : c.isConnecting = true)
    (htransport : c.mProtoo.transportClosed = false)
    (hopen : ∀ holder ∈ holders, c.consumerClosed holder.mConsumer.id = false) :
    ∃ c', (forKind kind (fun id => changeConsumer lib (replies id) id paused method participle)
        holders).run c = .ok () c' ∧ c.Frame c' ∧
      ∀ id, c'.consumerPaused id =
        if ∃ holder ∈ holders, holder.mConsumer.kind = kind ∧ holder.mConsumer.id = id then paused
        else c.consumerPaused id := by
  induction holders generalizing c with
  | nil => exact ⟨c, rfl, ⟨rfl, rfl, rfl, rfl, rfl, rfl, rfl⟩, fun id => by simp⟩
  | cons holder rest ih =>
    have hrest : ∀ holder ∈ rest, c.consumerClosed holder.mConsumer.id = false :=
      fun holder' hmem => hopen holder' (List.mem_cons_of_mem _ hmem)
    rw [forKind]
    by_cases hkind : holder.mConsumer.kind = kind
    · obtain ⟨c₁, hrun, hframe, hpaused⟩ := run_changeConsumer_of_ready hconnecting htransport
        (hopen holder List.mem_cons_self) (hreplies holder.mConsumer.id) lib paused
        method participle
      obtain ⟨c₂, hrun', hframe', hpaused'⟩ := ih (hframe.isConnecting.trans hconnecting)
        (hframe.transportClosed.trans htransport) (by rw [hframe.consumerClosed]; exact hrest)
      rw [if_pos hkind, run_bind_ok hrun]
      refine ⟨c₂, hrun', hframe.trans hframe', fun id => ?_⟩
      rw [hpaused' id, hpaused]
      by_cases hid : holder.mConsumer.id = id
      · subst hid
        simp [hkind]
      · rw [Function.update_of_ne fun heq => hid heq.symm]
        simp [hid]
    · obtain ⟨c', hrun, hframe, hpaused⟩ := ih hconnecting htransport hrest
      rw [if_neg hkind]
      refine ⟨c', hrun, hframe, fun id => ?_⟩
      rw [hpaused id]
      simp [hkind]

theorem mem_values {holder : ConsumerHolder} :
    holder ∈ c.values ↔ ∃ key, c.mConsumers.lookup key = some holder := by
  unfold values
  rw [List.mem_map]
  constructor
  · rintro ⟨⟨key, value⟩, hmem, rfl⟩
    exact ⟨key, AList.mem_lookup_iff.mpr hmem⟩
  · rintro ⟨key, hkey⟩
    exact ⟨⟨key, holder⟩, AList.mem_lookup_iff.mp hkey, rfl⟩

/-- What the loop over all consumers of a connected room does: the flags of one kind are set. -/
structure Changed (c : PausingClient) (kind : String) (paused : Bool) (c' : PausingClient) : Prop
    extends Frame c c' where
  consumerPaused : ∀ key holder, c.mConsumers.lookup key = some holder →
    c'.consumerPaused holder.mConsumer.id =
      if holder.mConsumer.kind = kind then paused else c.consumerPaused holder.mConsumer.id

theorem run_forKind_values (hready : c.Ready) (kind : String) (paused : Bool)
    (hreplies : ∀ id, (replies id).answer.isOk = true) (lib : OrgJson)
    (method participle : String) :
    ∃ c', (forKind kind (fun id => changeConsumer lib (replies id) id paused method participle)
        c.values).run c = .ok () c' ∧ c.Changed kind paused c' := by
  obtain ⟨c', hrun, hframe, hpaused⟩ := run_forKind kind paused hreplies lib method participle
    c.values hready.connecting hready.transport (fun holder hmem => by
      obtain ⟨key, hkey⟩ := mem_values.mp hmem
      exact hready.opened key holder hkey)
  refine ⟨c', hrun, ⟨hframe, fun key holder hholder => ?_⟩⟩
  rw [hpaused]
  by_cases hkind : holder.mConsumer.kind = kind
  · rw [if_pos hkind, if_pos ⟨holder, mem_values.mpr ⟨key, hholder⟩, hkind, rfl⟩]
  · -- A consumer with the same id is the same consumer.
    rw [if_neg hkind, if_neg]
    rintro ⟨other, hmem, hother, hid⟩
    obtain ⟨key', hkey'⟩ := mem_values.mp hmem
    rw [← hready.keyed key holder hholder, ← hid, hready.keyed key' other hkey', hkey'] at hholder
    cases hholder
    exact hkind hother

theorem run_forKind_pause (hready : c.Ready) (kind : String)
    (hreplies : ∀ id, (replies id).answer.isOk = true) (lib : OrgJson) :
    ∃ c', (forKind kind (fun id => pauseConsumer lib (replies id) id) c.values).run c = .ok () c' ∧
      c.Changed kind true c' :=
  run_forKind_values hready kind true hreplies lib "pauseConsumer" "pausing"

theorem run_forKind_resume (hready : c.Ready) (kind : String)
    (hreplies : ∀ id, (replies id).answer.isOk = true) (lib : OrgJson) :
    ∃ c', (forKind kind (fun id => resumeConsumer lib (replies id) id) c.values).run c = .ok () c' ∧
      c.Changed kind false c' :=
  run_forKind_values hready kind false hreplies lib "resumeConsumer" "resuming"

/-! ## A new consumer -/

/-- The consumer that a request makes. -/
def Makes (lib : OrgJson) (c : PausingClient) (request : ServerRequest) (data : JSONObject)
    (consumer : Consumer) : Prop :=
  c.isConsume = true ∧ request.mData = some data ∧ c.consume lib data = .ok consumer

theorem Ready.addConsumer (hready : c.Ready) (lib : OrgJson) (data : JSONObject)
    (consumer : Consumer) : (c.addConsumer lib data consumer).Ready := by
  refine ⟨hready.connecting, hready.transport, fun key holder hholder => ?_,
    fun key holder hholder => ?_⟩
  · rcases Registry.lookup_insert_eq_some.mp hholder with ⟨rfl, rfl⟩ | ⟨-, hholder⟩
    · rfl
    · exact hready.keyed key holder hholder
  · show Function.update c.consumerClosed consumer.id false holder.mConsumer.id = false
    rcases Registry.lookup_insert_eq_some.mp hholder with ⟨rfl, rfl⟩ | ⟨hne, hholder⟩
    · exact Function.update_self ..
    · rw [Function.update_of_ne (by rw [hready.keyed key holder hholder]; exact hne)]
      exact hready.opened key holder hholder

theorem frame_replied (lib : OrgJson) (response : ParsedMessage) (c : PausingClient) :
    c.Frame { c with toRoomClient := c.toRoomClient.replied lib response } := by
  refine ⟨rfl, rfl, ?_, rfl, rfl, rfl, rfl⟩
  show (if c.mProtoo.transportClosed then c.mProtoo else _).transportClosed = _
  split <;> rfl

variable {consumer : Consumer}

theorem run_newConsumer_of_makes (hready : c.Ready) {data : JSONObject}
    (hmakes : c.Makes lib request data consumer)
    (hreplies : ∀ id, (replies id).answer.isOk = true) :
    ∃ c', (newConsumer lib replies request).run c = .ok () c' ∧
      (c.addConsumer lib data consumer).Frame c' ∧
      c'.consumerPaused = Function.update c.consumerPaused consumer.id
        (if consumer.kind = "video" ∧ c.mStore.isAudioOnly = true then true
          else consumer.isPaused) := by
  obtain ⟨-, hdata, hconsume⟩ := hmakes
  have haccept := run_room_ok (c := c.addConsumer lib data consumer)
    (RoomClient.run_accept lib request.mId (c.addConsumer lib data consumer).toRoomClient)
  have hframe := frame_replied lib (.successResponse request.mId (some []))
    (c.addConsumer lib data consumer)
  have hready' := hframe.ready (hready.addConsumer lib data consumer)
  rw [newConsumer, hdata]
  dsimp only
  rw [run_get_bind, run_ofExcept_bind hconsume, run_set_bind, run_bind_ok haccept]
  split
  · have hopen : (c.addConsumer lib data consumer).consumerClosed consumer.id = false :=
      Function.update_self ..
    obtain ⟨c', hrun, hframe', hpaused⟩ := run_changeConsumer_of_ready hready'.connecting
      hready'.transport hopen (hreplies consumer.id) lib true "pauseConsumer" "pausing"
    refine ⟨c', hrun, hframe.trans hframe', ?_⟩
    rw [hpaused]
    exact Function.update_idem ..
  · exact ⟨_, rfl, hframe, rfl⟩

theorem run_newConsumer_of_not_makes (hconsume : c.isConsume = true)
    (hnone : ∀ data consumer, ¬ c.Makes lib request data consumer) (replies : String → Reply) :
    ∃ e, (newConsumer lib replies request).run c = .error e c := by
  cases hdata : request.mData with
  | none =>
    rw [newConsumer, hdata]
    exact ⟨_, rfl⟩
  | some data =>
    cases hmade : c.consume lib data with
    | ok consumer => exact absurd ⟨hconsume, hdata, hmade⟩ (hnone data consumer)
    | error e =>
      rw [newConsumer, hdata]
      refine ⟨e, ?_⟩
      dsimp only
      rw [run_get_bind, hmade]
      rfl

theorem final_onNewConsumer_of_not_makes
    (hnone : ∀ data consumer, ¬ c.Makes lib request data consumer) (replies : String → Reply) :
    c.Frame (final (onNewConsumer lib replies request) c) ∧
      (final (onNewConsumer lib replies request) c).consumerPaused = c.consumerPaused := by
  rw [onNewConsumer, final_get_bind]
  by_cases hconsume : c.isConsume = true
  · obtain ⟨e, hrun⟩ := run_newConsumer_of_not_makes hconsume hnone replies
    rw [if_neg (by simp [hconsume]), final_catchException, hrun]
    exact ⟨⟨rfl, rfl, rfl, rfl, rfl, rfl, rfl⟩, rfl⟩
  · have hreject := run_room_ok (c := c)
      (RoomClient.run_sendReply lib (.errorResponse request.mId 403 "I do not want to consume")
        c.toRoomClient)
    rw [if_pos (by simpa using hconsume), Peer.reject, final, hreject]
    exact ⟨frame_replied lib _ c, rfl⟩

theorem final_onNewConsumer_of_makes (hready : c.Ready) {data : JSONObject}
    (hmakes : c.Makes lib request data consumer)
    (hreplies : ∀ id, (replies id).answer.isOk = true) :
    (c.addConsumer lib data consumer).Frame (final (onNewConsumer lib replies request) c) ∧
      (final (onNewConsumer lib replies request) c).consumerPaused =
        Function.update c.consumerPaused consumer.id
          (if consumer.kind = "video" ∧ c.mStore.isAudioOnly = true then true
            else consumer.isPaused) := by
  obtain ⟨c', hrun, hframe, hpaused⟩ := run_newConsumer_of_makes hready hmakes hreplies
  rw [onNewConsumer, final_get_bind, if_neg (by simp [hmakes.1]), final_catchException, hrun]
  exact ⟨hframe, hpaused⟩

/-- A consumer whose flag is that of the native library is paused as the receiving side does
it. -/
theorem run_pauseConsumer (lib : OrgJson) (reply : Reply)
    (hflag : c.consumerPaused consumer.id = consumer.isPaused) :
    ∃ c', (pauseConsumer lib reply consumer.id).run c = .ok () c' ∧
      (RoomClient.pauseConsumer lib ⟨reply.requestId, reply.answer, .ok ()⟩ consumer).run
        c.toRoomClient = .ok () c'.toRoomClient := by
  rw [pauseConsumer, changeConsumer, run_get_bind, RoomClient.pauseConsumer, run_get_bind, hflag]
  by_cases hconnecting : (!c.isConnecting) = true
  · rw [if_pos hconnecting, if_pos hconnecting]
    exact ⟨c, rfl, rfl⟩
  · rw [if_neg hconnecting, if_neg hconnecting]
    by_cases hpaused : consumer.isPaused = true
    · rw [if_pos hpaused, if_pos hpaused]
      exact ⟨c, rfl, rfl⟩
    · obtain ⟨answer, r, hrun, -⟩ := RoomClient.run_syncRequest
        ⟨reply.requestId, reply.answer, .ok ()⟩ "pauseConsumer"
        (lib.toString (JSONObject.put [] "consumerId" (some (.string consumer.id)))) c.toRoomClient
      have hrequest : (request lib reply "pauseConsumer" "consumerId" consumer.id).run c =
          .ok answer.isOk { c with toRoomClient := r } := by
        rw [request, run_bind_ok (run_room_ok hrun)]
        cases answer <;> rfl
      rw [if_neg hpaused, if_neg hpaused, run_bind_ok hrequest, run_bind_ok hrun]
      cases answer with
      | ok response => exact ⟨_, rfl, rfl⟩
      | error e => exact ⟨_, rfl, rfl⟩

theorem run_newConsumer (lib : OrgJson) (reply : Reply) (request : ServerRequest)
    (c : PausingClient) :
    (∃ c', (newConsumer lib (fun _ => reply) request).run c = .ok () c' ∧
        (RoomClient.newConsumer lib ⟨reply.requestId, reply.answer, .ok ()⟩ request).run
          c.toRoomClient = .ok () c'.toRoomClient) ∨
      ∃ e, (newConsumer lib (fun _ => reply) request).run c = .error e c ∧
        (RoomClient.newConsumer lib ⟨reply.requestId, reply.answer, .ok ()⟩ request).run
          c.toRoomClient = .error e c.toRoomClient := by
  rw [newConsumer, RoomClient.newConsumer]
  cases request.mData with
  | none => exact .inr ⟨_, rfl, rfl⟩
  | some data =>
    dsimp only
    rw [run_get_bind, run_get_bind]
    cases hmade : c.consume lib data with
    | error e => exact .inr ⟨e, rfl, rfl⟩
    | ok consumer =>
      have haccept := RoomClient.run_accept lib request.mId
        (c.toRoomClient.addConsumer lib data consumer)
      rw [run_ofExcept_bind rfl, run_ofExcept_bind rfl, run_set_bind, run_set_bind,
        run_bind_ok (run_room_ok (c := c.addConsumer lib data consumer) haccept),
        run_bind_ok haccept]
      left
      by_cases hvideo : consumer.kind = "video" ∧ c.mStore.isAudioOnly = true
      · rw [if_pos hvideo, if_pos hvideo]
        exact run_pauseConsumer lib reply (Function.update_self ..)
      · rw [if_neg hvideo, if_neg hvideo]
        exact ⟨_, rfl, rfl⟩

/-- The flags apart, a new consumer is handled as the receiving side does it. -/
theorem toRoomClient_onNewConsumer (lib : OrgJson) (reply : Reply) (request : ServerRequest)
    (c : PausingClient) :
    (final (onNewConsumer lib (fun _ => reply) request) c).toRoomClient =
      final (RoomClient.onNewConsumer lib ⟨reply.requestId, reply.answer, .ok ()⟩ request)
        c.toRoomClient := by
  rw [onNewConsumer, final_get_bind, RoomClient.onNewConsumer, final_get_bind]
  by_cases hconsume : (!c.isConsume) = true
  · rw [if_pos hconsume, if_pos hconsume]
    have hreject := RoomClient.run_sendReply lib
      (.errorResponse request.mId 403 "I do not want to consume") c.toRoomClient
    rw [Peer.reject, final, final, run_room_ok (c := c) hreject, hreject]
  · rw [if_neg hconsume, if_neg hconsume, final_catchException, final_catchException]
    rcases run_newConsumer lib reply request c with ⟨c', hrun, hroom⟩ | ⟨e, hrun, hroom⟩
    · rw [hrun, hroom]
    · rw [hrun, hroom]
      rfl

end PausingClient

/-! ## The modes -/

namespace AudioJob

/-- What a job of `muteAudio` or `unmuteAudio` makes of the audio consumers. -/
def mutes : AudioJob → Option Bool
  | .muteAudio => some true
  | .unmuteAudio => some false
  | .enableAudioOnly | .disableAudioOnly | .newConsumer _ => none

/-- The last job in the queue that mutes or unmutes. -/
def lastMute : List AudioJob → Option Bool
  | [] => none
  | job :: rest => (lastMute rest).or job.mutes

theorem lastMute_snoc (queue : List AudioJob) (job : AudioJob) :
    lastMute (queue ++ [job]) = job.mutes.or (lastMute queue) := by
  induction queue with
  | nil => simp [lastMute]
  | cons first rest ih =>
    rw [List.cons_append, lastMute, ih, lastMute, Option.or_assoc]

end AudioJob

namespace PausingClient

/-- The consumers are paused as the store says. -/
structure Modes (c : PausingClient) : Prop where
  audioOnly : c.mStore.isAudioOnly = true → c.AllPaused "video"
  audioMuted : c.isAudioMuted = true → c.AllPaused "audio"

end PausingClient

namespace AudioRoom

open AudioJob PausingClient

/-- The requests of the job succeed. -/
def Succeeds : AudioEvent → Prop
  | .run replies => ∀ id, (replies id).answer.isOk = true
  | _ => True

/-- The worker makes an audio consumer that is not paused, the store says "muted", and no
job behind it in the queue mutes or unmutes. -/
def MissesMute (lib : OrgJson) (s : AudioRoom) : AudioEvent → Prop
  | .run _ => ∃ request rest, s.queue = .newConsumer request :: rest ∧
      s.client.isAudioMuted = true ∧ lastMute rest = none ∧
      ∃ data consumer, s.client.Makes lib request data consumer ∧ consumer.kind = "audio" ∧
        consumer.isPaused = false
  | _ => False

/-- The invariant of the events: a queue without a job that mutes or unmutes leaves nothing
to do, and otherwise the last of these jobs does what the store says. -/
structure Consistent (s : AudioRoom) : Prop where
  ready : s.client.Ready
  audioOnly : s.client.mStore.isAudioOnly = true → s.client.AllPaused "video"
  muted : lastMute s.queue = none → s.client.isAudioMuted = true → s.client.AllPaused "audio"
  last : ∀ b, lastMute s.queue = some b → s.client.isAudioMuted = b

variable {s : AudioRoom}

variable {job : AudioJob} {rest : List AudioJob}

theorem Consistent.post (h : s.Consistent) (hjob : job.mutes = none) :
    (s.post job).Consistent := by
  have hlast : lastMute (s.post job).queue = lastMute s.queue := by
    rw [AudioRoom.post, lastMute_snoc, hjob]
    rfl
  refine ⟨h.ready, h.audioOnly, ?_, ?_⟩
  · rw [hlast]
    exact h.muted
  · rw [hlast]
    exact h.last

theorem Consistent.postMute (h : s.Consistent) {b : Bool} (hjob : job.mutes = some b) :
    ((s.setAudioMutedState b).post job).Consistent := by
  have hlast : lastMute ((s.setAudioMutedState b).post job).queue = some b := by
    rw [AudioRoom.post, lastMute_snoc, hjob]
    rfl
  refine ⟨⟨h.ready.connecting, h.ready.transport, h.ready.keyed, h.ready.opened⟩,
    h.audioOnly, ?_, ?_⟩
  · rw [hlast]
    intro hnone
    cases hnone
  · rw [hlast]
    intro b' hb'
    exact Option.some.inj hb'

theorem Consistent.runMute {b : Bool} {c' : PausingClient} (h : s.Consistent)
    (hqueue : s.queue = job :: rest) (hjob : job.mutes = some b)
    (hchanged : s.client.Changed "audio" b c') :
    Consistent { client := c', queue := rest } := by
  have hlast : lastMute s.queue = (lastMute rest).or (some b) := by
    rw [hqueue, lastMute, hjob]
  refine ⟨hchanged.ready h.ready, fun honly key holder hholder hkind => ?_,
    fun hnone hmuted key holder hholder hkind => ?_, fun b' hb' => ?_⟩
  · rw [hchanged.isAudioOnly] at honly
    rw [hchanged.mConsumers] at hholder
    rw [hchanged.consumerPaused key holder hholder, if_neg (by rw [hkind]; decide)]
    exact h.audioOnly honly key holder hholder hkind
  · -- This was the last job that mutes or unmutes, and it did what the store says.
    dsimp only at hnone
    rw [hnone] at hlast
    rw [hchanged.mConsumers] at hholder
    rw [hchanged.isAudioMuted, h.last b hlast] at hmuted
    rw [hchanged.consumerPaused key holder hholder, if_pos hkind, hmuted]
  · dsimp only at hb'
    rw [hb'] at hlast
    exact hchanged.isAudioMuted.trans (h.last b' hlast)

theorem Consistent.runVideo {b : Bool} {c' : PausingClient} (h : s.Consistent)
    (hqueue : s.queue = job :: rest) (hjob : job.mutes = none)
    (hchanged : s.client.Changed "video" b c') :
    Consistent { client := c'.setAudioOnlyState b, queue := rest } := by
  have hlast : lastMute s.queue = lastMute rest := by
    rw [hqueue, lastMute, hjob, Option.or_none]
  have hready := hchanged.ready h.ready
  refine ⟨⟨hready.connecting, hready.transport, hready.keyed, hready.opened⟩,
    fun honly key holder hholder hkind => ?_, fun hnone hmuted key holder hholder hkind => ?_,
    fun b' hb' => ?_⟩
  · have hb : b = true := honly
    have hholder : s.client.mConsumers.lookup key = some holder := by
      rw [← hchanged.mConsumers]
      exact hholder
    exact (hchanged.consumerPaused key holder hholder).trans ((if_pos hkind).trans hb)
  · have hholder : s.client.mConsumers.lookup key = some holder := by
      rw [← hchanged.mConsumers]
      exact hholder
    have hmuted : s.client.isAudioMuted = true := by
      rw [← hchanged.isAudioMuted]
      exact hmuted
    have hsame := (hchanged.consumerPaused key holder hholder).trans
      (if_neg (by rw [hkind]; decide))
    exact hsame.trans (h.muted (hlast.trans hnone) hmuted key holder hholder hkind)
  · exact hchanged.isAudioMuted.trans (h.last b' (hlast.trans hb'))

theorem Consistent.runNewConsumer (h : s.Consistent)
    (hqueue : s.queue = .newConsumer request :: rest)
    (hreplies : ∀ id, (replies id).answer.isOk = true)
    (hmisses : ¬ s.MissesMute lib (.run replies)) :
    Consistent { client := final (onNewConsumer lib replies request) s.client, queue := rest } := by
  have hlast : lastMute s.queue = lastMute rest := by
    rw [hqueue, lastMute]
    exact Option.or_none
  by_cases hmakes : ∃ data consumer, s.client.Makes lib request data consumer
  · obtain ⟨data, consumer, hmakes⟩ := hmakes
    obtain ⟨hframe, hpaused⟩ := final_onNewConsumer_of_makes h.ready hmakes hreplies
    have hready := hframe.ready (h.ready.addConsumer lib data consumer)
    have hflag {kind : String} (hold : s.client.AllPaused kind)
        (hnew : consumer.kind = kind →
          (if consumer.kind = "video" ∧ s.client.mStore.isAudioOnly = true then true
            else consumer.isPaused) = true) :
        (final (onNewConsumer lib replies request) s.client).AllPaused kind := by
      intro key holder hholder hkind
      rw [hframe.mConsumers] at hholder
      rw [hpaused]
      rcases Registry.lookup_insert_eq_some.mp hholder with ⟨-, rfl⟩ | ⟨hne, hholder⟩
      · rw [Function.update_self]
        exact hnew hkind
      · rw [Function.update_of_ne (by rw [h.ready.keyed key holder hholder]; exact hne)]
        exact hold key holder hholder hkind
    refine ⟨hready, fun honly => ?_, fun hnone hmuted => ?_, fun b' hb' => ?_⟩
    · have honly : s.client.mStore.isAudioOnly = true := hframe.isAudioOnly.symm.trans honly
      exact hflag (h.audioOnly honly) fun hkind => if_pos ⟨hkind, honly⟩
    · have hmuted : s.client.isAudioMuted = true := hframe.isAudioMuted.symm.trans hmuted
      refine hflag (h.muted (hlast.trans hnone) hmuted) fun hkind => ?_
      rw [if_neg (by rw [hkind]; exact fun hvideo => absurd hvideo.1 (by decide))]
      by_contra hpaused
      exact hmisses ⟨request, rest, hqueue, hmuted, hnone, data, consumer, hmakes, hkind,
        Bool.not_eq_true _ ▸ hpaused⟩
    · exact hframe.isAudioMuted.trans (h.last b' (hlast.trans hb'))
  · push Not at hmakes
    obtain ⟨hframe, hpaused⟩ := final_onNewConsumer_of_not_makes hmakes replies
    have hflag {kind : String} (hold : s.client.AllPaused kind) :
        (final (onNewConsumer lib replies request) s.client).AllPaused kind := by
      intro key holder hholder hkind
      rw [hframe.mConsumers] at hholder
      rw [hpaused]
      exact hold key holder hholder hkind
    refine ⟨hframe.ready h.ready, fun honly => ?_, fun hnone hmuted => ?_, fun b' hb' => ?_⟩
    · exact hflag (h.audioOnly (hframe.isAudioOnly.symm.trans honly))
    · exact hflag (h.muted (hlast.trans hnone) (hframe.isAudioMuted.symm.trans hmuted))
    · exact hframe.isAudioMuted.trans (h.last b' (hlast.trans hb'))

theorem Consistent.run (h : s.Consistent) (hreplies : ∀ id, (replies id).answer.isOk = true)
    (hmisses : ¬ s.MissesMute lib (.run replies)) : (s.step lib (.run replies)).Consistent := by
  unfold AudioRoom.step
  dsimp only
  cases hqueue : s.queue with
  | nil => exact h
  | cons job rest =>
    dsimp only
    cases job with
    | enableAudioOnly =>
      obtain ⟨c', hrun, hchanged⟩ := run_forKind_pause h.ready "video" hreplies lib
      rw [work, final_get_bind, final_bind_ok hrun]
      exact h.runVideo hqueue rfl hchanged
    | disableAudioOnly =>
      obtain ⟨c', hrun, hchanged⟩ := run_forKind_resume h.ready "video" hreplies lib
      rw [work, final_get_bind, final_bind_ok hrun]
      exact h.runVideo hqueue rfl hchanged
    | muteAudio =>
      obtain ⟨c', hrun, hchanged⟩ := run_forKind_pause h.ready "audio" hreplies lib
      rw [work, final_get_bind, final, hrun]
      exact h.runMute hqueue rfl hchanged
    | unmuteAudio =>
      obtain ⟨c', hrun, hchanged⟩ := run_forKind_resume h.ready "audio" hreplies lib
      rw [work, final_get_bind, final, hrun]
      exact h.runMute hqueue rfl hchanged
    | newConsumer request => exact h.runNewConsumer hqueue hreplies hmisses

theorem Consistent.step (h : s.Consistent) (lib : OrgJson) {event : AudioEvent}
    (hsucceeds : Succeeds event) (hmisses : ¬ s.MissesMute lib event) :
    (s.step lib event).Consistent := by
  cases event with
  | enableAudioOnly | disableAudioOnly =>
    rw [AudioRoom.step, if_pos h.ready.connecting]
    exact h.post rfl
  | muteAudio | unmuteAudio =>
    rw [AudioRoom.step, if_pos h.ready.connecting]
    exact h.postMute rfl
  | newConsumer request =>
    unfold AudioRoom.step
    dsimp only
    split
    · exact h.post rfl
    · exact h
  | run replies => exact h.run hsucceeds hmisses

/-- In every run of a connected room whose requests succeed, the video consumers are paused
whenever the store says "audio only".  If no new audio consumer misses a mute, the audio
consumers are paused when the store says "muted" and the worker has nothing to do. -/
theorem modes_of_not_missesMute (lib : OrgJson) {s : AudioRoom} (hqueue : s.queue = [])
    (hready : s.client.Ready) (hmodes : s.client.Modes) {events : List AudioEvent}
    (hsucceeds : ∀ event ∈ events, Succeeds event)
    (hmisses : Each (step lib) s (fun s event => ¬ s.MissesMute lib event) events) :
    Always (step lib) s (fun s =>
      (s.client.mStore.isAudioOnly = true → s.client.AllPaused "video") ∧
        (s.queue = [] → s.client.Modes)) events := by
  have hstart : s.Consistent := by
    refine ⟨hready, hmodes.audioOnly, fun _ => hmodes.audioMuted, fun b hb => ?_⟩
    rw [hqueue] at hb
    cases hb
  have hconsistent : Always (step lib) s Consistent events := by
    refine always_of_each (Q := fun s event => Succeeds event ∧ ¬ s.MissesMute lib event) hstart
      (fun _ _ h hallowed => h.step lib hallowed.1 hallowed.2) fun before event hbefore => ?_
    have hmem : event ∈ events := hbefore.subset (by simp)
    exact ⟨hsucceeds event hmem, hmisses before event hbefore⟩
  intro before hbefore
  have h := hconsistent before hbefore
  refine ⟨h.audioOnly, fun hidle => ⟨h.audioOnly, h.muted ?_⟩⟩
  rw [hidle]
  rfl

/-- A room whose server announces audio consumers that are not paused. -/
def listening : AudioRoom where
  client := { mRecvTransport := some ⟨fun id _ _ _ _ => .ok ⟨id, "audio", false⟩⟩ }

def announced : ServerRequest := ⟨"newConsumer", 5, some [("id", .string "k")]⟩

/-- Every request is answered. -/
def answering : String → Reply := fun _ => ⟨9, .ok "{}"⟩

/-- The consumer arrives first. -/
theorem modes_muteAudio :
    (after (step (OrgJson.sample [])) listening
      [.newConsumer announced, .run answering, .muteAudio, .run answering]).client.Modes := by
  refine ((modes_of_not_missesMute (OrgJson.sample []) rfl ⟨rfl, rfl, ?_, ?_⟩ ⟨?_, ?_⟩
    ?_ ?_).last).2
    rfl
  · intro key holder hholder
    cases hholder
  · intro key holder hholder
    cases hholder
  · intro honly
    cases honly
  · intro hmuted
    cases hmuted
  · intro event hevent
    simp only [List.mem_cons, List.not_mem_nil, or_false] at hevent
    rcases hevent with rfl | rfl | rfl | rfl
    · trivial
    · exact fun _ => rfl
    · trivial
    · exact fun _ => rfl
  · refine each_cons.mpr ⟨not_false, each_cons.mpr ⟨?_, each_cons.mpr ⟨not_false,
      each_cons.mpr ⟨?_, each_nil⟩⟩⟩⟩
    · rintro ⟨request, rest, -, hmuted, -⟩
      cases hmuted
    · rintro ⟨request, rest, hqueue, -⟩
      cases hqueue

theorem not_modes_newConsumer :
    (after (step (OrgJson.sample [])) listening
        [.muteAudio, .run answering, .newConsumer announced, .run answering]).queue.length = 0 ∧
      ¬ (after (step (OrgJson.sample [])) listening
        [.muteAudio, .run answering, .newConsumer announced, .run answering]).client.Modes := by
  refine ⟨rfl, fun h => ?_⟩
  have hpaused := h.audioMuted rfl "k" _ rfl rfl
  cases hpaused

end AudioRoom

end MediasoupDemo.Room
