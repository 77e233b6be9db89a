import MediasoupDemo.Room.Producing

/-!
# Paused producers and consumers

Whether a stream is paused is written down in three places: the native producer or
consumer, the room store, and the server.  The store has no flag of its own for a producer;
its `Producers` pause the native producer that they list.

* `PausingClient` is a client with the flags of the native objects and those of the server.
  A native object that is closed is not paused or resumed.
* `muteMicImpl` and `unmuteMicImpl` change the native producer first and ask the server
  then.  `pauseConsumer` and `resumeConsumer` ask the server first.
* The server does what it is asked if and only if the request succeeds.

`Agree` is the agreement of the three places.  A task keeps it if and only if it does not
split them (`Splits`), and only a task of the microphone does that when its request fails.
-/

namespace MediasoupDemo.Room

open MediasoupDemo.Runtime Protoo Method Trace

/-- A client and the flags of its streams. -/
structure PausingClient extends SendingClient where
  /-- `isAudioMuted()` of the store. -/
  isAudioMuted : Bool := false
  /-- `isPaused()` of the native producers. -/
  producerPaused : Producer → Bool := fun _ => false
  /-- `isPaused()` of the native consumers, by their ids. -/
  consumerPaused : String → Bool := fun _ => false
  /-- `isClosed()` of the native consumers. -/
  consumerClosed : String → Bool := fun _ => false
  /-- The producers that are paused for the server, by their ids. -/
  serverProducer : String → Bool := fun _ => false
  /-- The consumers that are paused for the server. -/
  serverConsumer : String → Bool := fun _ => false
  /-- The tasks that were posted to the worker. -/
  mWorkHandler : List MainTask := []

namespace PausingClient

/-! ## The tasks -/

/-- A method of the receiving side. -/
def room {α : Type} (x : Method RoomClient α) : Method PausingClient α :=
  onPart (·.toRoomClient) (fun c r => { c with toRoomClient := r }) x

/-- `mProtoo.syncRequest(method, req -> jsonPut(req, member, id))`: whether it returns. -/
def request (lib : OrgJson) (reply : Reply) (method member id : String) :
    Method PausingClient Bool := do
  match ← room (RoomClient.syncRequest ⟨reply.requestId, reply.answer, .ok ()⟩ method
      (lib.toString (JSONObject.put [] member (some (.string id))))) with
  | .error _ => pure false
  | .ok _ => pure true

/-- `producer.pause()` and `producer.resume()`. -/
def setPaused (c : PausingClient) (producer : Producer) (paused : Bool) : PausingClient :=
  { c with
    producerPaused := fun p =>
      if p = producer ∧ producer ∈ c.opened then paused else c.producerPaused p }

/-- `setProducerPaused(producerId)` and `setProducerResumed(producerId)` of the store. -/
def setProducerPaused (c : PausingClient) (producerId : String) (paused : Bool) : PausingClient :=
  match c.producers.lookup producerId with
  | none => c
  | some wrapper => c.setPaused wrapper.mProducer paused

/-- The native producer, the server and the store, in this order. -/
def changeMic (lib : OrgJson) (reply : Reply) (producer : Producer) (paused : Bool)
    (method participle : String) : Method PausingClient Unit := do
  modify fun c => c.setPaused producer paused
  if ← request lib reply method "producerId" producer.id then
    modify fun c =>
      setProducerPaused
        { c with serverProducer := Function.update c.serverProducer producer.id paused }
        producer.id paused
  else
    -- A `ProtooException` has no message.
    room (RoomClient.notifyError ("Error " ++ participle ++ " server-side mic Producer: null"))

def muteMicImpl (lib : OrgJson) (reply : Reply) : Method PausingClient Unit := do
  let c ← get
  if !c.isConnecting then pure ()
  else
    match c.mMicProducer with
    | none => pure ()
    | some producer => changeMic lib reply producer true "pauseProducer" "pausing"

/-- `unmuteMicImpl()`.  A missing microphone is enabled by a task of its own. -/
def unmuteMicImpl (lib : OrgJson) (reply : Reply) : Method PausingClient Unit := do
  let c ← get
  if !c.isConnecting then pure ()
  else
    match c.mMicProducer with
    | none =>
        if c.isProduce then
          modify fun c => { c with mWorkHandler := c.mWorkHandler ++ [.enableMic] }
        else pure ()
    | some producer => changeMic lib reply producer false "resumeProducer" "resuming"

/-- A consumer is changed by the server, in the native library and in the store. -/
def applyConsumer (c : PausingClient) (id : String) (paused : Bool) : PausingClient :=
  { c with
    serverConsumer := Function.update c.serverConsumer id paused
    consumerPaused := if c.consumerClosed id then c.consumerPaused
      else Function.update c.consumerPaused id paused
    mStore := c.mStore.setLocallyPaused id paused }

/-- The server, the native consumer and the store, in this order. -/
def changeConsumer (lib : OrgJson) (reply : Reply) (id : String) (paused : Bool)
    (method participle : String) : Method PausingClient Unit := do
  let c ← get
  if !c.isConnecting then pure ()
  else if c.consumerPaused id = paused then pure ()
  else if ← request lib reply method "consumerId" id then
    modify fun c => c.applyConsumer id paused
  else room (RoomClient.notifyError ("Error " ++ participle ++ " Consumer: null"))

def pauseConsumer (lib : OrgJson) (reply : Reply) (id : String) : Method PausingClient Unit :=
  changeConsumer lib reply id true "pauseConsumer" "pausing"

def resumeConsumer (lib : OrgJson) (reply : Reply) (id : String) : Method PausingClient Unit :=
  changeConsumer lib reply id false "resumeConsumer" "resuming"

end PausingClient

/-- The tasks that pause and resume. -/
inductive PauseTask where
  | muteMic (reply : Reply)
  | unmuteMic (reply : Reply)
  | pauseConsumer (id : String) (reply : Reply)
  | resumeConsumer (id : String) (reply : Reply)

namespace PausingClient

/-- One task of the worker. -/
def step (lib : OrgJson) (c : PausingClient) : PauseTask → PausingClient
  | .muteMic reply => final (muteMicImpl lib reply) c
  | .unmuteMic reply => final (unmuteMicImpl lib reply) c
  | .pauseConsumer id reply => final (pauseConsumer lib reply id) c
  | .resumeConsumer id reply => final (resumeConsumer lib reply id) c

/-! ## Requests -/

variable {c : PausingClient}

/-- The request is sent and answered. -/
def succeeds (c : PausingClient) (reply : Reply) : Bool :=
  !c.mProtoo.transportClosed && reply.answer.isOk

/-- What a task does to the receiving side apart from the flags: the peer has a request
more, or the store a notification. -/
structure SameRoom (r r' : RoomClient) : Prop where
  mClosed : r'.mClosed = r.mClosed
  connectCallback : r'.connectCallback = r.connectCallback
  transportClosed : r'.mProtoo.transportClosed = r.mProtoo.transportClosed
  mConsumers : r'.mConsumers = r.mConsumers
  consumers : r'.mStore.consumers = r.mStore.consumers
  isAudioOnly : r'.mStore.isAudioOnly = r.mStore.isAudioOnly

theorem SameRoom.refl (r : RoomClient) : SameRoom r r := ⟨rfl, rfl, rfl, rfl, rfl, rfl⟩

theorem SameRoom.addNotify {r r' : RoomClient} (h : SameRoom r r') (text : String) :
    SameRoom r { r' with mStore := r'.mStore.addNotify "error" text } :=
  ⟨h.mClosed, h.connectCallback, h.transportClosed, h.mConsumers, h.consumers, h.isAudioOnly⟩

variable {r : RoomClient}

theorem run_room_ok {α : Type} {x : Method RoomClient α} {a : α}
    (h : x.run c.toRoomClient = .ok a r) :
    (room x).run c = .ok a { c with toRoomClient := r } := run_onPart h

variable {p : Producer} (lib : OrgJson) {reply : Reply}

theorem run_request (reply : Reply) (method member id : String) (c : PausingClient) :
    ∃ r, SameRoom c.toRoomClient r ∧
      (request lib reply method member id).run c =
        .ok (c.succeeds reply) { c with toRoomClient := r } := by
  cases hclosed : c.mProtoo.transportClosed with
  | true =>
    have hpeer : (Peer.request reply.requestId method
        (lib.toString (JSONObject.put [] member (some (.string id)))) (some 0)).run c.mProtoo =
          .error (.illegalState "transport closed") c.mProtoo := by
      rw [Peer.request, run_bind_error]
      rw [Peer.sendMessage, run_get_bind, if_pos hclosed, run_throw]
    have hrun : (RoomClient.syncRequest ⟨reply.requestId, reply.answer, .ok ()⟩ method
        (lib.toString (JSONObject.put [] member (some (.string id))))).run c.toRoomClient =
          .ok (.error (.illegalState "transport closed")) c.toRoomClient := by
      rw [RoomClient.syncRequest, run_get_bind, hpeer]
      rfl
    refine ⟨_, SameRoom.refl _, ?_⟩
    rw [request, run_bind_ok (run_room_ok hrun), succeeds, hclosed]
    rfl
  | false =>
    have hsend (message : Message) : (Peer.sendMessage message).run c.mProtoo =
        .ok () { c.mProtoo with sent := c.mProtoo.sent ++ [message] } := by
      rw [Peer.sendMessage, run_get_bind, if_neg (by simp [hclosed]), run_set]
    have hrun : ∃ p : Peer,
        (RoomClient.syncRequest ⟨reply.requestId, reply.answer, .ok ()⟩ method
          (lib.toString (JSONObject.put [] member (some (.string id))))).run c.toRoomClient =
            .ok reply.answer { c.toRoomClient with mProtoo := p } ∧
        p.transportClosed = c.mProtoo.transportClosed := by
      rw [RoomClient.syncRequest, run_get_bind, Peer.request, run_bind_ok (hsend _)]
      exact ⟨_, rfl, rfl⟩
    obtain ⟨p, hrun, hp⟩ := hrun
    refine ⟨{ c.toRoomClient with mProtoo := p }, ⟨rfl, rfl, hp, rfl, rfl, rfl⟩, ?_⟩
    rw [request, run_bind_ok (run_room_ok hrun), succeeds, hclosed]
    cases reply.answer <;> rfl

theorem run_changeConsumer (reply : Reply) (id : String) (paused : Bool)
    (method participle : String) (c : PausingClient) :
    ∃ r, SameRoom c.toRoomClient r ∧
      (changeConsumer lib reply id paused method participle).run c = .ok ()
        (if c.isConnecting = true ∧ c.consumerPaused id ≠ paused ∧ c.succeeds reply = true then
          applyConsumer { c with toRoomClient := r } id paused
        else { c with toRoomClient := r }) := by
  rw [changeConsumer, run_get_bind]
  by_cases hconnecting : c.isConnecting = true
  · rw [if_neg (by simp [hconnecting])]
    by_cases hpaused : c.consumerPaused id = paused
    · refine ⟨c.toRoomClient, SameRoom.refl _, ?_⟩
      rw [if_pos hpaused, if_neg fun h => h.2.1 hpaused]
      rfl
    · obtain ⟨r, hr, hrun⟩ := run_request lib reply method "consumerId" id c
      rw [if_neg hpaused, run_bind_ok hrun]
      cases hsucceeds : c.succeeds reply with
      | true =>
        exact ⟨r, hr, congrArg (EStateM.Result.ok ()) (if_pos ⟨hconnecting, hpaused, rfl⟩).symm⟩
      | false =>
        exact ⟨_, hr.addNotify ("Error " ++ participle ++ " Consumer: null"),
          congrArg (EStateM.Result.ok ()) (if_neg fun h => Bool.false_ne_true h.2.2).symm⟩
  · refine ⟨c.toRoomClient, SameRoom.refl _, ?_⟩
    rw [if_pos (by simpa using hconnecting), if_neg fun h => hconnecting h.1]
    rfl

/-! ## Agreement -/

/-- The native objects, the room store and the server agree on what is paused. -/
structure Agree (c : PausingClient) : Prop where
  mic : ∀ p, c.mMicProducer = some p →
    c.serverProducer p.id = c.producerPaused p ∧
      ∀ w, c.producers.lookup p.id = some w → c.producerPaused w.mProducer = c.producerPaused p
  consumers : ∀ key holder, c.mConsumers.lookup key = some holder →
    c.serverConsumer holder.mConsumer.id = c.consumerPaused holder.mConsumer.id ∧
      ∀ w, c.mStore.consumers.lookup holder.mConsumer.id = some w →
        w.mLocallyPaused = c.consumerPaused holder.mConsumer.id

/-- The native producer and the server do the same: both change if the request succeeds, and
neither does if it fails. -/
structure Together (c : PausingClient) (p : Producer) (reply : Reply) : Prop where
  opened : c.succeeds reply = true →
    p ∈ c.opened ∧ ∀ w, c.producers.lookup p.id = some w → w.mProducer ∈ c.opened
  closed : c.succeeds reply = false → p ∉ c.opened

/-- The microphone changes in one place only. -/
def SplitsMic (c : PausingClient) (reply : Reply) (paused : Bool) : Prop :=
  c.isConnecting = true ∧
    ∃ p, c.mMicProducer = some p ∧ c.producerPaused p ≠ paused ∧ ¬ c.Together p reply

/-- The server changes a consumer that is closed. -/
def SplitsConsumer (c : PausingClient) (id : String) (reply : Reply) (paused : Bool) : Prop :=
  c.isConnecting = true ∧ c.consumerPaused id ≠ paused ∧ c.succeeds reply = true ∧
    c.consumerClosed id = true ∧ ∃ key holder, c.mConsumers.lookup key = some holder ∧
      holder.mConsumer.id = id

/-- The task changes one place only. -/
def Splits (c : PausingClient) : PauseTask → Prop
  | .muteMic reply => c.SplitsMic reply true
  | .unmuteMic reply => c.SplitsMic reply false
  | .pauseConsumer id reply => c.SplitsConsumer id reply true
  | .resumeConsumer id reply => c.SplitsConsumer id reply false

/-! ### The microphone -/

/-- The clients differ in the flags of the microphone at most. -/
structure SameConsumers (c c' : PausingClient) : Prop where
  mMicProducer : c'.mMicProducer = c.mMicProducer
  producers : c'.producers = c.producers
  mConsumers : c'.mConsumers = c.mConsumers
  consumers : c'.mStore.consumers = c.mStore.consumers
  serverConsumer : c'.serverConsumer = c.serverConsumer
  consumerPaused : c'.consumerPaused = c.consumerPaused

variable {c' : PausingClient} {paused : Bool}

theorem SameConsumers.agree_iff (hsame : c.SameConsumers c') (h : c.Agree)
    (hp : c.mMicProducer = some p) :
    c'.Agree ↔ c'.serverProducer p.id = c'.producerPaused p ∧
      ∀ w, c.producers.lookup p.id = some w →
        c'.producerPaused w.mProducer = c'.producerPaused p := by
  constructor
  · intro h'
    have hmic := h'.mic p (hsame.mMicProducer.trans hp)
    rwa [hsame.producers] at hmic
  · intro hmic
    refine ⟨fun q hq => ?_, ?_⟩
    · rw [hsame.mMicProducer, hp] at hq
      cases hq
      rwa [hsame.producers]
    · rw [hsame.mConsumers, hsame.serverConsumer, hsame.consumerPaused, hsame.consumers]
      exact h.consumers

/-- A microphone was changed.  If the request succeeds, its producer and that of the store are
changed if they are open. -/
structure MicChanged (c c' : PausingClient) (p : Producer) (reply : Reply) (paused : Bool) : Prop
    extends SameConsumers c c' where
  ofFails : c.succeeds reply = false → c'.serverProducer = c.serverProducer ∧
    ∀ q, c'.producerPaused q = if q = p ∧ p ∈ c.opened then paused else c.producerPaused q
  ofSucceeds : c.succeeds reply = true → c'.serverProducer p.id = paused ∧
    ∀ q, c'.producerPaused q = paused ↔ c.producerPaused q = paused ∨
      q ∈ c.opened ∧ (q = p ∨ ∃ w, c.producers.lookup p.id = some w ∧ w.mProducer = q)

theorem micChanged_of_fails (hfails : c.succeeds reply = false) (hr : SameRoom c.toRoomClient r) :
    c.MicChanged { c.setPaused p paused with toRoomClient := r } p reply paused :=
  { mMicProducer := rfl, producers := rfl, mConsumers := hr.mConsumers, consumers := hr.consumers
    serverConsumer := rfl, consumerPaused := rfl
    ofFails := fun _ => ⟨rfl, fun _ => rfl⟩
    ofSucceeds := fun hsucceeds => by cases hfails.symm.trans hsucceeds }

theorem micChanged_of_succeeds (hsucceeds : c.succeeds reply = true)
    (hr : SameRoom c.toRoomClient r) :
    c.MicChanged
      (setProducerPaused
        { c.setPaused p paused with
          toRoomClient := r
          serverProducer := Function.update c.serverProducer p.id paused } p.id paused)
      p reply paused := by
  unfold setProducerPaused
  dsimp only [setPaused]
  cases hw : c.producers.lookup p.id with
  | none =>
    refine ⟨⟨rfl, rfl, hr.mConsumers, hr.consumers, rfl, rfl⟩, fun hfails => ?_, fun _ =>
      ⟨Function.update_self .., fun q => ?_⟩⟩
    · cases hfails.symm.trans hsucceeds
    · by_cases hq : q = p
      · subst hq
        by_cases hopen : q ∈ c.opened <;> simp [hopen]
      · simp [hq, hw]
  | some w =>
    refine ⟨⟨rfl, rfl, hr.mConsumers, hr.consumers, rfl, rfl⟩, fun hfails => ?_, fun _ =>
      ⟨Function.update_self .., fun q => ?_⟩⟩
    · cases hfails.symm.trans hsucceeds
    by_cases hopen : q ∈ c.opened
    · by_cases hq : q = p ∨ w.mProducer = q
      · rcases hq with rfl | rfl <;> simp [hopen, hw]
      · have hne : ¬ q = w.mProducer := fun h => hq (.inr h.symm)
        have hne' : ¬ q = p := fun h => hq (.inl h)
        have hne'' : ¬ w.mProducer = q := fun h => hq (.inr h)
        simp [hne, hne', hne'', hw]
    · have hne : ¬ (q = w.mProducer ∧ w.mProducer ∈ c.opened) := fun h => hopen (h.1 ▸ h.2)
      have hne' : ¬ (q = p ∧ p ∈ c.opened) := fun h => hopen (h.1 ▸ h.2)
      simp [hne, hne', hopen]

theorem micChanged_changeMic (reply : Reply) (p : Producer) (paused : Bool)
    (method participle : String) (c : PausingClient) :
    c.MicChanged (final (changeMic lib reply p paused method participle) c) p reply paused := by
  obtain ⟨r, hr, hrun⟩ := run_request lib reply method "producerId" p.id (c.setPaused p paused)
  have hsame : (c.setPaused p paused).succeeds reply = c.succeeds reply := rfl
  rw [hsame] at hrun
  rw [changeMic, final_modify_bind, final_bind_ok hrun]
  cases hsucceeds : c.succeeds reply with
  | true => exact micChanged_of_succeeds hsucceeds hr
  | false =>
    exact micChanged_of_fails hsucceeds
      (hr.addNotify ("Error " ++ participle ++ " server-side mic Producer: null"))

namespace MicChanged

/-- A microphone whose request fails keeps the agreement if it is closed, or paused or
resumed already. -/
theorem agree_iff_of_fails (hc : c.MicChanged c' p reply paused) (h : c.Agree)
    (hp : c.mMicProducer = some p) (hfails : c.succeeds reply = false) :
    c'.Agree ↔ c.producerPaused p = paused ∨ c.Together p reply := by
  obtain ⟨hserver, hstore⟩ := h.mic p hp
  obtain ⟨hserver', hpaused'⟩ := hc.ofFails hfails
  rw [hc.agree_iff h hp, hserver', hserver]
  simp only [hpaused']
  by_cases hopen : p ∈ c.opened
  · have hsplit : ¬ c.Together p reply := fun htogether => htogether.closed hfails hopen
    simp only [hopen, and_true, if_true, hsplit, or_false]
    refine and_iff_left_of_imp fun hflag w hw => ?_
    split
    · rfl
    · rw [hstore w hw, hflag]
  · have htogether : c.Together p reply := by
      refine ⟨fun hsucceeds => ?_, fun _ => hopen⟩
      rw [hfails] at hsucceeds
      cases hsucceeds
    simp only [hopen, and_false, if_false, htogether, or_true, iff_true, true_and]
    exact hstore

/-- A microphone whose request succeeds keeps the agreement if it is open, or paused or
resumed already. -/
theorem agree_iff_of_succeeds (hc : c.MicChanged c' p reply paused) (h : c.Agree)
    (hp : c.mMicProducer = some p) (hsucceeds : c.succeeds reply = true) :
    c'.Agree ↔ c.producerPaused p = paused ∨ c.Together p reply := by
  obtain ⟨-, hstore⟩ := h.mic p hp
  obtain ⟨hserver', hpaused'⟩ := hc.ofSucceeds hsucceeds
  rw [hc.agree_iff h hp, hserver']
  constructor
  · rintro ⟨hself, hlisted⟩
    refine or_iff_not_imp_left.mpr fun hflag => ⟨fun _ => ?_, fun hfails => ?_⟩
    · obtain hsame | ⟨hopen, -⟩ := (hpaused' p).mp hself.symm
      · exact absurd hsame hflag
      refine ⟨hopen, fun w hw => ?_⟩
      obtain hsame | ⟨hopen, -⟩ := (hpaused' w.mProducer).mp ((hlisted w hw).trans hself.symm)
      · exact absurd ((hstore w hw).symm.trans hsame) hflag
      · exact hopen
    · rw [hsucceeds] at hfails
      cases hfails
  · rintro (hflag | htogether)
    · have hself := (hpaused' p).mpr (.inl hflag)
      refine ⟨hself.symm, fun w hw => ?_⟩
      exact ((hpaused' w.mProducer).mpr (.inl ((hstore w hw).trans hflag))).trans hself.symm
    · obtain ⟨hopen, hlisted⟩ := htogether.opened hsucceeds
      have hself := (hpaused' p).mpr (.inr ⟨hopen, .inl rfl⟩)
      refine ⟨hself.symm, fun w hw => ?_⟩
      have hw' := (hpaused' w.mProducer).mpr (.inr ⟨hlisted w hw, .inr ⟨w, hw, rfl⟩⟩)
      exact hw'.trans hself.symm

end MicChanged

/-- A task that changes the microphone, if there is one, and nothing that matters if not. -/
theorem agree_iff_not_splitsMic (h : c.Agree)
    (hidle : (c.isConnecting = true → c.mMicProducer = none) → c'.Agree)
    (hchange : ∀ p, c.isConnecting = true → c.mMicProducer = some p →
      c.MicChanged c' p reply paused) :
    c'.Agree ↔ ¬ c.SplitsMic reply paused := by
  by_cases hconnecting : c.isConnecting = true
  · cases hp : c.mMicProducer with
    | none =>
      refine iff_of_true (hidle fun _ => hp) ?_
      rintro ⟨-, p, hsome, -⟩
      rw [hp] at hsome
      cases hsome
    | some p =>
      have hagree : c'.Agree ↔ c.producerPaused p = paused ∨ c.Together p reply := by
        have hc := hchange p hconnecting hp
        cases hsucceeds : c.succeeds reply with
        | false => exact hc.agree_iff_of_fails h hp hsucceeds
        | true => exact hc.agree_iff_of_succeeds h hp hsucceeds
      rw [hagree]
      unfold SplitsMic
      simp only [hconnecting, hp, true_and, Option.some.injEq, exists_eq_left', not_and, not_not]
      exact or_iff_not_imp_left
  · exact iff_of_true (hidle fun h => absurd h hconnecting) fun hsplits => hconnecting hsplits.1

theorem agree_muteMicImpl_iff (h : c.Agree) (lib : OrgJson) (reply : Reply) :
    (final (muteMicImpl lib reply) c).Agree ↔ ¬ c.SplitsMic reply true := by
  rw [muteMicImpl, final_get_bind]
  refine agree_iff_not_splitsMic h (fun hidle => ?_) fun p hconnecting hp => ?_
  · split
    · exact h
    · rename_i hconnecting
      rw [hidle (by simpa using hconnecting)]
      exact h
  · rw [if_neg (by simp [hconnecting]), hp]
    exact micChanged_changeMic lib reply p true _ _ c

theorem agree_unmuteMicImpl_iff (h : c.Agree) (lib : OrgJson) (reply : Reply) :
    (final (unmuteMicImpl lib reply) c).Agree ↔ ¬ c.SplitsMic reply false := by
  rw [unmuteMicImpl, final_get_bind]
  refine agree_iff_not_splitsMic h (fun hidle => ?_) fun p hconnecting hp => ?_
  · split
    · exact h
    · rename_i hconnecting
      rw [hidle (by simpa using hconnecting)]
      dsimp only
      split
      · exact ⟨h.mic, h.consumers⟩
      · exact h
  · rw [if_neg (by simp [hconnecting]), hp]
    exact micChanged_changeMic lib reply p false _ _ c

/-! ### Consumers -/

theorem lookup_setLocallyPaused {store : RoomStore} {id k : String} {paused : Bool}
    {w : ConsumerWrapper} (h : (store.setLocallyPaused id paused).consumers.lookup k = some w) :
    if k = id then w.mLocallyPaused = paused else store.consumers.lookup k = some w := by
  unfold RoomStore.setLocallyPaused at h
  cases hw : store.consumers.lookup id with
  | none =>
    rw [hw] at h
    dsimp only at h
    split
    · rename_i hk
      rw [hk, hw] at h
      cases h
    · exact h
  | some wrapper =>
    rw [hw] at h
    rcases Registry.lookup_insert_eq_some.mp h with ⟨hk, rfl⟩ | ⟨hk, h⟩
    · rw [if_pos hk]
    · rwa [if_neg hk]

theorem Agree.other (h : c.Agree) {id key : String} {holder : ConsumerHolder}
    (hholder : c.mConsumers.lookup key = some holder) (hid : holder.mConsumer.id ≠ id) :
    c.serverConsumer holder.mConsumer.id = c.consumerPaused holder.mConsumer.id ∧
      ∀ w, (c.mStore.setLocallyPaused id paused).consumers.lookup holder.mConsumer.id = some w →
        w.mLocallyPaused = c.consumerPaused holder.mConsumer.id := by
  obtain ⟨hserver, hstore⟩ := h.consumers key holder hholder
  refine ⟨hserver, fun w hw => ?_⟩
  have hw := lookup_setLocallyPaused hw
  rw [if_neg hid] at hw
  exact hstore w hw

/-- A consumer that is open is changed in the three places. -/
theorem Agree.applyConsumer (h : c.Agree) {id : String} (hopen : c.consumerClosed id = false)
    (paused : Bool) : (c.applyConsumer id paused).Agree := by
  refine ⟨h.mic, fun key holder hholder => ?_⟩
  unfold PausingClient.applyConsumer
  dsimp only
  rw [hopen, if_neg Bool.false_ne_true]
  by_cases hid : holder.mConsumer.id = id
  · rw [hid, Function.update_self, Function.update_self]
    refine ⟨rfl, fun w hw => ?_⟩
    have hw := lookup_setLocallyPaused hw
    rwa [if_pos rfl] at hw
  · rw [Function.update_of_ne hid, Function.update_of_ne hid]
    exact h.other hholder hid

/-- A consumer that is closed is changed by the server only. -/
theorem agree_applyConsumer_iff_of_closed (h : c.Agree) {id : String}
    (hclosed : c.consumerClosed id = true) (hflag : c.consumerPaused id ≠ paused) :
    (c.applyConsumer id paused).Agree ↔
      ¬ ∃ key holder, c.mConsumers.lookup key = some holder ∧ holder.mConsumer.id = id := by
  constructor
  · rintro h' ⟨key, holder, hholder, hid⟩
    have hserver := (h'.consumers key holder hholder).1
    unfold applyConsumer at hserver
    dsimp only at hserver
    rw [hid, hclosed, if_pos rfl, Function.update_self] at hserver
    exact hflag hserver.symm
  · intro hnone
    refine ⟨h.mic, fun key holder hholder => ?_⟩
    have hid : holder.mConsumer.id ≠ id := fun hid => hnone ⟨key, holder, hholder, hid⟩
    unfold applyConsumer
    dsimp only
    rw [hclosed, if_pos rfl, Function.update_of_ne hid]
    exact h.other hholder hid

theorem Agree.room (h : c.Agree) (hr : SameRoom c.toRoomClient r) :
    Agree { c with toRoomClient := r } := by
  refine ⟨h.mic, ?_⟩
  dsimp only
  rw [hr.mConsumers, hr.consumers]
  exact h.consumers

theorem agree_changeConsumer_iff (h : c.Agree) (lib : OrgJson) (reply : Reply) (id : String)
    (paused : Bool) (method participle : String) :
    (final (changeConsumer lib reply id paused method participle) c).Agree ↔
      ¬ c.SplitsConsumer id reply paused := by
  obtain ⟨r, hr, hrun⟩ := run_changeConsumer lib reply id paused method participle c
  have hroom := h.room hr
  rw [final, hrun]
  dsimp only
  split
  · rename_i hchanges
    cases hclosed : c.consumerClosed id with
    | false =>
      refine iff_of_true (hroom.applyConsumer hclosed paused) fun hsplits => ?_
      rw [hsplits.2.2.2.1] at hclosed
      cases hclosed
    | true =>
      rw [agree_applyConsumer_iff_of_closed hroom hclosed hchanges.2.1]
      dsimp only
      rw [hr.mConsumers]
      refine not_congr ⟨fun hholder => ?_, fun hsplits => hsplits.2.2.2.2⟩
      exact ⟨hchanges.1, hchanges.2.1, hchanges.2.2, hclosed, hholder⟩
  · rename_i hstays
    refine iff_of_true hroom fun hsplits => hstays ?_
    exact ⟨hsplits.1, hsplits.2.1, hsplits.2.2.1⟩

/-! ### Any task -/

theorem agree_step_iff (h : c.Agree) (lib : OrgJson) (task : PauseTask) :
    (c.step lib task).Agree ↔ ¬ c.Splits task := by
  cases task with
  | muteMic reply => exact agree_muteMicImpl_iff h lib reply
  | unmuteMic reply => exact agree_unmuteMicImpl_iff h lib reply
  | pauseConsumer id reply => exact agree_changeConsumer_iff h lib reply id true _ _
  | resumeConsumer id reply => exact agree_changeConsumer_iff h lib reply id false _ _

/-- In every run of the tasks that starts from agreement, the native objects, the room store
and the server agree after every task if and only if no task splits them: a microphone that
is not paused or resumed already is open if its request succeeds and closed if it fails, and
no consumer that is closed is paused or resumed by the server. -/
theorem always_agree_iff (lib : OrgJson) (c : PausingClient) (h : c.Agree)
    (tasks : List PauseTask) :
    Always (step lib) c Agree tasks ↔ Each (step lib) c (fun c task => ¬ c.Splits task) tasks :=
  always_iff_each (I := fun _ => True) trivial (fun _ _ _ => trivial) h
    (fun _ task _ h => agree_step_iff h lib task) tasks

/-- The microphone of a client. -/
def mic : Producer := ⟨0, "m", .mic, 0⟩

/-- A client with an open microphone and a consumer. -/
def speaking : PausingClient where
  mMicProducer := some mic
  producers := AList.insert "m" ⟨mic, none⟩ ∅
  opened := [mic]
  mConsumers := AList.insert "k" ⟨"peer", ⟨"k", "audio", false⟩⟩ ∅
  mStore := { consumers := AList.insert "k" ⟨"simple", false, false, ⟨"k", "audio", false⟩⟩ ∅ }

theorem agree_speaking : speaking.Agree := by
  refine ⟨fun p hp => ?_, fun key holder hholder => ⟨rfl, fun w hw => ?_⟩⟩
  · cases hp
    exact ⟨rfl, fun w _ => rfl⟩
  · rcases Registry.lookup_insert_eq_some.mp hholder with ⟨-, rfl⟩ | ⟨-, hholder⟩
    · rcases Registry.lookup_insert_eq_some.mp hw with ⟨-, rfl⟩ | ⟨-, hw⟩
      · rfl
      · cases hw
    · cases hholder

/-- The microphone is muted, and the consumer is paused in spite of a failure. -/
theorem agree_answered :
    Always (step (OrgJson.sample [])) speaking Agree
      [.muteMic ⟨1, .ok "{}"⟩, .pauseConsumer "k" ⟨2, .error (.io "rejected")⟩,
        .pauseConsumer "k" ⟨3, .ok "{}"⟩] := by
  rw [always_agree_iff (OrgJson.sample []) speaking agree_speaking]
  refine each_cons.mpr ⟨?_, each_cons.mpr ⟨?_, each_cons.mpr ⟨?_, each_nil⟩⟩⟩
  · rintro ⟨-, p, hp, -, hsplits⟩
    cases hp
    refine hsplits ⟨fun _ => ⟨by decide, fun w hw => ?_⟩, fun hfails => by cases hfails⟩
    cases hw
    decide
  · rintro ⟨-, -, hsucceeds, -⟩
    cases hsucceeds
  · rintro ⟨-, -, -, hclosed, -⟩
    cases hclosed

/-- A request of the microphone is rejected. -/
theorem not_agree_rejectedMute :
    ¬ Always (step (OrgJson.sample [])) speaking Agree [.muteMic ⟨1, .error (.io "rejected")⟩] := by
  intro h
  have hserver := (h.last.mic mic rfl).1
  revert hserver
  decide +kernel

end PausingClient

end MediasoupDemo.Room
