import MediasoupDemo.Room.FiledProducers

/-!
# No producer is lost

After every task of a client that sends, the room store lists exactly the producers of
`mMicProducer` and `mCamProducer`, and every other producer that was ever made is closed.

The camera and the screen share a field, so a new video producer must find it empty.
`Sound` is the invariant of the tasks: the producers are filed, and a video producer has a
camera or a screen for its capturer.  `enableCam` and `enableShare` close the producer of
the other one then, and they return when it is their own.

`enableMicImpl`, `enableCamImpl` and `enableShareImpl` have the same parts: the checks in
front, the producer of the other video source that is closed, the questions to the device
and to the send transport, the local track, and `mSendTransport.produce`.
`enable_of_opens` and `enable_of_not_opens` say this once for the three of them.
-/

namespace MediasoupDemo.Room

open MediasoupDemo.Runtime Protoo Method Trace

/-! ## The receiving side -/

variable {script : EnableScript} (lib : OrgJson) {p : Producer} {source : Source}

namespace RoomClient

/-- `isConnecting()` and `isConnected()` are asked of the same fields. -/
structure SameFlags (r r' : RoomClient) : Prop where
  mClosed : r'.mClosed = r.mClosed
  connectCallback : r'.connectCallback = r.connectCallback

variable {r r' : RoomClient}

theorem SameMaps.sameFlags (h : r.SameMaps r') : r.SameFlags r' := ⟨h.mClosed, h.connectCallback⟩

theorem sameFlags_notifyError (text : String) (r : RoomClient) :
    r.SameFlags (final (notifyError text) r) :=
  ⟨rfl, rfl⟩

theorem sameFlags_syncRequest (script : Script) (method data : String) (r : RoomClient) :
    ∃ answer r', r.SameFlags r' ∧ (syncRequest script method data).run r = .ok answer r' := by
  obtain ⟨answer, r', hrun, -⟩ := run_syncRequest script method data r
  have hmaps := (preserves_syncRequest script method data).final_of (SameMaps.refl r)
  rw [final, hrun] at hmaps
  exact ⟨answer, r', hmaps.sameFlags, hrun⟩

theorem preserves_createRecvTransport (script : JoinScript) :
    Preserves (SameFlags r) (createRecvTransport script) := by
  refine preserves_get_bind fun r' h => ?_
  split
  · refine final_bind_of (preserves_ofExcept _ r' h) fun transport => ?_
    exact preserves_modify fun _ h => ⟨h.mClosed, h.connectCallback⟩
  · exact h

theorem preserves_addPeers (script : JoinScript) (peers : List Json) :
    Preserves (SameFlags r) (addPeers lib script peers) := by
  intro r' h
  rw [final_addPeers]
  exact ⟨h.mClosed, h.connectCallback⟩

theorem sameFlags_join (script : JoinScript) (r : RoomClient) :
    r.SameFlags (final (join lib script) r) := by
  refine Preserves.final_of (P := SameFlags r) ?_ ⟨rfl, rfl⟩
  refine (preserves_ofExcept _).bind fun _ => ?_
  refine (preserves_createRecvTransport script).bind fun _ => ?_
  refine (preserves_ofExcept _).bind fun response => ?_
  refine Preserves.bind ?_ fun _ => ?_
  · exact preserves_modify fun _ h => ⟨h.mClosed, h.connectCallback⟩
  · exact (preserves_addPeers lib script _).bind fun _ => preserves_ofExcept _

theorem sameFlags_disposeTransportDevice (r : RoomClient) (consumers : List String) :
    r.SameFlags (r.disposeTransportDevice consumers) := by
  have hfold : r.SameFlags (consumers.foldl onTransportClose r) := by
    induction consumers using List.reverseRecOn with
    | nil => exact ⟨rfl, rfl⟩
    | append_singleton consumers id ih =>
      rw [List.foldl_append]
      show r.SameFlags (onTransportClose _ id)
      unfold onTransportClose
      split
      · exact ⟨ih.mClosed, ih.connectCallback⟩
      · exact ih
  exact ⟨hfold.mClosed, hfold.connectCallback⟩

end RoomClient

/-! ## The client -/

namespace SendingClient

variable {c : SendingClient}

/-- A video producer has a camera or a screen for its capturer. -/
def CapturerKnown (c : SendingClient) : Prop :=
  c.mCamProducer.isSome → c.capturerType = some .camera ∨ c.capturerType = some .screen

/-- The invariant of the tasks. -/
structure Sound (c : SendingClient) : Prop where
  connecting : c.isConnecting = true
  connected : c.isConnected = true
  filed : c.toProducing.Filed
  capturer : c.CapturerKnown

variable {r : RoomClient}

/-- The receiving side may change, if the two questions keep their answers. -/
theorem Sound.room (h : c.Sound) (hr : c.SameFlags r) :
    Sound { c with toRoomClient := r } where
  connecting := by
    show r.isConnecting = true
    rw [RoomClient.isConnecting, hr.mClosed, hr.connectCallback]
    exact h.connecting
  connected := by
    have hconnected := h.connected
    unfold isConnected at hconnected ⊢
    dsimp only
    rw [hr.mClosed, hr.connectCallback]
    exact hconnected
  filed := h.filed
  capturer := h.capturer

theorem final_room {α : Type} (x : Method RoomClient α) (c : SendingClient) :
    final (room x) c = { c with toRoomClient := final x c.toRoomClient } := final_onPart x c

theorem run_room_ok {α : Type} {x : Method RoomClient α} {a : α}
    (h : x.run c.toRoomClient = .ok a r) :
    (room x).run c = .ok a { c with toRoomClient := r } := run_onPart h

theorem preserves_room {α : Type} {x : Method RoomClient α}
    (hx : ∀ r : RoomClient, r.SameFlags (final x r)) : Preserves Sound (room x) := by
  intro c h
  rw [final_room]
  exact h.room (hx c.toRoomClient)

/-! ### Closing a producer -/

/-- The request returns, whatever is answered. -/
theorem run_requestClose (source : Source) (p : Producer) (reply : Reply) (c : SendingClient) :
    ∃ r, c.SameFlags r ∧
      (requestClose lib source p reply).run c = .ok () { c with toRoomClient := r } := by
  obtain ⟨answer, r, hr, hrun⟩ := RoomClient.sameFlags_syncRequest
    ⟨reply.requestId, reply.answer, .ok ()⟩ "closeProducer"
    (lib.toString (JSONObject.put [] "producerId" (some (.string p.id)))) c.toRoomClient
  rw [requestClose, run_bind_ok (run_room_ok hrun)]
  cases answer with
  | ok _ => exact ⟨r, hr, rfl⟩
  | error e =>
    have hnotify := RoomClient.sameFlags_notifyError
      ("Error closing server-side " ++ source.closingName ++ " Producer: null") r
    exact ⟨_, ⟨hnotify.mClosed.trans hr.mClosed,
      hnotify.connectCallback.trans hr.connectCallback⟩, rfl⟩

theorem run_closeProducer (source : Source) (p : Producer) (reply : Reply) (c : SendingClient) :
    ∃ r, c.SameFlags r ∧
      (closeProducer lib source p reply).run c = .ok ()
        { c with
          toRoomClient := r
          toProducing :=
            ((c.toProducing.close p).removeProducer p.id).setProducer source.kind none } := by
  obtain ⟨r, hr, hrun⟩ := run_requestClose lib source p reply
    (c.withProducing fun s => (s.close p).removeProducer p.id)
  refine ⟨r, ⟨hr.mClosed, hr.connectCallback⟩, ?_⟩
  rw [closeProducer, run_modify_bind, run_bind_ok hrun]
  rfl

theorem Sound.disableMicImpl (h : c.Sound) (lib : OrgJson) (reply : Reply) :
    (final (disableMicImpl lib reply) c).Sound := by
  rw [SendingClient.disableMicImpl, final_get_bind]
  split
  · exact h
  · cases hp : c.mMicProducer with
    | none => exact h
    | some p =>
      obtain ⟨r, hr, hrun⟩ := run_closeProducer lib .mic p reply c
      dsimp only
      rw [final, hrun]
      have hroom := h.room hr
      have hfield : c.producer .audio = some p := hp
      exact ⟨hroom.connecting, hroom.connected, h.filed.close hfield, h.capturer⟩

/-- The video producer is closed.  The video track and the capturer may be released. -/
def ClosesVideo (c : SendingClient) (p : Producer) (c' : SendingClient) : Prop :=
  ∃ r mLocalVideoTrack mPeerConnectionUtils posted, c.SameFlags r ∧
    c' = { c with
      toRoomClient := r
      toProducing := ((c.toProducing.close p).removeProducer p.id).setProducer .video none
      mLocalVideoTrack
      mPeerConnectionUtils
      posted }

/-- The video producer is closed if it can be, and else nothing is done. -/
def ClosesIf (can : Prop) (x : Method SendingClient Unit) (c : SendingClient) : Prop :=
  (∃ p c', can ∧ c.mCamProducer = some p ∧ c.ClosesVideo p c' ∧ x.run c = .ok () c') ∨
    (can → c.mCamProducer = none) ∧ x.run c = .ok () c

theorem closesIf_disableShareImpl (isContinue : Bool) (reply : Reply) (c : SendingClient) :
    ClosesIf (c.isConnected = true ∧ c.capturerType = some .screen)
      (disableShareImpl lib isContinue reply) c := by
  unfold ClosesIf
  rw [disableShareImpl, run_get_bind]
  split
  · rename_i hconnected
    exact .inr ⟨fun hcan => by simp [hcan.1] at hconnected, rfl⟩
  cases hp : c.mCamProducer with
  | none => exact .inr ⟨fun _ => rfl, rfl⟩
  | some p =>
    dsimp only
    split
    · rename_i hscreen
      exact .inr ⟨fun hcan => absurd hcan.2 hscreen, rfl⟩
    · rename_i hconnected hscreen
      obtain ⟨r, hr, hrun⟩ := run_closeProducer lib .share p reply c.releaseVideoTrack
      have hcan : c.isConnected = true ∧ c.capturerType = some .screen :=
        ⟨by simpa using hconnected, not_not.mp hscreen⟩
      rw [run_modify_bind, run_bind_ok hrun]
      -- the enabling of the camera that follows is only posted
      split
      · exact .inl ⟨p, _, hcan, rfl, ⟨r, _, _, _, hr, rfl⟩, rfl⟩
      · exact .inl ⟨p, _, hcan, rfl, ⟨r, _, _, _, hr, rfl⟩, rfl⟩

theorem closesIf_disableCamImpl (reply : Reply) (c : SendingClient) :
    ClosesIf (c.isConnecting = true ∧ c.capturerType = some .camera) (disableCamImpl lib reply)
      c := by
  unfold ClosesIf
  rw [disableCamImpl, run_get_bind]
  split
  · rename_i hconnecting
    exact .inr ⟨fun hcan => by simp [hcan.1] at hconnecting, rfl⟩
  cases hp : c.mCamProducer with
  | none => exact .inr ⟨fun _ => rfl, rfl⟩
  | some p =>
    dsimp only
    split
    · rename_i hcamera
      exact .inr ⟨fun hcan => absurd hcan.2 hcamera, rfl⟩
    · rename_i hconnecting hcamera
      obtain ⟨r, hr, hrun⟩ := run_closeProducer lib .cam p reply c
      exact .inl ⟨p, _, ⟨by simpa using hconnecting, not_not.mp hcamera⟩, rfl,
        ⟨r, _, _, _, hr, rfl⟩, hrun⟩

/-- Without a video producer the capturer may be any. -/
theorem Sound.closesVideo {c' : SendingClient} (h : c.Sound) (hp : c.mCamProducer = some p)
    (hcloses : c.ClosesVideo p c') : c'.Sound := by
  obtain ⟨r, _, _, _, hr, rfl⟩ := hcloses
  have hroom := h.room hr
  have hfield : c.producer .video = some p := hp
  exact ⟨hroom.connecting, hroom.connected, h.filed.close hfield,
    fun hsome => absurd hsome Bool.false_ne_true⟩

section ClosesIf

variable {can : Prop} {x : Method SendingClient Unit}

theorem ClosesIf.sound (hx : ClosesIf can x c) (h : c.Sound) : (final x c).Sound := by
  rcases hx with ⟨p, c', -, hp, hcloses, hrun⟩ | ⟨-, hrun⟩
  · rw [final, hrun]
    exact h.closesVideo hp hcloses
  · rw [final, hrun]
    exact h

/-- Nothing is done. -/
theorem ClosesIf.run_of_not (hx : ClosesIf can x c) (h : c.mCamProducer = none ∨ ¬ can) :
    x.run c = .ok () c := by
  rcases hx with ⟨p, c', hcan, hp, -⟩ | ⟨-, hrun⟩
  · rcases h with hnone | hnot
    · cases hp.symm.trans hnone
    · exact absurd hcan hnot
  · exact hrun

theorem ClosesIf.empties (hx : ClosesIf can x c) (h : c.Sound)
    (hcan : c.mCamProducer ≠ none → can) :
    ∃ c', x.run c = .ok () c' ∧ c'.Sound ∧ c'.mCamProducer = none ∧ c'.created = c.created := by
  rcases hx with ⟨p, c', -, hp, hcloses, hrun⟩ | ⟨hnone, hrun⟩
  · refine ⟨c', hrun, h.closesVideo hp hcloses, ?_⟩
    obtain ⟨r, _, _, _, -, rfl⟩ := hcloses
    exact ⟨rfl, rfl⟩
  · refine ⟨c, hrun, h, ?_, rfl⟩
    by_contra hsome
    exact hsome (hnone (hcan hsome))

end ClosesIf

/-! ### Making a producer -/

/-- The native library gives a new producer an id that no producer has had. -/
def FreshId (c : SendingClient) (script : EnableScript) : Prop :=
  ∀ id, script.produce = .returns id → ∀ p ∈ c.created, p.id ≠ id

/-- The task ends in front of the rest, or it comes to the rest. -/
theorem final_withSendTransport {P : SendingClient → Prop}
    {rest : Nat → Method SendingClient Outcome}
    (h : P c) (hrest : ∀ transport, P (final (rest transport) c)) (kind : MediaKind)
    (script : EnableScript) : P (final (withSendTransport kind script rest) c) := by
  rw [withSendTransport, final_get_bind]
  cases c.mMediasoupDevice with
  | none => exact h
  | some device =>
    dsimp only
    split
    · exact h
    · cases script.canProduce kind with
      | throws e => exact h
      | mediasoupException message => exact h
      | returns able =>
        cases able with
        | false => exact h
        | true =>
          cases c.mSendTransport with
          | none => exact h
          | some transport => exact hrest transport

/-- A producer is made in an empty field. -/
theorem Sound.produce (h : c.Sound) (hnone : c.producer source.kind = none)
    (hfresh : c.FreshId script)
    (hcapturer : source.kind = .video →
      c.capturerType = some .camera ∨ c.capturerType = some .screen) (transport : Nat) :
    (final (produce source script transport) c).Sound := by
  unfold SendingClient.produce
  cases hproduce : script.produce with
  | throws e => exact h
  | mediasoupException message => exact h
  | returns id =>
    refine ⟨h.connecting, h.connected, h.filed.produce hnone (hfresh id hproduce) transport,
      fun hsome => ?_⟩
    cases source with
    | mic => exact h.capturer hsome
    | cam | share => exact hcapturer rfl

theorem createAudioTrack_cases (script : TrackScript) (c : SendingClient) :
    ∃ mLocalAudioTrack,
      (createAudioTrack script).run c = .ok () { c with mLocalAudioTrack } ∨
        ∃ e, (createAudioTrack script).run c = .error e { c with mLocalAudioTrack } := by
  rw [createAudioTrack, run_get_bind]
  split
  · exact ⟨_, .inl rfl⟩
  · cases script.track with
    | error e => exact ⟨_, .inr ⟨e, rfl⟩⟩
    | ok _ =>
      cases script.addTrack with
      | error e => exact ⟨_, .inr ⟨e, rfl⟩⟩
      | ok _ => exact ⟨_, .inl rfl⟩

end SendingClient

/-! ### Video tracks -/

namespace PeerConnectionUtils

variable {capturerType : VideoCapturerType} {script : TrackScript} {u u' : PeerConnectionUtils}

theorem capturer_createVideoSource
    (h : (createVideoSource capturerType script).run u = .ok () u') :
    u'.mVideoCapturer = some capturerType := by
  rw [createVideoSource, run_modify_bind] at h
  obtain ⟨_, u₁, hcapturer, h⟩ := run_bind_eq_ok h
  rw [run_get_bind] at h
  unfold createCapturer at hcapturer
  split at hcapturer
  · cases hcapturer
    obtain ⟨_, -, h⟩ := run_ofExcept_bind_eq_ok h
    rw [run_modify_bind] at h
    obtain ⟨-, rfl⟩ := run_ofExcept_eq_ok h
    rfl
  · split at hcapturer
    · cases hcapturer
    · -- `mVideoCapturer` is null here, so `isScreencast()` throws.
      cases hcapturer
      cases h

theorem capturer_createVideoTrack
    (h : (createVideoTrack capturerType script).run u = .ok () u') :
    u'.mVideoCapturer = some capturerType := by
  rw [createVideoTrack, run_get_bind] at h
  split at h
  · obtain ⟨_, u₁, hsource, h⟩ := run_bind_eq_ok h
    obtain ⟨-, rfl⟩ := run_ofExcept_eq_ok h
    exact capturer_createVideoSource hsource
  · rename_i hcurrent
    obtain ⟨-, rfl⟩ := run_ofExcept_eq_ok h
    simp only [Bool.or_eq_true, Bool.not_eq_true', decide_eq_true_eq, not_or, not_not] at hcurrent
    exact hcurrent.2

end PeerConnectionUtils

namespace SendingClient

variable {c : SendingClient}

theorem peerConnectionUtils_cases (x : Method PeerConnectionUtils Unit) (c : SendingClient) :
    (∃ u u', x.run u = .ok () u' ∧
        (peerConnectionUtils x).run c = .ok () { c with mPeerConnectionUtils := some u' }) ∨
      ∃ e mPeerConnectionUtils,
        (peerConnectionUtils x).run c = .error e { c with mPeerConnectionUtils } := by
  rw [peerConnectionUtils, run_get_bind]
  cases hutils : c.mPeerConnectionUtils with
  | none => exact .inr ⟨.nullPointer, c.mPeerConnectionUtils, rfl⟩
  | some u =>
    cases hrun : x.run u with
    | ok _ u' => exact .inl ⟨u, u', hrun, by dsimp only; rw [hrun]; rfl⟩
    | error e u' => exact .inr ⟨e, some u', by dsimp only; rw [hrun]; rfl⟩

/-- A video track that is made has a capturer of its type. -/
theorem createVideoTrack_cases (capturerType : VideoCapturerType) (script : TrackScript)
    (c : SendingClient) :
    ∃ mLocalVideoTrack mPeerConnectionUtils,
      (createVideoTrack capturerType script).run c =
          .ok () { c with mLocalVideoTrack, mPeerConnectionUtils } ∧
        mPeerConnectionUtils.bind PeerConnectionUtils.mVideoCapturer = some capturerType ∨
      ∃ e, (createVideoTrack capturerType script).run c =
        .error e { c with mLocalVideoTrack, mPeerConnectionUtils } := by
  rw [createVideoTrack, run_get_bind]
  split
  · rw [run_modify_bind]
    rcases peerConnectionUtils_cases (PeerConnectionUtils.createVideoTrack capturerType script)
        c.releaseVideoTrack with ⟨u, u', hu, hrun⟩ | ⟨e, utils, hrun⟩
    · refine ⟨some true, some u', ?_⟩
      rw [run_bind_ok hrun, run_modify_bind]
      cases script.addTrack with
      | ok _ => exact .inl ⟨rfl, PeerConnectionUtils.capturer_createVideoTrack hu⟩
      | error e => exact .inr ⟨e, rfl⟩
    · exact ⟨none, utils, .inr ⟨e, run_bind_error hrun _⟩⟩
  · rename_i hcurrent
    simp only [Bool.or_eq_true, decide_eq_true_eq, not_or, not_not] at hcurrent
    exact ⟨_, _, .inl ⟨rfl, hcurrent.2⟩⟩

/-- Without a video producer the video track and the capturer may be any. -/
theorem Sound.withVideo (h : c.Sound) (hnone : c.mCamProducer = none)
    (mLocalVideoTrack : Option Bool) (mPeerConnectionUtils : Option PeerConnectionUtils) :
    Sound { c with mLocalVideoTrack, mPeerConnectionUtils } := by
  refine ⟨h.connecting, h.connected, h.filed, fun hsome => ?_⟩
  rw [hnone] at hsome
  cases hsome

/-! ### The parts of a task -/

/-- The `try` block of the task of a source. -/
def enable (lib : OrgJson) : Source → EnableScript → Method SendingClient Outcome
  | .mic => enableMic
  | .cam => enableCam lib
  | .share => enableShare lib

/-- The task of a source. -/
def enableImpl (lib : OrgJson) : Source → EnableScript → Method SendingClient Unit
  | .mic => enableMicImpl
  | .cam => enableCamImpl lib
  | .share => enableShareImpl lib

theorem enableImpl_eq (source : Source) (script : EnableScript) :
    enableImpl lib source script = catchMediasoup source (enable lib source script) := by
  cases source <;> rfl

/-- The field of the source is empty, or the task replaces what is in it. -/
def Replaces (c : SendingClient) : Source → Prop
  | .mic => c.mMicProducer = none
  | .cam => c.mCamProducer = none ∨ c.capturerType = some .screen ∨ c.capturerType = some .file
  | .share => c.mCamProducer = none ∨ c.capturerType = some .camera ∨ c.capturerType = some .file

/-- The task passes the checks in front. -/
structure Opens (c : SendingClient) (source : Source) : Prop where
  connecting : c.isConnecting = true
  utils : c.mPeerConnectionUtils.isSome = true
  replaces : c.Replaces source
  /-- only this task asks for a device -/
  device : source = .share → c.mMediasoupDevice.isSome = true

/-- The other video source is closed, if it is the one that is sent. -/
def closeOther (lib : OrgJson) (reply : Reply) : Source → Method SendingClient Unit
  | .mic => pure ()
  | .cam => disableShareImpl lib false reply
  | .share => disableCamImpl lib reply

/-- The local track is made. -/
def createTrack (script : TrackScript) : Source → Method SendingClient Unit
  | .mic => createAudioTrack script
  | .cam => createVideoTrack .camera script
  | .share => createVideoTrack .screen script

/-- The part of a task behind the checks. -/
def enableOpen (lib : OrgJson) (source : Source) (script : EnableScript) :
    Method SendingClient Outcome := do
  closeOther lib script.close source
  withSendTransport source.kind script fun transport => do
    createTrack script.track source
    produce source script transport

section Replace

variable {capturerType other : VideoCapturerType} {close : Method SendingClient Unit}

/-- The producer of the other capturer is closed, and without one `close` does nothing. -/
theorem run_replaceVideo
    (hclose : c.mCamProducer = none ∨ c.capturerType ≠ some other → close.run c = .ok () c)
    (h : c.mCamProducer = none ∨ c.capturerType = some other ∨ c.capturerType = some .file) :
    (replaceVideo source capturerType other close script).run c =
      (close >>= fun _ => enableVideo source capturerType script).run c := by
  rw [replaceVideo, run_get_bind]
  split_ifs with hnone htype hfile
  · rw [run_bind_ok (hclose (.inl (Option.isNone_iff_eq_none.mp hnone)))]
  · rfl
  · rw [run_bind_ok (hclose (.inr htype))]
  · rw [Option.isNone_iff_eq_none] at hnone
    exact absurd h (by simp [hnone, htype, hfile])

theorem run_replaceVideo_of_not
    (h : ¬ (c.mCamProducer = none ∨ c.capturerType = some other ∨ c.capturerType = some .file)) :
    (replaceVideo source capturerType other close script).run c = .ok .done c := by
  simp only [not_or] at h
  rw [replaceVideo, run_get_bind, if_neg (by simpa using h.1), if_neg h.2.1, if_neg h.2.2]
  rfl

end Replace

/-- A task that passes the checks goes on with the other parts. -/
theorem enable_of_opens (h : c.Opens source) (script : EnableScript) :
    (enable lib source script).run c = (enableOpen lib source script).run c := by
  have hutils : ¬ c.mPeerConnectionUtils.isNone = true := by
    rw [Option.isNone_iff_eq_none, ← ne_eq, Option.ne_none_iff_isSome]
    exact h.utils
  have hconnecting : ¬ (!c.isConnecting) = true := by
    rw [h.connecting]
    decide
  cases source with
  | mic =>
    have hnone : c.mMicProducer = none := h.replaces
    show (enableMic script).run c = _
    rw [enableMic, run_get_bind, if_neg hconnecting, if_neg hutils, hnone]
    rfl
  | cam =>
    show (enableCam lib script).run c = _
    rw [enableCam, run_get_bind, if_neg hconnecting, if_neg hutils]
    refine run_replaceVideo (fun hother => ?_) h.replaces
    exact (closesIf_disableShareImpl lib false script.close c).run_of_not
      (hother.imp id fun hne hcan => hne hcan.2)
  | share =>
    have hdevice : ¬ c.mMediasoupDevice.isNone = true := by
      rw [Option.isNone_iff_eq_none, ← ne_eq, Option.ne_none_iff_isSome]
      exact h.device rfl
    show (enableShare lib script).run c = _
    rw [enableShare, run_get_bind, if_neg hconnecting, if_neg hdevice, if_neg hutils]
    refine run_replaceVideo (fun hother => ?_) h.replaces
    exact (closesIf_disableCamImpl lib script.close c).run_of_not
      (hother.imp id fun hne hcan => hne hcan.2)

theorem final_enable_of_opens {lib : OrgJson} {c₁ : SendingClient} (hopens : c.Opens source)
    (hclose : (closeOther lib script.close source).run c = .ok () c₁) :
    final (enable lib source script) c =
      final (withSendTransport source.kind script fun transport => do
        createTrack script.track source
        produce source script transport) c₁ := by
  rw [final, enable_of_opens lib hopens, enableOpen, run_bind_ok hclose]
  rfl

/-- The other tasks return. -/
theorem enable_of_not_opens (h : ¬ c.Opens source) (script : EnableScript) :
    (enable lib source script).run c = .ok .done c := by
  cases source with
  | mic =>
    show (enableMic script).run c = _
    rw [enableMic, run_get_bind]
    split
    · rfl
    split
    · rfl
    split
    · rfl
    · rename_i hconnecting hutils hmic
      refine absurd ⟨?_, ?_, ?_, fun hshare => by cases hshare⟩ h
      · simpa using hconnecting
      · simpa [Option.isSome_iff_ne_none] using hutils
      · simpa [Replaces] using hmic
  | cam =>
    show (enableCam lib script).run c = _
    rw [enableCam, run_get_bind]
    split
    · rfl
    split
    · rfl
    rename_i hconnecting hutils
    exact run_replaceVideo_of_not fun hreplaces =>
      h ⟨by simpa using hconnecting, by simpa [Option.isSome_iff_ne_none] using hutils, hreplaces,
        fun hshare => by cases hshare⟩
  | share =>
    show (enableShare lib script).run c = _
    rw [enableShare, run_get_bind]
    split
    · rfl
    split
    · rfl
    split
    · rfl
    rename_i hconnecting hdevice hutils
    exact run_replaceVideo_of_not fun hreplaces =>
      h ⟨by simpa using hconnecting, by simpa [Option.isSome_iff_ne_none] using hutils, hreplaces,
        fun _ => by simpa [Option.isSome_iff_ne_none] using hdevice⟩

/-- The field of the source is empty when the other video source is closed. -/
theorem Sound.closeOther (h : c.Sound) (hopens : c.Opens source) (reply : Reply) :
    ∃ c', (closeOther lib reply source).run c = .ok () c' ∧ c'.Sound ∧
      c'.producer source.kind = none ∧ c'.created = c.created := by
  have hknown (hsome : c.mCamProducer ≠ none) :
      c.capturerType = some .camera ∨ c.capturerType = some .screen :=
    h.capturer (Option.isSome_iff_ne_none.mpr hsome)
  have hreplaces := hopens.replaces
  cases source with
  | mic => exact ⟨c, rfl, h, hreplaces, rfl⟩
  | cam =>
    refine (closesIf_disableShareImpl lib false reply c).empties h fun hsome => ⟨h.connected, ?_⟩
    have hother := hreplaces.resolve_left hsome
    rcases hknown hsome with hcamera | hscreen
    · simp [hcamera] at hother
    · exact hscreen
  | share =>
    refine (closesIf_disableCamImpl lib reply c).empties h fun hsome => ⟨h.connecting, ?_⟩
    have hother := hreplaces.resolve_left hsome
    rcases hknown hsome with hcamera | hscreen
    · exact hcamera
    · simp [hscreen] at hother

/-- A track may be made for an empty field.  A video track has a camera or a screen for its
capturer. -/
theorem Sound.createTrack (h : c.Sound) (hnone : c.producer source.kind = none)
    (script : TrackScript) :
    ∃ c', c'.Sound ∧ c'.toProducing = c.toProducing ∧
      ((createTrack script source).run c = .ok () c' ∧
          (source.kind = .video → c'.capturerType = some .camera ∨ c'.capturerType = some .screen) ∨
        ∃ e, (createTrack script source).run c = .error e c') := by
  have hvideo (capturerType : VideoCapturerType) (hnone : c.mCamProducer = none) :
      ∃ c', c'.Sound ∧ c'.toProducing = c.toProducing ∧
        ((createVideoTrack capturerType script).run c = .ok () c' ∧
            c'.capturerType = some capturerType ∨
          ∃ e, (createVideoTrack capturerType script).run c = .error e c') := by
    obtain ⟨track, utils, hrun⟩ := createVideoTrack_cases capturerType script c
    exact ⟨_, h.withVideo hnone track utils, rfl, hrun⟩
  cases source with
  | mic =>
    obtain ⟨track, hrun⟩ := createAudioTrack_cases script c
    exact ⟨{ c with mLocalAudioTrack := track },
      ⟨h.connecting, h.connected, h.filed, h.capturer⟩, rfl,
      hrun.imp (fun hok => ⟨hok, fun hkind => by cases hkind⟩) id⟩
  | cam =>
    obtain ⟨c', hsound, hsame, hrun⟩ := hvideo .camera hnone
    exact ⟨c', hsound, hsame, hrun.imp (fun hok => ⟨hok.1, fun _ => .inl hok.2⟩) id⟩
  | share =>
    obtain ⟨c', hsound, hsame, hrun⟩ := hvideo .screen hnone
    exact ⟨c', hsound, hsame, hrun.imp (fun hok => ⟨hok.1, fun _ => .inr hok.2⟩) id⟩

theorem Sound.enable (h : c.Sound) (source : Source) (hfresh : c.FreshId script) :
    (final (enable lib source script) c).Sound := by
  by_cases hopens : c.Opens source
  · obtain ⟨c', hclose, hsound, hnone, hcreated⟩ := h.closeOther lib hopens script.close
    rw [final_enable_of_opens hopens hclose]
    refine final_withSendTransport hsound (fun transport => ?_) source.kind script
    obtain ⟨c'', hsound', hsame, ⟨hrun, hcapturer⟩ | ⟨e, hrun⟩⟩ :=
      hsound.createTrack hnone script.track
    · rw [final_bind_ok hrun]
      refine hsound'.produce ?_ (fun id hid => ?_) hcapturer transport
      · rw [hsame]
        exact hnone
      · rw [hsame, hcreated]
        exact hfresh id hid
    · rw [final_of_error (run_bind_error hrun _)]
      exact hsound'
  · rw [final, enable_of_not_opens lib hopens]
    exact h

theorem preserves_disableTrack (kind : MediaKind) :
    Preserves Sound (modify fun c => c.disableTrack kind) := by
  refine preserves_modify fun c h => ?_
  cases kind <;> exact ⟨h.connecting, h.connected, h.filed, h.capturer⟩

theorem Sound.catchMediasoup {body : Method SendingClient Outcome} (h : (final body c).Sound)
    (source : Source) : (final (catchMediasoup source body) c).Sound := by
  refine final_bind_of h fun outcome => ?_
  cases outcome with
  | done => exact preserves_pure ()
  | mediasoupException message =>
    refine (preserves_room fun r => RoomClient.sameFlags_notifyError _ r).bind fun _ => ?_
    exact preserves_disableTrack source.kind

/-! ### Joins and disconnects -/

/-- A part of a join that is only for a client that sends. -/
theorem preserves_ifProduce (answer : Except JavaException Unit)
    {f : SendingClient → SendingClient} (hf : ∀ c, c.Sound → (f c).Sound) :
    Preserves Sound (do
      if (← get).isProduce then
        MonadExcept.ofExcept answer
        modify f) := by
  refine preserves_get_bind fun c h => ?_
  split
  · exact final_bind_of (preserves_ofExcept _ c h) fun _ => preserves_modify hf
  · exact h

theorem Sound.joinImpl (h : c.Sound) (lib : OrgJson) (script : SendJoinScript) :
    (final (joinImpl lib script) c).Sound := by
  have hdevice (device : Option Device) :
      Preserves Sound (modify fun c => { c with mMediasoupDevice := device }) :=
    preserves_modify fun _ h => ⟨h.connecting, h.connected, h.filed, h.capturer⟩
  refine final_catchException_of ?_ fun e => ?_
  · refine Preserves.final_of ?_ h
    refine (hdevice _).bind fun _ => (preserves_ofExcept _).bind fun _ => ?_
    refine (preserves_ofExcept _).bind fun _ => (hdevice _).bind fun _ => ?_
    refine (preserves_ofExcept _).bind fun _ => ?_
    refine Preserves.bind (preserves_ifProduce _ fun _ h => ?_) fun _ => ?_
    · exact ⟨h.connecting, h.connected, h.filed, h.capturer⟩
    refine (preserves_room (RoomClient.sameFlags_join lib _)).bind fun _ => ?_
    refine Preserves.bind (preserves_ifProduce _ fun _ h => ?_) fun _ => preserves_ofExcept _
    exact ⟨h.connecting, h.connected, h.filed, h.capturer⟩
  · refine (preserves_room fun r => RoomClient.sameFlags_notifyError _ r).bind fun _ => ?_
    exact preserves_modify fun _ h => ⟨h.connecting, h.connected, h.filed, h.capturer⟩

/-- A listener of a client that is connecting clears the field of its producer. -/
theorem foldl_onTransportClose (h : c.isConnecting = true) (called : List Producer) :
    called.foldl onTransportClose c = c.withProducing fun s => s.dropAll called := by
  induction called generalizing c with
  | nil => rfl
  | cons p called ih =>
    have hfirst : c.onTransportClose p = c.withProducing fun s => s.drop p.source.kind := by
      unfold onTransportClose
      cases p.source with
      | mic | cam => exact if_pos h
      | share => rfl
    rw [List.foldl_cons, hfirst]
    exact ih h

theorem mem_closing :
    p ∈ c.closing ↔ p ∈ c.opened ∧ c.mSendTransport = some p.transport := by
  rw [closing, List.mem_filter, decide_eq_true_eq]

theorem Sound.closeSendTransport (h : c.Sound) {called : List Producer}
    (hcalled : ∀ p, p ∈ called ↔ p ∈ c.closing) : (c.closeSendTransport called).Sound := by
  unfold SendingClient.closeSendTransport
  cases htransport : c.mSendTransport with
  | none => exact h
  | some transport =>
    have hexact (p : Producer) : p ∈ called ↔ p ∈ c.opened ∧ p.transport = transport := by
      rw [hcalled, mem_closing, htransport, Option.some.injEq, eq_comm (a := transport)]
    dsimp only
    rw [foldl_onTransportClose h.connecting]
    refine ⟨h.connecting, h.connected, h.filed.closeTransport hexact, fun hsome => h.capturer ?_⟩
    have hfield := Producing.producer_dropAll c.toProducing called .video
    split at hfield
    · exact absurd hsome (by
        show ¬ ((c.toProducing.dropAll called).producer .video).isSome = true
        rw [hfield]
        decide)
    · rw [← show (c.toProducing.dropAll called).producer .video = c.mCamProducer from hfield]
      exact hsome

/-- The native library behaves as it should: the ids of new producers are new, and a send
transport that is closed calls the listeners of exactly its open producers. -/
def NativeCorrect (c : SendingClient) : SendTask → Prop
  | .enableMic script | .enableCam script | .enableShare script => c.FreshId script
  | .disconnect called _ => ∀ p, p ∈ called ↔ p ∈ c.closing
  | .join _ | .disableMic _ | .disableCam _ | .disableShare _ => True

theorem Sound.onDisconnected (h : c.Sound) {called : List Producer}
    (hcalled : ∀ p, p ∈ called ↔ p ∈ c.closing) (consumers : List String) :
    (c.onDisconnected called consumers).Sound := by
  have hnotify : Sound { c with mStore := c.mStore.addNotify "error" "WebSocket disconnected" } :=
    ⟨h.connecting, h.connected, h.filed, h.capturer⟩
  have hclosed := hnotify.closeSendTransport hcalled
  have hdisposed := hclosed.room (RoomClient.sameFlags_disposeTransportDevice _ consumers)
  exact ⟨hdisposed.connecting, hdisposed.connected, hdisposed.filed, hdisposed.capturer⟩

/-! ### Any task -/

theorem Sound.step (h : c.Sound) (lib : OrgJson) (task : SendTask)
    (hnative : c.NativeCorrect task) :
    (c.step lib task).Sound := by
  cases task with
  | join script => exact h.joinImpl lib script
  | disconnect called consumers => exact h.onDisconnected hnative consumers
  | enableMic script => exact (h.enable lib .mic hnative).catchMediasoup .mic
  | disableMic reply => exact h.disableMicImpl lib reply
  | enableCam script => exact (h.enable lib .cam hnative).catchMediasoup .cam
  | disableCam reply => exact (closesIf_disableCamImpl lib reply c).sound h
  | enableShare script => exact (h.enable lib .share hnative).catchMediasoup .share
  | disableShare reply => exact (closesIf_disableShareImpl lib true reply c).sound h

/-- The room store lists exactly the producers of `mMicProducer` and `mCamProducer`, every
other producer is closed, and at most one video producer is open. -/
structure Accounted (c : SendingClient) : Prop where
  ids : ∀ id, id ∈ c.producers ↔
    ∃ p, (c.mMicProducer = some p ∨ c.mCamProducer = some p) ∧ p.id = id
  others_closed : ∀ p ∈ c.created, c.mMicProducer ≠ some p → c.mCamProducer ≠ some p →
    p ∉ c.opened
  one_video : ∀ p q, p ∈ c.opened → q ∈ c.opened → p.source.kind = .video →
    q.source.kind = .video → p = q

theorem Sound.accounted (h : c.Sound) : c.Accounted where
  ids id := by
    rw [h.filed.ids]
    constructor
    · rintro ⟨kind, p, hp, hid⟩
      cases kind with
      | audio => exact ⟨p, .inl hp, hid⟩
      | video => exact ⟨p, .inr hp, hid⟩
    · rintro ⟨p, hp | hp, hid⟩
      · exact ⟨.audio, p, hp, hid⟩
      · exact ⟨.video, p, hp, hid⟩
  others_closed p _ hmic hcam hopen := by
    have hfield := h.filed.opened_eq p hopen
    cases hkind : p.source.kind with
    | audio =>
      rw [hkind] at hfield
      exact hmic hfield
    | video =>
      rw [hkind] at hfield
      exact hcam hfield
  one_video p q hp hq hpkind hqkind := by
    have hpfield := h.filed.opened_eq p hp
    have hqfield := h.filed.opened_eq q hq
    rw [hpkind] at hpfield
    rw [hqkind, hpfield] at hqfield
    exact Option.some.inj hqfield

/-- In every run of a client that starts without producers, where `isConnecting()` and
`isConnected()` are true and the native library behaves as it should, no producer is lost:
after every task the room store lists exactly the producers of `mMicProducer` and
`mCamProducer`, and every other producer that was made is closed.  That the capturer of a
video producer is a camera or a screen is not assumed: the tasks see to it. -/
theorem accounted_of_nativeCorrect (lib : OrgJson) {c : SendingClient} (hnone : c.toProducing = {})
    (hconnecting : c.isConnecting = true) (hconnected : c.isConnected = true)
    {tasks : List SendTask} (hnative : Each (step lib) c NativeCorrect tasks) :
    Always (step lib) c Accounted tasks := by
  have hstart : c.Sound := by
    refine ⟨hconnecting, hconnected, ?_, fun hsome => ?_⟩
    · rw [hnone]
      exact Producing.filed_empty
    · rw [hnone] at hsome
      cases hsome
  have hsound : Always (step lib) c Sound tasks :=
    always_of_each hstart (fun _ task h hcorrect => h.step lib task hcorrect) hnative
  exact fun before hbefore => (hsound before hbefore).accounted

/-- A join that comes to its end. -/
def joining : SendJoinScript where
  routerRtpCapabilities := .ok ()
  load := .ok ()
  rtpCapabilities := .ok ()
  sendTransport := .ok ()
  receive := ⟨.ok (), .ok RoomClient.consuming, .ok "", .nullPointer, .ok ()⟩
  canProduce := .ok ()
  onJoinSuc := .ok ()

/-- A task that makes a producer with this id. -/
def enabling (id : String) : EnableScript where
  canProduce _ := .returns true
  track := ⟨true, .ok (), .ok (), .ok (), .ok ()⟩
  produce := .returns id
  close := ⟨7, .ok ""⟩

/-- The camera is replaced by the screen, whose transport is closed then. -/
theorem accounted_shareInPlaceOfCam :
    Always (step (OrgJson.sample [])) { mPeerConnectionUtils := some {} } Accounted
      [.join joining, .enableMic (enabling "m"), .enableCam (enabling "v"),
        .enableShare (enabling "s"),
        .disconnect [⟨2, "s", .share, 0⟩, ⟨0, "m", .mic, 0⟩] [], .join joining] := by
  apply accounted_of_nativeCorrect _ rfl rfl rfl
  refine each_cons.mpr ⟨trivial, each_cons.mpr ⟨?_, each_cons.mpr ⟨?_, each_cons.mpr ⟨?_,
    each_cons.mpr ⟨?_, each_cons.mpr ⟨trivial, each_nil⟩⟩⟩⟩⟩⟩
  · intro id _ p hp
    cases hp
  · intro id hid p hp
    cases hid
    revert p hp
    decide +kernel
  · intro id hid p hp
    cases hid
    revert p hp
    decide +kernel
  · -- The native library goes through its open producers in another order.
    exact fun p => List.Perm.mem_iff (by decide +kernel)

end SendingClient

end MediasoupDemo.Room
