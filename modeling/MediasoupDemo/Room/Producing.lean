import MediasoupDemo.Room.Session

/-!
# A client that sends

The worker tasks of a `RoomClient` that make and close its producers: the microphone, the
camera and the shared screen.  The camera and the screen share one field, `mCamProducer`,
and the type of the current video capturer says which of the two is sent.

* `Producing` has the producer fields of the client, the producers of the room store, and
  the native producers behind them.
* `SendingClient` is a `RoomClient` with the fields that are needed to send.  Its methods
  for the receiving side are those of `RoomClient` (`room`).
* The answers of the server and of the native library are parameters: `EnableScript` for
  the tasks that make a producer, `Reply` for the request `closeProducer`, and
  `SendJoinScript` for a join.
* A native send transport knows its open producers.  Closing it calls transport-close
  listeners; which ones, in which order, is a parameter of a disconnect.  A join makes a
  new transport and drops the old one without closing it.

An exception that is no `MediasoupException` leaves the task in the middle.  What was
written before stays written.
-/

namespace MediasoupDemo.Room

open MediasoupDemo.Runtime Protoo Method

/-! ## Producers -/

/-- The kind of a track. -/
inductive MediaKind where
  | audio
  | video
  deriving DecidableEq

/-- What a producer sends. -/
inductive Source where
  | mic
  | cam
  | share
  deriving DecidableEq

namespace Source

/-- The kind of the track. -/
def kind : Source → MediaKind
  | .mic => .audio
  | .cam | .share => .video

/-- The type in the store. -/
def type : Source → Option String
  | .mic => none
  | .cam => some "cam"
  | .share => some "share"

/-- The word for the source in the text for a failed request `closeProducer`. -/
def closingName : Source → String
  | .mic => "mic"
  | .cam => "webcam"
  | .share => "webShare"

/-- The word for the source in the text for a failed task. -/
def enablingName : Source → String
  | .mic => "microphone"
  | .cam => "webcam"
  | .share => "webShare"

end Source

/-- A native producer of a send transport, with the listener that it was made with. -/
structure Producer where
  number : Nat
  id : String
  source : Source
  transport : Nat
  deriving DecidableEq

structure ProducersWrapper where
  mProducer : Producer
  mType : Option String

/-- The producers of a client. -/
structure Producing where
  mMicProducer : Option Producer := none
  mCamProducer : Option Producer := none
  /-- The producers of the room store. -/
  producers : AList fun _ : String => ProducersWrapper := ∅
  /-- Every native producer that was made. -/
  created : List Producer := []
  /-- The native producers that are not closed. -/
  opened : List Producer := []

namespace Producing

/-- The field for the producer of a kind. -/
def producer (s : Producing) : MediaKind → Option Producer
  | .audio => s.mMicProducer
  | .video => s.mCamProducer

/-- An assignment to the field. -/
def setProducer (s : Producing) (kind : MediaKind) (producer : Option Producer) : Producing :=
  match kind with
  | .audio => { s with mMicProducer := producer }
  | .video => { s with mCamProducer := producer }

/-- `producer.close()`. -/
def close (s : Producing) (producer : Producer) : Producing :=
  { s with opened := s.opened.filter (· ≠ producer) }

/-- `mStore.removeProducer(producerId)`. -/
def removeProducer (s : Producing) (producerId : String) : Producing :=
  { s with producers := s.producers.erase producerId }

/-- `mStore.addProducer(producer)` and `mStore.addProducer(producer, type)`. -/
def addProducer (s : Producing) (producer : Producer) (mType : Option String) : Producing :=
  { s with producers := s.producers.insert producer.id { mProducer := producer, mType } }

/-- A native producer is made, written to its field and filed. -/
def produce (s : Producing) (source : Source) (transport : Nat) (id : String) : Producing :=
  let producer := { number := s.created.length, id, source, transport }
  let s := { s with created := s.created ++ [producer], opened := s.opened ++ [producer] }
  (s.setProducer source.kind (some producer)).addProducer producer source.type

/-- What the transport-close listeners do to the field and to the store. -/
def drop (s : Producing) (kind : MediaKind) : Producing :=
  match s.producer kind with
  | none => s
  | some producer => (s.removeProducer producer.id).setProducer kind none

end Producing

/-! ## Video capturers -/

/-- `RoomConstant.VideoCapturerType`. -/
inductive VideoCapturerType where
  | camera
  | screen
  | file
  deriving DecidableEq

/-- `PeerConnectionUtils`, as far as the video capturer goes. -/
structure PeerConnectionUtils where
  /-- The type of `mVideoCapturer`, as `getCurrentVideoCapturer()` returns it. -/
  mVideoCapturer : Option VideoCapturerType := none
  /-- `mVideoSource` is not null. -/
  mVideoSource : Bool := false

/-- What happens when a track is made. -/
structure TrackScript where
  /-- a camera is found, or the screen may be captured, or the file is there -/
  capturer : Bool
  /-- `createVideoSource(isScreencast)` of the factory -/
  source : Except JavaException Unit
  /-- `initialize` and `startCapture` -/
  capture : Except JavaException Unit
  /-- `createAudioTrack` and `createVideoTrack` of the factory -/
  track : Except JavaException Unit
  /-- `addAudioTrackMediaStream` and `addVideoTrackMediaStream` -/
  addTrack : Except JavaException Unit

namespace PeerConnectionUtils

def releaseVideoCapturer (u : PeerConnectionUtils) : PeerConnectionUtils :=
  { u with mVideoCapturer := none, mVideoSource := false }

/-- `createCamCapture`, `createScreenCapturer` and `createFileCapturer`.  Only the first of
them throws when it makes no capturer. -/
def createCapturer (capturerType : VideoCapturerType) (script : TrackScript) :
    Method PeerConnectionUtils Unit :=
  if script.capturer then modify fun u => { u with mVideoCapturer := some capturerType }
  else if capturerType = .camera then throw (.illegalState "Failed to create Camera Capture")
  else pure ()

/-- `createVideoSource(context, capturerType)`. -/
def createVideoSource (capturerType : VideoCapturerType) (script : TrackScript) :
    Method PeerConnectionUtils Unit := do
  modify releaseVideoCapturer
  createCapturer capturerType script
  match (← get).mVideoCapturer with
  | none => throw .nullPointer
  | some _ => do
      MonadExcept.ofExcept script.source
      modify fun u => { u with mVideoSource := true }
      MonadExcept.ofExcept script.capture

/-- `createVideoTrack(context, capturerType)`. -/
def createVideoTrack (capturerType : VideoCapturerType) (script : TrackScript) :
    Method PeerConnectionUtils Unit := do
  let u ← get
  if !u.mVideoSource || u.mVideoCapturer ≠ some capturerType then do
    createVideoSource capturerType script
    MonadExcept.ofExcept script.track
  else MonadExcept.ofExcept script.track

end PeerConnectionUtils

/-! ## The client -/

structure Device where
  isLoaded : Bool

/-- What is posted to the main thread. -/
inductive MainTask where
  | enableMic
  | enableCam
  | close

/-- A `RoomClient` that sends. -/
structure SendingClient extends RoomClient, Producing where
  /-- `mOptions.isProduce()`. -/
  isProduce : Bool := true
  /-- `mOptions.isEnableAudio()`. -/
  isEnableAudio : Bool := true
  /-- `mOptions.isEnableVideo()`. -/
  isEnableVideo : Bool := true
  /-- The answer of `connectCallback.isConnected()`, if there is a callback. -/
  callbackConnected : Bool := true
  mPeerConnectionUtils : Option PeerConnectionUtils := none
  mMediasoupDevice : Option Device := none
  /-- The number of the send transport. -/
  mSendTransport : Option Nat := none
  /-- The audio track, and whether it is enabled. -/
  mLocalAudioTrack : Option Bool := none
  /-- The video track, and whether it is enabled. -/
  mLocalVideoTrack : Option Bool := none
  /-- What was posted to the main thread. -/
  posted : List MainTask := []
  /-- How many send transports were made. -/
  transports : Nat := 0

/-- How a native call ends. -/
inductive Native (α : Type) where
  | returns (value : α)
  | mediasoupException (message : String)
  /-- any other exception -/
  | throws (e : JavaException)

/-- How the `try` block of a task ends, unless an exception leaves the task. -/
inductive Outcome where
  | done
  | mediasoupException (message : String)

/-- The request `closeProducer`: its id, and the answer. -/
structure Reply where
  requestId : Int
  answer : Except JavaException String

/-- What happens in a task that makes a producer. -/
structure EnableScript where
  /-- `mMediasoupDevice.canProduce(kind)` -/
  canProduce : MediaKind → Native Bool
  track : TrackScript
  /-- `mSendTransport.produce(...)`: the id of the new producer -/
  produce : Native String
  /-- for the producer that is replaced -/
  close : Reply

/-- What the server and the native library answer in a join. -/
structure SendJoinScript where
  /-- `mProtoo.syncRequest("getRouterRtpCapabilities")` -/
  routerRtpCapabilities : Except JavaException Unit
  /-- `mMediasoupDevice.load(routerRtpCapabilities)` -/
  load : Except JavaException Unit
  /-- `mMediasoupDevice.getRtpCapabilities()` -/
  rtpCapabilities : Except JavaException Unit
  /-- `createSendTransport()` -/
  sendTransport : Except JavaException Unit
  /-- from the receive transport to the peers -/
  receive : JoinScript
  /-- `mMediasoupDevice.canProduce(kind)` for both kinds -/
  canProduce : Except JavaException Unit
  /-- `connectCallback.onJoinSuc()`, if there is a callback -/
  onJoinSuc : Except JavaException Unit

namespace SendingClient

def isConnected (c : SendingClient) : Bool :=
  match c.connectCallback with
  | none => !c.mClosed
  | some _ => c.callbackConnected

/-- The current type of capturer, and `null` without `mPeerConnectionUtils`. -/
def capturerType (c : SendingClient) : Option VideoCapturerType :=
  c.mPeerConnectionUtils.bind PeerConnectionUtils.mVideoCapturer

/-- A change of the producers. -/
def withProducing (c : SendingClient) (f : Producing → Producing) : SendingClient :=
  { c with toProducing := f c.toProducing }

/-- A method that the receiving side has too. -/
def room {α : Type} (x : Method RoomClient α) : Method SendingClient α :=
  onPart (·.toRoomClient) (fun c r => { c with toRoomClient := r }) x

/-- A method of `mPeerConnectionUtils`. -/
def peerConnectionUtils (x : Method PeerConnectionUtils Unit) : Method SendingClient Unit := do
  let c ← get
  match c.mPeerConnectionUtils with
  | none => throw .nullPointer
  | some u =>
      match x.run u with
      | .ok _ u => set { c with mPeerConnectionUtils := some u }
      | .error e u => do
          set { c with mPeerConnectionUtils := some u }
          throw e

def releaseVideoTrack (c : SendingClient) : SendingClient :=
  { c with
    mLocalVideoTrack := none
    mPeerConnectionUtils :=
      c.mPeerConnectionUtils.map PeerConnectionUtils.releaseVideoCapturer }

/-! ### Closing a producer -/

/-- The request `closeProducer`.  Its `ProtooException` is caught, and has no message. -/
def requestClose (lib : OrgJson) (source : Source) (producer : Producer) (reply : Reply) :
    Method SendingClient Unit := do
  match ← room (RoomClient.syncRequest ⟨reply.requestId, reply.answer, .ok ()⟩ "closeProducer"
      (lib.toString (JSONObject.put [] "producerId" (some (.string producer.id))))) with
  | .error _ =>
      room (RoomClient.notifyError
        ("Error closing server-side " ++ source.closingName ++ " Producer: null"))
  | .ok _ => pure ()

/-- The producer of a source is closed and taken out of the store, the server is told, and
the field is cleared. -/
def closeProducer (lib : OrgJson) (source : Source) (producer : Producer) (reply : Reply) :
    Method SendingClient Unit := do
  modify fun c => c.withProducing fun s => (s.close producer).removeProducer producer.id
  requestClose lib source producer reply
  modify fun c => c.withProducing fun s => s.setProducer source.kind none

def disableMicImpl (lib : OrgJson) (reply : Reply) : Method SendingClient Unit := do
  let c ← get
  if !c.isConnecting then pure ()
  else
    match c.mMicProducer with
    | none => pure ()
    | some producer => closeProducer lib .mic producer reply

def disableCamImpl (lib : OrgJson) (reply : Reply) : Method SendingClient Unit := do
  let c ← get
  if !c.isConnecting then pure ()
  else
    match c.mCamProducer with
    | none => pure ()
    | some producer =>
        if c.capturerType ≠ some .camera then pure ()
        else closeProducer lib .cam producer reply

def disableShareImpl (lib : OrgJson) (isContinue : Bool) (reply : Reply) :
    Method SendingClient Unit := do
  let c ← get
  if !c.isConnected then pure ()
  else
    match c.mCamProducer with
    | none => pure ()
    | some producer =>
        if c.capturerType ≠ some .screen then pure ()
        else do
          modify releaseVideoTrack
          closeProducer lib .share producer reply
          if isContinue && c.isEnableVideo then
            modify fun c => { c with posted := c.posted ++ [.enableCam] }
          else pure ()

/-! ### Making a producer -/

/-- The checks in front of a new producer: `isLoaded()`, `canProduce(kind)` and the send
transport. -/
def withSendTransport (kind : MediaKind) (script : EnableScript)
    (rest : Nat → Method SendingClient Outcome) : Method SendingClient Outcome := do
  let c ← get
  match c.mMediasoupDevice with
  | none => throw .nullPointer
  | some device =>
      if !device.isLoaded then pure .done
      else
        match script.canProduce kind with
        | .throws e => throw e
        | .mediasoupException message => pure (.mediasoupException message)
        | .returns false => pure .done
        | .returns true =>
            match c.mSendTransport with
            | none => pure .done
            | some transport => rest transport

/-- `mSendTransport.produce(...)`, and what follows it. -/
def produce (source : Source) (script : EnableScript) (transport : Nat) :
    Method SendingClient Outcome :=
  match script.produce with
  | .throws e => throw e
  | .mediasoupException message => pure (.mediasoupException message)
  | .returns id => do
      modify fun c => c.withProducing fun s => s.produce source transport id
      pure .done

/-- The local audio track is made, unless there is one. -/
def createAudioTrack (script : TrackScript) : Method SendingClient Unit := do
  let c ← get
  if c.mLocalAudioTrack.isSome then pure ()
  else do
    MonadExcept.ofExcept script.track
    set { c with mLocalAudioTrack := some true }
    MonadExcept.ofExcept script.addTrack

/-- The local video track is made, unless there is one of this type. -/
def createVideoTrack (capturerType : VideoCapturerType) (script : TrackScript) :
    Method SendingClient Unit := do
  let c ← get
  if c.mLocalVideoTrack.isNone || c.capturerType ≠ some capturerType then do
    modify releaseVideoTrack
    peerConnectionUtils (PeerConnectionUtils.createVideoTrack capturerType script)
    modify fun c => { c with mLocalVideoTrack := some true }
    MonadExcept.ofExcept script.addTrack
  else pure ()

/-- The `try` block of `enableMicImpl`. -/
def enableMic (script : EnableScript) : Method SendingClient Outcome := do
  let c ← get
  if !c.isConnecting then pure .done
  else if c.mPeerConnectionUtils.isNone then pure .done
  else if c.mMicProducer.isSome then pure .done
  else
    withSendTransport .audio script fun transport => do
      createAudioTrack script.track
      produce .mic script transport

/-- The end of the `try` blocks of `enableCamImpl` and `enableShareImpl`. -/
def enableVideo (source : Source) (capturerType : VideoCapturerType) (script : EnableScript) :
    Method SendingClient Outcome :=
  withSendTransport .video script fun transport => do
    createVideoTrack capturerType script.track
    produce source script transport

/-- The video producer of the `other` capturer is closed first, and that of a file is not. -/
def replaceVideo (source : Source) (capturerType other : VideoCapturerType)
    (close : Method SendingClient Unit) (script : EnableScript) :
    Method SendingClient Outcome := do
  let c ← get
  if c.mCamProducer.isNone then enableVideo source capturerType script
  else if c.capturerType = some other then do
    close
    enableVideo source capturerType script
  else if c.capturerType = some .file then enableVideo source capturerType script
  else pure .done

/-- The `try` block of `enableCamImpl`. -/
def enableCam (lib : OrgJson) (script : EnableScript) : Method SendingClient Outcome := do
  let c ← get
  if !c.isConnecting then pure .done
  else if c.mPeerConnectionUtils.isNone then pure .done
  else replaceVideo .cam .camera .screen (disableShareImpl lib false script.close) script

/-- The `try` block of `enableShareImpl`. -/
def enableShare (lib : OrgJson) (script : EnableScript) : Method SendingClient Outcome := do
  let c ← get
  if !c.isConnecting then pure .done
  else if c.mMediasoupDevice.isNone then pure .done
  else if c.mPeerConnectionUtils.isNone then pure .done
  else replaceVideo .share .screen .camera (disableCamImpl lib script.close) script

def disableTrack (c : SendingClient) : MediaKind → SendingClient
  | .audio => { c with mLocalAudioTrack := c.mLocalAudioTrack.map fun _ => false }
  | .video => { c with mLocalVideoTrack := c.mLocalVideoTrack.map fun _ => false }

/-- The `catch` blocks for a `MediasoupException`. -/
def catchMediasoup (source : Source) (body : Method SendingClient Outcome) :
    Method SendingClient Unit := do
  match ← body with
  | .done => pure ()
  | .mediasoupException message => do
      room (RoomClient.notifyError ("Error enabling " ++ source.enablingName ++ ": " ++ message))
      modify fun c => c.disableTrack source.kind

def enableMicImpl (script : EnableScript) : Method SendingClient Unit :=
  catchMediasoup .mic (enableMic script)

def enableCamImpl (lib : OrgJson) (script : EnableScript) : Method SendingClient Unit :=
  catchMediasoup .cam (enableCam lib script)

def enableShareImpl (lib : OrgJson) (script : EnableScript) : Method SendingClient Unit :=
  catchMediasoup .share (enableShare lib script)

/-! ### Joins and disconnects -/

def createSendTransport (script : SendJoinScript) : Method SendingClient Unit := do
  if (← get).isProduce then
    MonadExcept.ofExcept script.sendTransport
    modify fun c => { c with mSendTransport := some c.transports, transports := c.transports + 1 }

/-- The microphone and the camera are enabled by tasks of the main thread. -/
def postEnable (script : SendJoinScript) : Method SendingClient Unit := do
  if (← get).isProduce then
    MonadExcept.ofExcept script.canProduce
    modify fun c =>
      { c with
        posted := c.posted ++ (if c.isEnableAudio then [.enableMic] else []) ++
          (if c.isEnableVideo then [.enableCam] else []) }

/-- The `try` block of `joinImpl`. -/
def join (lib : OrgJson) (script : SendJoinScript) : Method SendingClient Unit := do
  modify fun c => { c with mMediasoupDevice := some { isLoaded := false } }
  MonadExcept.ofExcept script.routerRtpCapabilities
  MonadExcept.ofExcept script.load
  modify fun c => { c with mMediasoupDevice := some { isLoaded := true } }
  MonadExcept.ofExcept script.rtpCapabilities
  createSendTransport script
  room (RoomClient.join lib { script.receive with prepare := .ok (), finish := .ok () })
  postEnable script
  MonadExcept.ofExcept script.onJoinSuc

def joinImpl (lib : OrgJson) (script : SendJoinScript) : Method SendingClient Unit :=
  catchException (join lib script) fun e => do
    room (RoomClient.notifyError (RoomClient.joinError e))
    modify fun c => { c with posted := c.posted ++ [.close] }

/-- The transport-close listener of a producer.  That of a screen does not ask
`isConnecting()`. -/
def onTransportClose (c : SendingClient) (producer : Producer) : SendingClient :=
  match producer.source with
  | .mic => if c.isConnecting then c.withProducing fun s => s.drop .audio else c
  | .cam => if c.isConnecting then c.withProducing fun s => s.drop .video else c
  | .share => c.withProducing fun s => s.drop .video

/-- The open producers of the send transport. -/
def closing (c : SendingClient) : List Producer :=
  c.opened.filter fun producer => c.mSendTransport = some producer.transport

/-- `mSendTransport.close()`, which calls the listeners of these producers. -/
def closeSendTransport (c : SendingClient) (called : List Producer) : SendingClient :=
  match c.mSendTransport with
  | none => c
  | some transport =>
      { (called.foldl onTransportClose c).withProducing fun s =>
          { s with opened := s.opened.filter (·.transport ≠ transport) } with
        mSendTransport := none }

/-- `disposeTransportDevice()`, where the receive transport has these consumers open. -/
def disposeTransportDevice (c : SendingClient) (called : List Producer)
    (consumers : List String) : SendingClient :=
  let c := c.closeSendTransport called
  { c with
    toRoomClient := c.toRoomClient.disposeTransportDevice consumers
    mMediasoupDevice := none }

def onDisconnected (c : SendingClient) (called : List Producer) (consumers : List String) :
    SendingClient :=
  disposeTransportDevice
    { c with mStore := c.mStore.addNotify "error" "WebSocket disconnected" } called consumers

end SendingClient

/-- The tasks of the worker that have to do with sending. -/
inductive SendTask where
  | join (script : SendJoinScript)
  /-- the producers whose listener is called, and the consumers that are open -/
  | disconnect (called : List Producer) (consumers : List String)
  | enableMic (script : EnableScript)
  | disableMic (reply : Reply)
  | enableCam (script : EnableScript)
  | disableCam (reply : Reply)
  | enableShare (script : EnableScript)
  | disableShare (reply : Reply)

namespace SendingClient

/-- One task of the worker. -/
def step (lib : OrgJson) (c : SendingClient) : SendTask → SendingClient
  | .join script => final (joinImpl lib script) c
  | .disconnect called consumers => c.onDisconnected called consumers
  | .enableMic script => final (enableMicImpl script) c
  | .disableMic reply => final (disableMicImpl lib reply) c
  | .enableCam script => final (enableCamImpl lib script) c
  | .disableCam reply => final (disableCamImpl lib reply) c
  | .enableShare script => final (enableShareImpl lib script) c
  | .disableShare reply => final (disableShareImpl lib true reply) c

end SendingClient

end MediasoupDemo.Room
