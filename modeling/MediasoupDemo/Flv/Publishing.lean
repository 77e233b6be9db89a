import MediasoupDemo.Flv.Muxer
import MediasoupDemo.Lib.Interleave
import Mathlib.Logic.Function.Basic

/-!
# The threads of a publishing session

`SrsFlvMuxer.start` makes a worker thread, which connects, publishes and then
polls the queue.  The encoder puts frames into the queue.  The receiving thread
of the connection sets the flags that the worker waits for.  `stop` ends the
worker and leaves the closing of the connection to a thread of its own, for
which it does not wait; a later `start` may run at the same time.  `start` is
only called when no worker is running.

All of them share one `RtmpConnection` and the fields of the muxer.  A thread is
the list of the steps that it has left, and an `Event` lets one thread do its next
step.  A step is one access to a shared field; only `closeStream` and `joinReceiver`
merge several.  A run is any sequence of events.

Sessions are numbered by `start`.  Fields that a session sets carry its number:
`connected = some 2` is `connected == true`, set by the receiving thread of the
second session, and `none` is `false`.

What is left out: the bytes that are sent and the fields that are only used for
them, exceptions of the handler, and the parts of `reset` that no step reads.
A stream id of 0 from the server counts as none, and a receiving thread is taken
to read the stream of its own session.
-/

namespace MediasoupDemo.Flv

/-! ## State -/

/-- `RtmpConnection`.  `shut` lists the sockets that were shut down or closed,
and `closedStreams` the sessions whose stream was closed by a `closeStream`
command. -/
structure RtmpConnection where
  socket : Option Nat := none
  rxPacketHandler : Option Nat := none
  rtmpSessionInfo : Bool := false
  connected : Option Nat := none
  publishPermitted : Option Nat := none
  currentStreamId : Option Nat := none
  videoFrameCacheNumber : Int := 0
  shut : List Nat := []
  closedStreams : List Nat := []

/-- The steps of the worker and of the threads that disconnect. -/
inductive ThreadStep where
  /-- the match of the URL; `rtmpSessionInfo = new …; socket = new Socket()` -/
  | openSocket
  /-- `socket.connect`, the streams and the handshake -/
  | connectSocket
  /-- `rxPacketHandler = new Thread(…)` and its start -/
  | startReceiver
  /-- the test of `rtmpConnect()`, and the `connect` command -/
  | rtmpConnect
  /-- the end of the wait: `if (!connected) shutdown()` -/
  | awaitConnected
  | returnConnected
  /-- the tests of `createStream()`, and its commands -/
  | createStream
  /-- the end of the wait: `if (!publishPermitted) shutdown()` -/
  | awaitPermitted
  | returnPermitted
  /-- `if (socket != null) closeStream()` of `close()` -/
  | closeStream
  /-- `if (socket != null)` of `shutdown()` -/
  | testSocket
  | shutdownInput
  | shutdownOutput
  /-- interrupt and join the receiving thread -/
  | joinReceiver
  | closeSocket
  | resetConnected
  | resetPublishPermitted
  | resetCurrentStreamId
  | resetVideoFrameCacheNumber
  | resetSocket
  | resetSessionInfo
  | clearVideoHeader
  | clearAudioHeader
  /-- `while (!Thread.interrupted())` -/
  | loop
  /-- `while (!mFlvTagCache.isEmpty())` -/
  | poll
  /-- `mFlvTagCache.poll()` -/
  | take
  /-- the branches of the loop on a polled frame -/
  | handle (frame : SrsFlvFrame)
  | storeHeader (frame : SrsFlvFrame)
  /-- the tests of `publishVideoData` or `publishAudioData` -/
  | publish (frame : SrsFlvFrame)
  /-- `sendRtmpPacket`, which catches the exceptions of the socket -/
  | send
  /-- `videoFrameCacheNumber.decrementAndGet()` -/
  | countDown
  deriving DecidableEq

/-- `flvTagCacheAdd` of the encoder: between the test of `started` and `add`,
and between `add` and `incrementAndGet`. -/
inductive Enqueue where
  | idle
  | tested (frame : SrsFlvFrame)
  | added (frame : SrsFlvFrame)
  deriving DecidableEq

/-- `stop()`: before `clear`, and while it waits for the worker. -/
inductive Stopping where
  | idle
  | clearing
  | joining
  deriving DecidableEq

/-- The muxer, its connection and its threads.  `session` counts the calls of
`start` and `stops` those of `stop`; the thread of a `stop` is numbered by both.
`receivers` are the sessions whose receiving thread has not been joined. -/
structure Publishing where
  started : Bool := false
  interrupted : Bool := false
  mFlvTagCache : List SrsFlvFrame := []
  mVideoSequenceHeader : Option Nat := none
  mAudioSequenceHeader : Option Nat := none
  connection : RtmpConnection := {}
  worker : List ThreadStep := []
  disconnects : Nat × Nat → List ThreadStep := fun _ => []
  receivers : List Nat := []
  encoder : Enqueue := .idle
  stopping : Stopping := .idle
  session : Nat := 0
  stops : Nat := 0

/-! ## Steps -/

namespace ThreadStep

def reset : List ThreadStep :=
  [resetConnected, resetPublishPermitted, resetCurrentStreamId, resetVideoFrameCacheNumber,
    resetSocket, resetSessionInfo]

def shutdown : List ThreadStep := testSocket :: reset

/-- `disconnect()`: `publisher.close()`, and the two headers. -/
def disconnect : List ThreadStep :=
  closeStream :: (shutdown ++ [clearVideoHeader, clearAudioHeader])

/-- The end of `connect(url)` of the muxer. -/
def connectEnd : List ThreadStep := [clearVideoHeader, clearAudioHeader]

end ThreadStep

variable (s : Publishing)

namespace Publishing

/-- Change the connection. -/
def onConnection (f : RtmpConnection → RtmpConnection) (s : Publishing) : Publishing :=
  { s with connection := f s.connection }

/-- Shut down or close the socket of the field. -/
def shutSocket : Publishing :=
  s.onConnection fun c => { c with shut := c.shut ++ c.socket.toList }

/-- The sequence header of a stream is stored. -/
def hasHeader : FlvTag → Bool
  | .Video => s.mVideoSequenceHeader.isSome
  | .Audio => s.mAudioSequenceHeader.isSome

/-- The tests at the start of `publishVideoData` and `publishAudioData`. -/
def accepts (frame : SrsFlvFrame) : Bool :=
  !frame.flvTag.data.isEmpty && decide (0 ≤ frame.dts) && s.connection.connected.isSome &&
    s.connection.currentStreamId.isSome && s.connection.publishPermitted.isSome

/-- Change `videoFrameCacheNumber`. -/
def count (change : Int) (s : Publishing) : Publishing :=
  s.onConnection fun c => { c with videoFrameCacheNumber := c.videoFrameCacheNumber + change }

/-- One step of a thread of a session: the state, and the steps that come first
from now on.  `none` for the steps is an exception that ends the thread.
`outcome` is whether the operation of the step on the URL or the socket
succeeds. -/
def exec (session : Nat) (outcome : Bool) (s : Publishing) :
    ThreadStep → Publishing × Option (List ThreadStep)
  | .openSocket =>
      if outcome then
        (s.onConnection fun c => { c with rtmpSessionInfo := true, socket := some session },
          some [.connectSocket])
      else (s, some ThreadStep.connectEnd)
  | .connectSocket =>
      match s.connection.socket with
      | none => (s, none)
      | some socket =>
          if outcome && socket ∉ s.connection.shut then (s, some [.startReceiver, .rtmpConnect])
          else (s, some ThreadStep.connectEnd)
  | .startReceiver =>
      ({ s.onConnection fun c => { c with rxPacketHandler := some session } with
          receivers := session :: s.receivers }, some [])
  | .rtmpConnect =>
      if s.connection.connected.isSome then (s, some ThreadStep.connectEnd)
      else if s.connection.rtmpSessionInfo then (s, some [.awaitConnected])
      else (s, none)
  | .awaitConnected =>
      -- The wait clears the interrupt status, and nothing sets it again.
      let s := { s with interrupted := false }
      if s.connection.connected.isSome then (s, some [.returnConnected])
      else (s, some (ThreadStep.shutdown ++ [.returnConnected]))
  | .returnConnected =>
      if s.connection.connected.isSome then (s, some [.createStream])
      else (s, some ThreadStep.connectEnd)
  | .createStream =>
      if s.connection.connected.isSome && s.connection.currentStreamId.isNone then
        if s.connection.rtmpSessionInfo then (s, some [.awaitPermitted]) else (s, none)
      else (s, some ThreadStep.connectEnd)
  | .awaitPermitted =>
      let s := { s with interrupted := false }
      if s.connection.publishPermitted.isSome then (s, some [.returnPermitted])
      else (s, some (ThreadStep.shutdown ++ [.returnPermitted]))
  | .returnPermitted =>
      if s.connection.publishPermitted.isSome then (s, some (ThreadStep.connectEnd ++ [.loop]))
      else (s, some ThreadStep.connectEnd)
  | .closeStream =>
      if s.connection.socket.isSome && s.connection.connected.isSome &&
          s.connection.currentStreamId.isSome && s.connection.publishPermitted.isSome then
        if s.connection.rtmpSessionInfo then
          (s.onConnection fun c =>
            { c with closedStreams := c.closedStreams ++ c.currentStreamId.toList }, some [])
        else (s, none)
      else (s, some [])
  | .testSocket =>
      if s.connection.socket.isSome then
        (s, some [.shutdownInput, .joinReceiver, .closeSocket])
      else (s, some [])
  | .shutdownInput =>
      -- The field is read again, and may be `null` by now.
      if s.connection.socket.isNone then (s, none)
      else if outcome then (s.shutSocket, some [.shutdownOutput])
      else (s, some [])
  | .shutdownOutput =>
      if s.connection.socket.isNone then (s, none)
      else if outcome then (s.shutSocket, some [])
      else (s, some [])
  | .closeSocket => if s.connection.socket.isNone then (s, none) else (s.shutSocket, some [])
  | .joinReceiver =>
      ({ s.onConnection fun c => { c with rxPacketHandler := none } with
          receivers := s.receivers.filter fun k => s.connection.rxPacketHandler ≠ some k },
        some [])
  | .resetConnected => (s.onConnection fun c => { c with connected := none }, some [])
  | .resetPublishPermitted => (s.onConnection fun c => { c with publishPermitted := none }, some [])
  | .resetCurrentStreamId => (s.onConnection fun c => { c with currentStreamId := none }, some [])
  | .resetVideoFrameCacheNumber =>
      (s.onConnection fun c => { c with videoFrameCacheNumber := 0 }, some [])
  | .resetSocket => (s.onConnection fun c => { c with socket := none }, some [])
  | .resetSessionInfo => (s.onConnection fun c => { c with rtmpSessionInfo := false }, some [])
  | .clearVideoHeader => ({ s with mVideoSequenceHeader := none }, some [])
  | .clearAudioHeader => ({ s with mAudioSequenceHeader := none }, some [])
  | .loop =>
      if s.interrupted then ({ s with interrupted := false }, some []) else (s, some [.poll])
  | .poll => (s, some (if s.mFlvTagCache.isEmpty then [.loop] else [.take, .poll]))
  | .take =>
      -- `stop` may have cleared the queue since the test.
      match s.mFlvTagCache with
      | [] => (s, none)
      | frame :: rest => ({ s with mFlvTagCache := rest }, some [.handle frame])
  | .handle frame =>
      if frame.isSequenceHeader then (s, some [.storeHeader frame, .publish frame])
      else if s.hasHeader frame.type then (s, some [.publish frame])
      else (s, some [])
  | .storeHeader frame =>
      match frame.type with
      | .Video => ({ s with mVideoSequenceHeader := some session }, some [])
      | .Audio => ({ s with mAudioSequenceHeader := some session }, some [])
  | .publish frame =>
      if s.accepts frame then (s, some (.send :: if frame.isVideo then [.countDown] else []))
      else (s, some [])
  | .send => if s.connection.rtmpSessionInfo then (s, some []) else (s, none)
  | .countDown => (s.count (-1), some [])

/-- The steps that a thread has left after one of them. -/
def after (next : Option (List ThreadStep)) (rest : List ThreadStep) : List ThreadStep :=
  match next with
  | none => []
  | some first => first ++ rest

/-- What can happen next. -/
inductive Event where
  /-- `start(rtmpUrl)` -/
  | start
  /-- `stop()`, or its next part -/
  | stop
  /-- the next step of the worker -/
  | worker (outcome : Bool)
  /-- the next step of a thread that disconnects a session -/
  | disconnect (thread : Nat × Nat) (outcome : Bool)
  /-- the encoder calls `flvTagCacheAdd` -/
  | encode (frame : SrsFlvFrame)
  /-- the next part of `flvTagCacheAdd` -/
  | encoder
  /-- the receiving thread of a session gets the result of `connect` -/
  | connected (session : Nat)
  /-- the receiving thread of a session gets a stream id -/
  | streamCreated (session : Nat)
  /-- the receiving thread of a session gets `NetStream.Publish.Start` -/
  | permitted (session : Nat)
  deriving DecidableEq

/-- The receiving thread of a session can receive. -/
def receives (session : Nat) : Bool :=
  session ∈ s.receivers && session ∉ s.connection.shut

/-- One event; `none` if it cannot happen now. -/
def step : Event → Option Publishing
  | .start =>
      if s.stopping = .idle && s.worker.isEmpty then
        some
          { s with
            started := true, interrupted := false, session := s.session + 1
            worker := [.openSocket] }
      else none
  | .stop =>
      match s.stopping with
      | .idle => some { s with started := false, stopping := .clearing }
      | .clearing => some { s with mFlvTagCache := [], interrupted := true, stopping := .joining }
      | .joining =>
          if s.worker.isEmpty then
            some
              { s with
                stopping := .idle, stops := s.stops + 1
                disconnects :=
                  Function.update s.disconnects (s.session, s.stops) ThreadStep.disconnect }
          else none
  | .worker outcome =>
      match s.worker with
      | [] => none
      | first :: rest =>
          let (s', next) := s.exec s.session outcome first
          some { s' with worker := after next rest }
  | .disconnect thread outcome =>
      match s.disconnects thread with
      | [] => none
      | first :: rest =>
          let (s', next) := s.exec thread.1 outcome first
          some { s' with disconnects := Function.update s.disconnects thread (after next rest) }
  | .encode frame =>
      if s.encoder = .idle then
        some (if s.started then { s with encoder := .tested frame } else s)
      else none
  | .encoder =>
      match s.encoder with
      | .idle => none
      | .tested frame =>
          some { s with mFlvTagCache := s.mFlvTagCache ++ [frame], encoder := .added frame }
      | .added frame =>
          some { (if frame.isVideo then s.count 1 else s) with encoder := .idle }
  | .connected session =>
      if s.receives session then
        some (s.onConnection fun c => { c with connected := some session })
      else none
  | .streamCreated session =>
      if s.receives session then
        some (s.onConnection fun c => { c with currentStreamId := some session })
      else none
  | .permitted session =>
      if s.receives session then
        some (s.onConnection fun c => { c with publishPermitted := some session })
      else none

/-! ## What a step of a thread leaves alone -/

section Frame

variable (session : Nat) (outcome : Bool) (s : Publishing) (st : ThreadStep)

theorem exec_frame :
    (s.exec session outcome st).1.session = s.session ∧
      (s.exec session outcome st).1.worker = s.worker ∧
      (s.exec session outcome st).1.disconnects = s.disconnects ∧
      (s.exec session outcome st).1.encoder = s.encoder := by
  unfold exec
  split <;> (try dsimp only) <;> (repeat' split) <;> exact ⟨rfl, rfl, rfl, rfl⟩

@[simp] theorem exec_session : (s.exec session outcome st).1.session = s.session :=
  (exec_frame session outcome s st).1

@[simp] theorem exec_disconnects : (s.exec session outcome st).1.disconnects = s.disconnects :=
  (exec_frame session outcome s st).2.2.1

end Frame

end Publishing

end MediasoupDemo.Flv
