import MediasoupDemo.Rtmp.Replies

/-!
# The receiving thread of `RtmpConnection`

`handleRxPacketLoop` calls `readPacket` again and again and handles what it returns, the
commands of the server in `handleRxInvoke`.  An answer goes through `sendRtmpPacket`.

* `Session` is what belongs to one session: the decoder with its input, the commands that have
  not been answered, and the window size.  `reset()` makes it `null`.
* `network` says what the next operations on the socket do.  `sendRtmpPacket` catches what they
  throw.
* `sent` and `notified` are the packets that were written and the calls of the handler.

The receiving thread is started when the streams are there, and nothing sets them to `null`.
What other threads do meanwhile is left out.
-/

namespace MediasoupDemo.Rtmp

open MediasoupDemo.Runtime Method

/-! ## State -/

/-- The commands that the client invokes. -/
inductive InvokedCommand where
  | connect
  | releaseStream
  | FCPublish
  | createStream
  | publish
  | closeStream

/-- `getCommandName()`. -/
def InvokedCommand.name : InvokedCommand → String
  | connect => "connect"
  | releaseStream => "releaseStream"
  | FCPublish => "FCPublish"
  | createStream => "createStream"
  | publish => "publish"
  | closeStream => "closeStream"

/-- What an operation on the socket throws.  A `SocketException` may have no message. -/
inductive SocketFailure where
  | socketException (message : Option String)
  | ioException (message : String)

/-- The calls of the handler. -/
inductive Notification where
  | illegalState (message : String)
  | socketException (message : String)
  | ioException (message : String)

/-- The decoder on its `RtmpSessionInfo`, and what that holds besides. -/
structure Session where
  rtmpDecoder : RtmpDecoder
  invokedMethods : Int → Option InvokedCommand := fun _ => none
  acknowledgementWindowSize : Int := 2 ^ 31 - 1

/-- `RtmpConnection`, as far as its receiving thread uses it. -/
structure RtmpConnection where
  session : Option Session
  connected : Bool := false
  publishPermitted : Bool := false
  currentStreamId : Int := 0
  streamName : Option String := none
  publishType : Option String := none
  srsServerInfo : String := ""
  serverIpAddr : Option String := none
  serverPid : Option (BitVec 64) := none
  serverId : Option (BitVec 64) := none
  videoWidth : Int := 0
  videoHeight : Int := 0
  socketExceptionCause : String := ""
  network : List (Option SocketFailure) := []
  sent : List Reply := []
  notified : List Notification := []

namespace RtmpConnection

/-- `rtmpSessionInfo`, which may be `null`. -/
def getSession : Method RtmpConnection Session := do
  match (← get).session with
  | none => throw .nullPointer
  | some session => pure session

/-- The connection with its session changed. -/
def onSession (f : Session → Session) (c : RtmpConnection) : RtmpConnection :=
  { c with session := c.session.map f }

/-- A call of the handler. -/
def notify (notification : Notification) : Method RtmpConnection Unit :=
  modify fun c => { c with notified := c.notified ++ [notification] }

/-- `takeInvokedCommand(transactionId)`; `none` is `null`. -/
def takeInvokedCommand (transactionId : Int) : Method RtmpConnection (Option InvokedCommand) := do
  let session ← getSession
  modify (onSession fun s =>
    { s with invokedMethods := Function.update s.invokedMethods transactionId none })
  pure (session.invokedMethods transactionId)

/-- `addInvokedCommand(transactionId, commandName)`. -/
def addInvokedCommand (transactionId : Int) (command : InvokedCommand) :
    Method RtmpConnection Unit :=
  modify (onSession fun s =>
    { s with invokedMethods := Function.update s.invokedMethods transactionId (some command) })

/-! ## Sending -/

/-- The next operation on the socket. -/
def socketOperation : Method RtmpConnection (Option SocketFailure) := do
  let c ← get
  set { c with network := c.network.tail }
  pure c.network.head?.join

/-- The `catch` blocks of `sendRtmpPacket`.  `contentEquals` does not take `null`. -/
def sendFailed : SocketFailure → Method RtmpConnection Unit
  | .socketException none => throw .nullPointer
  | .socketException (some message) => do
      if (← get).socketExceptionCause = message then pure ()
      else
        modify fun c => { c with socketExceptionCause := message }
        notify (.socketException message)
  | .ioException message => notify (.ioException message)

/-- The command that an answer invokes. -/
def invokedBy : Reply → Option (Int × InvokedCommand)
  | .publish _ _ _ => some (0, .publish)
  | .pong _ | .windowAckSize _ | .metaData _ _ _ => none

/-- An operation on the socket in the `try` block of `sendRtmpPacket`, and what follows it. -/
def sending (rest : Method RtmpConnection Unit) : Method RtmpConnection Unit := do
  match ← socketOperation with
  | some failure => sendFailed failure
  | none => rest

/-- `addInvokedCommand` for a command. -/
def addInvoked : Option (Int × InvokedCommand) → Method RtmpConnection Unit
  | some (transactionId, command) => addInvokedCommand transactionId command
  | none => pure ()

/-- `sendRtmpPacket`: the packet is written and then flushed. -/
def sendRtmpPacket (reply : Reply) : Method RtmpConnection Unit := do
  let _ ← getSession
  sending do
    modify fun c => { c with sent := c.sent ++ [reply] }
    addInvoked (invokedBy reply)
    sending (pure ())

/-- Send what is made for the current stream, if there is one. -/
def sendOnStream (reply : (currentStreamId : Int) → Reply) : Method RtmpConnection Unit := do
  let c ← get
  if !c.connected then notify (.illegalState "Not connected to RTMP server")
  else if c.currentStreamId = 0 then notify (.illegalState "No current stream object exists")
  else sendRtmpPacket (reply c.currentStreamId)

/-- `fmlePublish()`, if there are a stream name and a publish type. -/
def fmlePublish : (streamName publishType : Option String) → Method RtmpConnection Unit
  | some streamName, some publishType =>
      sendOnStream fun currentStreamId => .publish currentStreamId streamName publishType
  | _, _ => pure ()

def onMetaData : Method RtmpConnection Unit := do
  let c ← get
  sendOnStream fun currentStreamId => .metaData currentStreamId c.videoWidth c.videoHeight

/-! ## Commands of the server -/

/-- `getData().get(index)`. -/
def getItem (data : List AmfData) (index : Nat) : Except JavaException AmfData :=
  match data[index]? with
  | none => throw .indexOutOfBounds
  | some item => pure item

/-- The properties of an `AmfObject`.  A map is an object, too. -/
def objectProperties : AmfData → Option (List (String × AmfData))
  | .object properties _ | .map properties _ => some properties
  | .number _ | .boolean _ | .string _ | .null | .undefined | .array _ _ => none

/-- `(AmfObject) item`, by its properties. -/
def castObject (item : AmfData) : Except JavaException (List (String × AmfData)) :=
  match objectProperties item with
  | none => throw .classCast
  | some properties => pure properties

/-- `(AmfNumber) item`. -/
def castNumber : AmfData → Except JavaException (BitVec 64)
  | .number bits => pure bits
  | .boolean _ | .string _ | .object _ _ | .null | .undefined | .map _ _ | .array _ _ =>
      throw .classCast

/-- `(AmfString) item`. -/
def castString : AmfData → Except JavaException String
  | .string value => pure value
  | .number _ | .boolean _ | .object _ _ | .null | .undefined | .map _ _ | .array _ _ =>
      throw .classCast

/-- A cast of a property, which may be missing. -/
def castProperty {α : Type} (cast : AmfData → Except JavaException α)
    (properties : List (String × AmfData)) (key : String) : Except JavaException (Option α) :=
  match properties.lookup key with
  | none => pure none
  | some item => some <$> cast item

/-- The text that `onSrsServerInfo` returns. -/
def serverInfo (c : RtmpConnection) : String :=
  (c.serverIpAddr.map fun ip => " ip: " ++ ip).getD "" ++
    ((c.serverPid.map fun pid => " pid: " ++ toString (doubleToInt pid)).getD "" ++
      (c.serverId.map fun id => " id: " ++ toString (doubleToInt id)).getD "")

/-- The fields that `onSrsServerInfo` sets from the object `data`. -/
def takeServerInfo (objData : List (String × AmfData)) : Method RtmpConnection Unit := do
  let serverIpAddr ← MonadExcept.ofExcept (castProperty castString objData "srs_server_ip")
  modify fun c => { c with serverIpAddr }
  let serverPid ← MonadExcept.ofExcept (castProperty castNumber objData "srs_pid")
  modify fun c => { c with serverPid }
  let serverId ← MonadExcept.ofExcept (castProperty castNumber objData "srs_id")
  modify fun c => { c with serverId }

/-- The same if there is such an object. -/
def takeServerData : Option (List (String × AmfData)) → Method RtmpConnection Unit
  | some objData => takeServerInfo objData
  | none => pure ()

/-- `onSrsServerInfo(invoke)`. -/
def onSrsServerInfo (data : List AmfData) : Method RtmpConnection String := do
  let objData ← MonadExcept.ofExcept (getItem data 1 >>= castObject)
  takeServerData ((objData.lookup "data").bind objectProperties)
  return serverInfo (← get)

def contains (string part : String) : Bool := decide (part.toList <:+: string.toList)

/-- The stream has its id and is published. -/
def streamCreated (streamId : BitVec 64) : Method RtmpConnection Unit := do
  modify fun c => { c with currentStreamId := doubleToInt streamId }
  let c ← get
  fmlePublish c.streamName c.publishType

/-- The `_result` branch of `handleRxInvoke`. -/
def handleResult (transactionId : Int) (data : List AmfData) : Method RtmpConnection Unit := do
  match ← takeInvokedCommand transactionId with
  | none =>
      -- `"connect".equals(null)` is false, and `"createStream".contains(null)` throws.
      throw .nullPointer
  | some method =>
      if method.name = "connect" then
        let srsServerInfo ← onSrsServerInfo data
        modify fun c => { c with srsServerInfo, connected := true }
      else if contains "createStream" method.name then
        MonadExcept.ofExcept (getItem data 1 >>= castNumber) >>= streamCreated
      else
        -- The other branches only write to the log.
        pure ()

/-- The `onStatus` branch of `handleRxInvoke`. -/
def handleStatus (data : List AmfData) : Method RtmpConnection Unit := do
  let properties ← MonadExcept.ofExcept (getItem data 1 >>= castObject)
  match ← MonadExcept.ofExcept (castProperty castString properties "code") with
  | none => throw .nullPointer
  | some code =>
      if code = "NetStream.Publish.Start" then
        onMetaData
        modify fun c => { c with publishPermitted := true }

def handleRxInvoke (commandName : String) (transactionId : Int) (data : List AmfData) :
    Method RtmpConnection Unit := do
  if commandName = "_result" then handleResult transactionId data
  else if commandName = "onBWDone" then pure ()
  else if commandName = "onFCPublish" then pure ()
  else if commandName = "onStatus" then handleStatus data
  else pure ()

end RtmpConnection

end MediasoupDemo.Rtmp
