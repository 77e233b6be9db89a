import MediasoupDemo.Lib.DelayQueue
import MediasoupDemo.Protoo.Json
import Mathlib.Algebra.Order.Ring.Int

/-!
# Calls

`MediasoupLoaderUtils` keeps the state of the current call and talks to the application,
through its `MediasoupHandler`.  `RoomManagement` has the room of the call and its
`RoomClient`.  Each of them calls the other, and both work on the main thread.

* `Loader` has the fields of `MediasoupLoaderUtils`, and `RoomManagement` those of
  `RoomManagement` with the clients that it has made.  `Calls` is the two of them.
* What the handler is told is listed (`events`), a message as the object that is sent.
* The main handler runs delayed tasks (`Delayed`) in the order in which they are due.
  `removeCallbacksAndMessages(null)` drops all of them.
* `setConnectionState` is called by an observer of the room store, so the connection state
  may change between any two calls.

Of a `RoomClient` only its number is kept and whether it is closed.  The shown name, the
camera and the video states of the peers are left out, as no function here reads them.
-/

namespace MediasoupDemo.Call

open Protoo

/-! ## Constants -/

/-- `MediasoupConstant.mediasoup_missed_time`. -/
def mediasoupMissedTime : Nat := 3 * 60 * 1000 + 30 * 1000

/-- `MediasoupConstant.MeidasoupState`. -/
inductive MeidasoupState where
  | SelfCalling
  | OtherCalling
  | SelfJoining
  | SelfConnected
  | Ongoing
  | Terminating
  | Ended
  deriving DecidableEq

/-- `MediasoupConstant.CallState`. -/
inductive CallState where
  | Started
  | Accepted
  | Rejected
  | Ended
  | Canceled
  | Missed
  deriving DecidableEq

namespace CallState

/-- `fromOrdinalType(index)`.  An unknown index is taken for an invitation. -/
def fromOrdinalType : Int → CallState
  | 1 => .Accepted
  | 2 => .Rejected
  | 3 => .Ended
  | 4 => .Canceled
  | 5 => .Missed
  | _ => .Started

def ordinal : CallState → Int
  | .Started => 0
  | .Accepted => 1
  | .Rejected => 2
  | .Ended => 3
  | .Canceled => 4
  | .Missed => 5

end CallState

/-- `MediasoupConstant.ConvType`. -/
inductive ConvType where
  | OneOnOne
  | Group
  | Conference
  deriving DecidableEq

namespace ConvType

/-- `fromOrdinalType(index)`. -/
def fromOrdinalType : Int → ConvType
  | 1 => .Group
  | 2 => .Conference
  | _ => .OneOnOne

def fromTypeOrdinal : Option ConvType → Int
  | none | some .OneOnOne => 0
  | some .Group => 1
  | some .Conference => 2

end ConvType

/-- `MediasoupConstant.CallType`. -/
inductive CallType where
  | Normal
  | Video
  | ForcedAudio
  deriving DecidableEq

namespace CallType

/-- `fromOrdinalType(index)`. -/
def fromOrdinalType : Int → CallType
  | 1 => .Video
  | 2 => .ForcedAudio
  | _ => .Normal

def fromTypeOrdinal : Option CallType → Int
  | none | some .Normal => 0
  | some .Video => 1
  | some .ForcedAudio => 2

end CallType

/-- `MediasoupConstant.ClosedReason`. -/
inductive ClosedReason where
  | Normal
  | Error
  | Timeout
  | LostMedia
  | Canceled
  | AnsweredElsewhere
  | IOError
  | StillOngoing
  | TimeoutEconn
  | DataChannel
  | Rejected

/-- `RoomClient.ConnectionState`. -/
inductive ConnectionState where
  | NEW
  | CONNECTING
  | CONNECTED
  | DISCONNECTED
  | CLOSED
  deriving DecidableEq

/-- What is left to the libraries. -/
structure CallLibrary extends OrgJson where
  /-- `a.equalsIgnoreCase(b)` -/
  equalsIgnoreCase : String → String → Bool

/-- A library that can parse the texts of the given objects, for texts in one case. -/
def CallLibrary.sample (objects : List JSONObject) : CallLibrary :=
  { OrgJson.sample objects with equalsIgnoreCase := fun a b => a = b }

/-- A value in the range of `int`. -/
def clampInt (n : Int) : Int := max (-2 ^ 31) (min n (2 ^ 31 - 1))

def optInt (lib : OrgJson) (object : JSONObject) (name : String) (fallback : Int) : Int :=
  match object.opt name with
  | some (.int n) => n.bmod (2 ^ 32)
  | some (.double d) => clampInt d.longValue
  | some (.string s) => ((lib.parseDouble s).map clampInt).getD fallback
  | _ => fallback

variable (lib : CallLibrary)

def optBoolean (object : JSONObject) (name : String) (fallback : Bool) : Bool :=
  match object.opt name with
  | some (.bool b) => b
  | some (.string s) =>
      if lib.equalsIgnoreCase "true" s then true
      else if lib.equalsIgnoreCase "false" s then false
      else fallback
  | _ => fallback

/-! ## The room -/

/-- A task that was posted to the main handler. -/
inductive Delayed where
  /-- of `acceptAnsweredTime` -/
  | acceptAnswered
  /-- of `waitAnsweredTime` -/
  | waitAnswered
  /-- of `closeWebSocketDestroyRoom` -/
  | destroyRoom (isFinish : Bool)
  deriving DecidableEq

structure RoomManagement where
  connectionState : Option ConnectionState := some .NEW
  /-- The number of the client. -/
  mRoomClient : Option Nat := none
  isOtherJoin : Bool := false
  isVisibleCall : Bool := true
  isMediasoupCalling : Bool := false
  /-- `managementCallback` is not null. -/
  hasCallback : Bool := true
  /-- How often `managementCallback.onFinishServiceActivity()` was called. -/
  finished : Nat := 0
  /-- The tasks that wait for the main handler. -/
  mMainHandler : DelayQueue Delayed := .empty
  /-- The time of the main handler. -/
  now : Nat := 0
  /-- How many clients were made. -/
  created : Nat := 0
  /-- The clients that were closed. -/
  closed : List Nat := []

variable (r : RoomManagement)

namespace RoomManagement

def isRoomConnecting : Bool :=
  r.isMediasoupCalling &&
    (r.connectionState = some .CONNECTED || r.connectionState = some .DISCONNECTED ||
      r.connectionState = some .CONNECTING)

def isRoomClosed : Bool :=
  match r.connectionState with
  | none => false
  | some state =>
      state = .CLOSED ||
        match r.mRoomClient with
        | none => true
        | some client => client ∈ r.closed

/-- `create()`.  The main handler is a new one. -/
def create : RoomManagement :=
  { r with isMediasoupCalling := true, mMainHandler := .empty }

/-- `mMainHandler.postDelayed(task, delay)`. -/
def postDelayed (task : Delayed) (delay : Nat) : RoomManagement :=
  { r with mMainHandler := r.mMainHandler.post (r.now + delay) task }

/-- The main handler has taken a task that was due, and the others remain. -/
def taken (due : Nat) (rest : DelayQueue Delayed) : RoomManagement :=
  { r with mMainHandler := rest, now := max r.now due }

/-- `mMainHandler.removeCallbacksAndMessages(null)`. -/
def removeCallbacksAndMessages : RoomManagement :=
  { r with mMainHandler := .empty }

/-- `mRoomClient = new RoomClient(...)`. -/
def newRoomClient : RoomManagement :=
  { r with mRoomClient := some r.created, created := r.created + 1 }

/-- `mRoomClient.close()`, if there is a client. -/
def closeClient : RoomManagement :=
  match r.mRoomClient with
  | none => r
  | some client => { r with closed := client :: r.closed }

/-- `managementCallback.onFinishServiceActivity()`, if there is a callback. -/
def finish : RoomManagement :=
  if r.hasCallback then { r with finished := r.finished + 1 } else r

def destroyRoom : RoomManagement :=
  { r.closeClient with isOtherJoin := false, isVisibleCall := false, mRoomClient := none }

/-- The room is destroyed, and the service is finished. -/
def destroyAndFinish (isFinish : Bool) : RoomManagement :=
  if isFinish then r.destroyRoom.finish else r.destroyRoom

/-- `closeVideoAndAudio()`: whether the client is running.  Its streams are switched off by
tasks of its own. -/
def closeVideoAndAudio : Bool :=
  r.mRoomClient.isSome && !r.isRoomClosed && r.isRoomConnecting

def closeWebSocketDestroyRoom (isFinish : Bool) : RoomManagement :=
  if r.closeVideoAndAudio then r.postDelayed (.destroyRoom isFinish) 200
  else r.destroyAndFinish isFinish

end RoomManagement

/-! ## The state of the call -/

/-- `MediasoupManagement.MediasoupHandler`, as far as it is asked. -/
structure MediasoupHandler where
  getCurAccountId : String
  getCurClientId : String

/-- What the handler is told. -/
inductive HandlerEvent where
  | onReady (isReady : Bool)
  | onSend (rConvId userId clientId incomingUserId incomingClientId : String) (message : JSONObject)
  | onIncomingCall (rConvId : String) (msgTime : Int) (userId : String)
      (videoCall shouldRing : Bool)
  | onMissedCall (rConvId : String) (msgTime : Int) (userId : String) (videoCall : Bool)
  | onAnsweredCall (rConvId : String)
  | onEstablishedCall (rConvId userId : String)
  | onClosedCall (reason : ClosedReason) (rConvId : String) (msgTime : Int) (userId : String)

/-- `MediasoupLoaderUtils`.  A text that is null is empty. -/
structure Loader where
  isInitMediasoup : Bool := false
  isCreateMediasoup : Bool := false
  curRConvId : String := ""
  curUserId : String := ""
  curClientId : String := ""
  mediasoupHandler : Option MediasoupHandler := none
  mediasoupCallType : Option CallType := none
  mediasoupConvType : Option ConvType := none
  isShouldRing : Bool := false
  meidasoupStart : Option MeidasoupState := none
  meidasoupTimely : Option MeidasoupState := none
  incomingUserId : String := ""
  incomingClientId : String := ""
  incomingDisplayName : String := ""
  incomingMsgTime : Int := 0
  /-- `roomManagement` is not null. -/
  hasRoom : Bool := false
  events : List HandlerEvent := []

/-- The two objects. -/
structure Calls extends Loader, RoomManagement

variable (l : Loader)

namespace Loader

def mediasoupInit : Loader := { l with isInitMediasoup := true }

def mediasoupCreate (userId clientId : String) (mediasoupH : Option MediasoupHandler) : Loader :=
  { l.mediasoupInit with
    curUserId := userId
    curClientId := clientId
    mediasoupHandler := mediasoupH
    isCreateMediasoup := true }

/-- `mediasoupStartCall(rConvId, callType, convType)`.  The service is started. -/
def mediasoupStartCall (rConvId : String) (callType convType : Int) : Loader :=
  { l with
    curRConvId := rConvId
    meidasoupStart := some .SelfCalling
    meidasoupTimely := some .SelfCalling
    mediasoupCallType := some (CallType.fromOrdinalType callType)
    mediasoupConvType := some (ConvType.fromOrdinalType convType) }

def getCurUserId : String :=
  if l.curUserId.isEmpty && l.isInitMediasoup then
    (l.mediasoupHandler.map MediasoupHandler.getCurAccountId).getD l.curUserId
  else l.curUserId

def getCurClientId : String :=
  if l.curClientId.isEmpty && l.isInitMediasoup then
    (l.mediasoupHandler.map MediasoupHandler.getCurClientId).getD l.curClientId
  else l.curClientId

def isReceiveCall : Bool := l.meidasoupStart = some .OtherCalling

def isSelfCalling : Bool := l.meidasoupStart = some .SelfCalling

def isVideoIncoming : Bool := l.mediasoupCallType = some .Video

def isOneOnOneCall : Bool :=
  l.mediasoupConvType = none || l.mediasoupConvType = some .OneOnOne

def isInitAndCreate : Bool := l.isInitMediasoup && l.isCreateMediasoup

/-- One more event. -/
def report (event : HandlerEvent) : Loader :=
  { l with events := l.events ++ [event] }

/-- `setRoomClientStoreOptions(roomClient, roomStore, roomOptions)`, with none of them null. -/
def setRoomClientStoreOptions : Loader :=
  if l.mediasoupHandler.isSome then
    l.report
      (.onReady (!l.curRConvId.isEmpty && !l.getCurUserId.isEmpty && !l.getCurClientId.isEmpty))
  else l

/-- The handler is told of something that belongs to a conversation. -/
def tell (rConvId : String) (event : HandlerEvent) : Loader :=
  if l.mediasoupHandler.isSome && !rConvId.isEmpty then l.report event else l

/-- The object that `sendMediasoupMsg` sends. -/
def message (callState : CallState) : JSONObject :=
  let object := JSONObject.put [] "call_state" (some (.int callState.ordinal))
  if callState = .Started then
    (object.put "call_type" (some (.int (CallType.fromTypeOrdinal l.mediasoupCallType)))).put
      "conv_type" (some (.int (ConvType.fromTypeOrdinal l.mediasoupConvType)))
  else object

def sendMediasoupMsg (callState : CallState) (rConvId : String) : Loader :=
  if !l.isInitAndCreate then l
  else
    l.tell rConvId (.onSend rConvId l.getCurUserId l.getCurClientId l.incomingUserId
      l.incomingClientId (l.message callState))

def incomingJoinMediasoup (rConvId : String) (msgTime : Int) (userId : String)
    (video_call should_ring : Bool) : Loader :=
  if !l.isInitAndCreate || !l.isReceiveCall then l
  else l.tell rConvId (.onIncomingCall rConvId msgTime userId video_call should_ring)

def missedJoinMediasoup : Loader :=
  if !l.isInitAndCreate then l
  else
    l.tell l.curRConvId
      (.onMissedCall l.curRConvId l.incomingMsgTime l.incomingUserId l.isVideoIncoming)

def answeredJoinMediasoup : Loader :=
  if !l.isInitAndCreate then l else l.tell l.curRConvId (.onAnsweredCall l.curRConvId)

def establishedJoinMediasoup : Loader :=
  if !l.isInitAndCreate then l
  else l.tell l.curRConvId (.onEstablishedCall l.curRConvId l.incomingUserId)

/-- The call is forgotten. -/
def reset : Loader :=
  { l with
    curRConvId := ""
    meidasoupStart := none
    meidasoupTimely := none
    incomingUserId := ""
    incomingClientId := ""
    incomingDisplayName := ""
    incomingMsgTime := 0
    mediasoupConvType := none
    mediasoupCallType := none
    isShouldRing := false }

/-- `mediasoupClose()`, where `connecting` is what `roomManagement.isRoomConnecting()` answers. -/
def mediasoupClose (connecting : Bool) : Loader :=
  if !l.hasRoom || !connecting then l.reset else l

def mediasoupDestroy (connecting : Bool) : Loader :=
  { l.mediasoupClose connecting with hasRoom := false }

def closedMediasoup (connecting : Bool) (closedReason : ClosedReason) (rConvId : String)
    (msgTime : Int) (userId : String) : Loader :=
  if !l.isInitAndCreate then l
  else
    (l.tell rConvId (.onClosedCall closedReason rConvId msgTime userId)).mediasoupClose connecting

end Loader

namespace Calls

variable (c : Calls)

/-- A method of the loader. -/
def loader (f : Loader → Loader) : Calls := { c with toLoader := f c.toLoader }

/-- A method of the room. -/
def room (f : RoomManagement → RoomManagement) : Calls :=
  { c with toRoomManagement := f c.toRoomManagement }

@[simp] theorem toLoader_loader (f : Loader → Loader) :
    (c.loader f).toLoader = f c.toLoader := rfl

/-- `isRoomConnecting()` of the loader. -/
def isRoomConnecting : Bool := c.hasRoom && c.toRoomManagement.isRoomConnecting

def closedMediasoup (closedReason : ClosedReason) (rConvId : String) (msgTime : Int)
    (userId : String) : Calls :=
  c.loader fun l =>
    l.closedMediasoup c.toRoomManagement.isRoomConnecting closedReason rConvId msgTime userId

/-- `closedMediasoup(closedReason)`. -/
def closedCurrent (closedReason : ClosedReason) : Calls :=
  c.closedMediasoup closedReason c.curRConvId c.incomingMsgTime c.incomingUserId

/-- `sendMediasoupMsg(callState)`. -/
def sendCurrent (callState : CallState) : Calls :=
  c.loader fun l => l.sendMediasoupMsg callState l.curRConvId

/-! ## Methods of the room -/

def createInitRoom : Calls :=
  (c.room RoomManagement.newRoomClient).loader Loader.setRoomClientStoreOptions

def closeWebSocketDestroyRoom (isFinish : Bool) : Calls :=
  c.room fun r => r.closeWebSocketDestroyRoom isFinish

def acceptAnsweredTime : Calls :=
  if !c.toRoomManagement.isRoomConnecting && c.isReceiveCall then
    c.room fun r => r.postDelayed .acceptAnswered mediasoupMissedTime
  else c.room RoomManagement.removeCallbacksAndMessages

def waitAnsweredTime : Calls :=
  if c.toRoomManagement.isRoomConnecting || !c.isSelfCalling then c
  else
    (c.sendCurrent .Started).room fun r => r.postDelayed .waitAnswered mediasoupMissedTime

/-- `joinMediasoupRoom()`.  The client joins on its own thread. -/
def joinMediasoupRoom : Calls :=
  if c.mRoomClient.isNone then c else c.waitAnsweredTime

def establishedJoinMediasoup : Calls :=
  (c.room RoomManagement.removeCallbacksAndMessages).loader Loader.establishedJoinMediasoup

/-- `isOtherJoin = otherJoin`. -/
def setOtherJoin (otherJoin : Bool) : Calls :=
  c.room fun r => { r with isOtherJoin := otherJoin }

def onConnectSuc : Calls := (c.setOtherJoin false).loader Loader.answeredJoinMediasoup

def onConnectFail : Calls :=
  ((c.setOtherJoin false).closedCurrent .Error).room RoomManagement.closeClient

def onConnectDisconnected : Calls := c.setOtherJoin false

def onConnectClose : Calls := (c.setOtherJoin false).closedCurrent .Normal

def onJoinSuc : Calls := if c.isReceiveCall then c.establishedJoinMediasoup else c

def onJoinFail : Calls := (c.setOtherJoin false).closedCurrent .Error

def onSelfOtherAcceptCall : Calls :=
  (c.closedCurrent .Normal).closeWebSocketDestroyRoom true

def onOtherAcceptCall : Calls :=
  if c.isSelfCalling then c.establishedJoinMediasoup else c

/-- The other side ends a call that is not one of a group. -/
def onOtherLeave (closedReason : ClosedReason) : Calls :=
  if c.isOneOnOneCall then (c.closedCurrent closedReason).closeWebSocketDestroyRoom true else c

def onOtherRejectCall : Calls := c.onOtherLeave .Rejected

def onOtherEndCall : Calls := c.onOtherLeave .Normal

def onOtherMissedCall : Calls := c.onOtherLeave .TimeoutEconn

def onOtherCloseCall : Calls :=
  ((c.closedCurrent .Canceled).closeWebSocketDestroyRoom false).room RoomManagement.finish

def callSelfEnd : Calls :=
  ((c.sendCurrent .Ended).closedCurrent .Normal).closeWebSocketDestroyRoom true

/-- `callSelfCancel()`.  The call is closed before the message is sent. -/
def callSelfCancel : Calls :=
  ((c.closedCurrent .Canceled).sendCurrent .Canceled).closeWebSocketDestroyRoom true

def callSelfReject : Calls :=
  (((c.sendCurrent .Rejected).closedCurrent .Rejected).closeWebSocketDestroyRoom false).room
    RoomManagement.finish

def destroy : Calls :=
  let c := c.closeWebSocketDestroyRoom false
  let c := c.room fun r =>
    { r.removeCallbacksAndMessages with isMediasoupCalling := false, hasCallback := false }
  let c := c.closedCurrent .Normal
  c.loader fun l => l.mediasoupDestroy c.toRoomManagement.isRoomConnecting

/-! ## Delayed tasks -/

/-- Nobody has answered. -/
def missed : Calls :=
  ((c.sendCurrent .Missed).loader Loader.missedJoinMediasoup).closedCurrent .TimeoutEconn

def runTask : Delayed → Calls
  | .acceptAnswered => if !c.toRoomManagement.isRoomConnecting then c.missed else c
  | .waitAnswered =>
      if !c.toRoomManagement.isRoomConnecting || !c.isOtherJoin then
        c.missed.closeWebSocketDestroyRoom true
      else c
  | .destroyRoom isFinish => c.room fun r => r.destroyAndFinish isFinish

/-- The main handler runs the task that is due first. -/
def runNext : Calls :=
  match c.mMainHandler.next with
  | none => c
  | some ((due, task), rest) => (c.room fun r => r.taken due rest).runTask task

/-! ## Messages -/

end Calls

/-- The arguments of `receiveCallMessage`. -/
structure CallMessage where
  msg : String
  curTime : Int
  msgTime : Int
  rConvId : String
  userId : String
  clientId : String
  isMediasoup : Bool

/-- `curTime - msgTime > MediasoupConstant.mediasoup_missed_time`, in `long` arithmetic. -/
def CallMessage.isLate (m : CallMessage) : Bool :=
  (m.curTime - m.msgTime).bmod (2 ^ 64) > mediasoupMissedTime

/-- What an invitation sets. -/
def Loader.takeInvitation (l : Loader) (m : CallMessage) (object : JSONObject) : Loader :=
  { l with
    curRConvId := m.rConvId
    incomingUserId := m.userId
    incomingClientId := m.clientId
    incomingDisplayName := ""
    incomingMsgTime := m.msgTime
    mediasoupCallType :=
      some (CallType.fromOrdinalType (optInt lib.toOrgJson object "call_type" (-1)))
    mediasoupConvType :=
      some (ConvType.fromOrdinalType (optInt lib.toOrgJson object "conv_type" (-1)))
    isShouldRing := optBoolean lib object "should_ring" true
    meidasoupStart := some .OtherCalling
    meidasoupTimely := some .OtherCalling }

namespace Calls

/-- `!TextUtils.isEmpty(a) && a.equalsIgnoreCase(b)`. -/
def same (a b : String) : Bool := !a.isEmpty && lib.equalsIgnoreCase a b

variable (c : Calls) (m : CallMessage)

/-- `closedMediasoup(closedReason, rConvId, msgTime, userId)`, with the arguments of a message. -/
def closedFor (closedReason : ClosedReason) : Calls :=
  c.closedMediasoup closedReason m.rConvId m.msgTime m.userId

/-- An invitation becomes the current call. -/
def invited (object : JSONObject) : Calls :=
  c.loader fun l =>
    let l := l.takeInvitation lib m object
    l.incomingJoinMediasoup m.rConvId m.msgTime m.userId l.isVideoIncoming l.isShouldRing

/-- The branch for `Started`. -/
def onStarted (object : JSONObject) : Calls :=
  if c.isRoomConnecting then
    if !same lib c.curRConvId m.rConvId then
      (c.loader fun l => l.sendMediasoupMsg .Canceled m.rConvId).closedFor m .AnsweredElsewhere
    else c.loader fun l => l.sendMediasoupMsg .Accepted m.rConvId
  else if m.isLate then
    (c.loader Loader.missedJoinMediasoup).closedFor m .Timeout
  else if same lib c.getCurUserId m.userId then
    if !same lib c.getCurClientId m.clientId then c.closedFor m .AnsweredElsewhere else c
  else invited lib c m object

/-- The branch for `Accepted`. -/
def onAccepted : Calls :=
  if !same lib c.curRConvId m.rConvId then c.closedFor m .AnsweredElsewhere
  else if same lib c.getCurUserId m.userId then
    if !same lib c.getCurClientId m.clientId then
      if c.hasRoom then c.onSelfOtherAcceptCall else c.closedFor m .Normal
    else c
  else if c.hasRoom then c.onOtherAcceptCall
  else if c.isOneOnOneCall then c.closedFor m .Canceled
  else c

/-- The branches for `Rejected`, `Ended` and `Missed`: the reason for another conversation,
that for a call without a room, and the method of the room. -/
def onLeft (otherReason reason : ClosedReason) (onOther : Calls → Calls) : Calls
    :=
  if !same lib c.curRConvId m.rConvId then c.closedFor m otherReason
  else if same lib c.getCurUserId m.userId then c
  else if c.hasRoom then onOther c
  else if c.isOneOnOneCall then c.closedFor m reason
  else c

/-- The branch for `Canceled`.  It does not ask whether the call is one of a group. -/
def onCanceled : Calls :=
  if !same lib c.curRConvId m.rConvId then c.closedFor m .Canceled
  else if same lib c.getCurUserId m.userId then c
  else if c.hasRoom then c.onOtherCloseCall
  else c.closedFor m .Canceled

/-- The branches over the state of the message. -/
def dispatch (object : JSONObject) : Calls :=
  match CallState.fromOrdinalType (optInt lib.toOrgJson object "call_state" (-1)) with
  | .Started => c.onStarted lib m object
  | .Accepted => c.onAccepted lib m
  | .Rejected => c.onLeft lib m .Rejected .Canceled onOtherRejectCall
  | .Ended => c.onLeft lib m .Normal .Normal onOtherEndCall
  | .Canceled => c.onCanceled lib m
  | .Missed => c.onLeft lib m .TimeoutEconn .TimeoutEconn onOtherMissedCall

/-- `receiveCallMessage(...)`. -/
def receiveCallMessage : Calls :=
  if !m.isMediasoup then c
  else
    let c := c.loader Loader.mediasoupInit
    if m.msg.isEmpty then c.closedFor m .IOError
    else
      match lib.parse m.msg with
      | none => c.closedFor m .IOError
      | some object => c.dispatch lib m object

end Calls

end MediasoupDemo.Call
