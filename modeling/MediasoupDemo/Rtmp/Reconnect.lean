import MediasoupDemo.Rtmp.ConnectUrl
import MediasoupDemo.Runtime.Method

/-!
# A further `connect` on a connected connection

`RtmpConnection.connect` sets the fields of the URL, makes a session, a decoder and a socket,
opens the streams and starts the receiving thread.  Only then does `rtmpConnect` look whether
the connection is connected.

* `InUse` is what a session works with.  An object is the number of objects made before it.
* `Dial` says how far the new socket comes.
* `rest` is what `rtmpConnect` does on a connection that is not connected.  Nothing is assumed
  about it.

Behind the URL the call returns `false`, but not before the session has been replaced
(`run_openSession`).
-/

namespace MediasoupDemo.Rtmp

open MediasoupDemo.Runtime Method

/-- The objects and the names of a session. -/
structure InUse where
  rtmpSessionInfo : Nat
  rtmpDecoder : Nat
  socket : Nat
  inputStream : Nat
  outputStream : Nat
  rxPacketHandler : Nat
  appName : Option (List Char)
  streamName : Option (List Char)
  deriving DecidableEq

/-- The fields of `RtmpConnection` that `connect` uses. -/
structure ConnectState where
  inUse : InUse
  connected : Bool
  /-- the number of objects made so far -/
  made : Nat
  tcUrl : List Char := []
  swfUrl : String := ""
  pageUrl : String := ""
  host : List Char := []
  port : Int := 0
  /-- what `mHandler` was told -/
  notified : List JavaException := []

/-- The operation on the new socket that throws an `IOException`, if one does. -/
inductive Dial where
  | connect (message : String)
  | getInputStream (message : String)
  | getOutputStream (message : String)
  | handshake (message : String)
  | established

namespace ConnectState

/-- `new`, and the field that takes the object. -/
def make (field : Nat → InUse → InUse) : Method ConnectState Unit :=
  modify fun c => { c with inUse := field c.made c.inUse, made := c.made + 1 }

/-- `mHandler` is told, and `false` returned. -/
def refuse (e : JavaException) : Method ConnectState Bool := do
  modify fun c => { c with notified := c.notified ++ [e] }
  pure false

def invalidUrl : JavaException :=
  .illegalArgument
    "Invalid RTMP URL. Must be in format: rtmp://host[:port]/application/streamName"

/-- The streams that the `try` block makes before it ends or throws. -/
def openStreams : Dial → Method ConnectState Unit
  | .connect _ | .getInputStream _ => pure ()
  | .getOutputStream _ => make fun id s => { s with inputStream := id }
  | .handshake _ | .established => do
      make fun id s => { s with inputStream := id }
      make fun id s => { s with outputStream := id }

def rtmpConnect (rest : Method ConnectState Bool) : Method ConnectState Bool := do
  if (← get).connected then refuse (.illegalState "Already connected to RTMP server") else rest

/-- What follows the `try` block. -/
def afterStreams (rest : Method ConnectState Bool) : Dial → Method ConnectState Bool
  | .connect message | .getInputStream message | .getOutputStream message | .handshake message =>
      refuse (.io message)
  | .established => do
      make fun id s => { s with rxPacketHandler := id }
      rtmpConnect rest

/-- The part of `connect` behind the URL. -/
def openSession (rest : Method ConnectState Bool) (dial : Dial) (port : Int) :
    Method ConnectState Bool := do
  make fun id s => { s with rtmpSessionInfo := id }
  make fun id s => { s with rtmpDecoder := id }
  make fun id s => { s with socket := id }
  MonadExcept.ofExcept (checkPort port)
  openStreams dial
  afterStreams rest dial

/-- The fields that are set before the port is read. -/
def setHost (url : List Char) (groups : Nat → Option (List Char)) (c : ConnectState) :
    ConnectState :=
  { c with
    tcUrl := beforeLastSlash url, swfUrl := "", pageUrl := "", host := (groups 1).getD [] }

/-- The fields that are set then. -/
def setNames (port : Int) (groups : Nat → Option (List Char)) (c : ConnectState) : ConnectState :=
  { c with port, inUse := { c.inUse with appName := groups 4, streamName := groups 6 } }

def connect (rest : Method ConnectState Bool) (dial : Dial) (url : List Char) :
    Method ConnectState Bool := do
  match rtmpUrlPattern.wholeMatch url with
  | none => refuse invalidUrl
  | some groups =>
      modify (setHost url groups)
      let port ← MonadExcept.ofExcept (((groups 3).map parseInt).getD (pure 1935))
      modify (setNames port groups)
      match groups 6, groups 4 with
      | some _, some _ => openSession rest dial port
      | _, _ => refuse invalidUrl

/-- A connection that is connected, with a socket that exists. -/
structure Connected where
  state : ConnectState
  isConnected : state.connected = true
  socket_lt : state.inUse.socket < state.made

variable {url : List Char} {rest : Method ConnectState Bool} {dial : Dial} {port : Int}

/-- Behind the URL the socket is replaced, however far the new one comes, and a connected
connection returns `false`. -/
theorem run_openSession {c : ConnectState} (hport : checkPort port = .ok ())
    (hconnected : c.connected = true) :
    ∃ c', (openSession rest dial port).run c = .ok false c' ∧ c'.inUse.socket = c.made + 2 := by
  simp only [openSession, make, run_modify_bind]
  rw [run_ofExcept_bind hport]
  cases dial with
  | connect message | getInputStream message | getOutputStream message | handshake message =>
    exact ⟨_, rfl, rfl⟩
  | established =>
    simp only [openStreams, afterStreams, rtmpConnect, make, bind_assoc, run_modify_bind,
      run_get_bind, hconnected, if_true]
    exact ⟨_, rfl, rfl⟩

theorem run_openSession_error {e : JavaException} (hport : checkPort port = .error e)
    (c : ConnectState) : ∃ c', (openSession rest dial port).run c = .error e c' := by
  simp only [openSession, make, run_modify_bind]
  exact ⟨_, run_ofExcept_bind_error hport _ _⟩

/-- A URL that is refused leaves its names. -/
theorem refuse_iff {groups : Nat → Option (List Char)} {c : ConnectState} (e : JavaException) :
    (∃ c', (refuse e).run (setNames port groups (setHost url groups c)) = .ok false c' ∧
      c'.inUse = c.inUse) ↔ groups 4 = c.inUse.appName ∧ groups 6 = c.inUse.streamName := by
  constructor
  · rintro ⟨c', hrun, hsame⟩
    cases hrun
    exact ⟨congrArg InUse.appName hsame, congrArg InUse.streamName hsame⟩
  · rintro ⟨happ, hstream⟩
    refine ⟨_, rfl, ?_⟩
    show { c.inUse with appName := groups 4, streamName := groups 6 } = c.inUse
    rw [happ, hstream]

/-- A call that returns `false` and leaves the session as it was. -/
def Untouched (c : ConnectState) (x : Method ConnectState Bool) : Prop :=
  ∃ c', x.run c = .ok false c' ∧ c'.inUse = c.inUse

/-- A further call leaves the session as it was just when the URL is refused and, if it matches,
names what is in use. -/
theorem untouched_iff (c : Connected) (rest : Method ConnectState Bool) (dial : Dial)
    (url : List Char) :
    c.state.Untouched (connect rest dial url) ↔
      Rtmp.connect url = .ok none ∧ ∀ groups, rtmpUrlPattern.wholeMatch url = some groups →
        groups 4 = c.state.inUse.appName ∧ groups 6 = c.state.inUse.streamName := by
  rw [Untouched, connect, Rtmp.connect]
  cases hmatch : rtmpUrlPattern.wholeMatch url with
  | none =>
    refine iff_of_true ⟨_, rfl, rfl⟩ ⟨rfl, fun groups h => ?_⟩
    cases h
  | some groups =>
    simp only [Option.some.injEq, forall_eq', run_modify_bind]
    cases hport : ((groups 3).map parseInt).getD (pure 1935) with
    | error e =>
      rw [run_ofExcept_bind_error rfl]
      simp [bind, Except.bind]
    | ok port =>
      rw [run_ofExcept_bind rfl, run_modify_bind]
      simp only [bind, Except.bind]
      cases hstream : groups 6 with
      | none => exact (refuse_iff _).trans (by simp [pure, Except.pure, hstream])
      | some streamName =>
        cases happ : groups 4 with
        | none => exact (refuse_iff _).trans (by simp [pure, Except.pure, hstream, happ])
        | some appName =>
          refine iff_of_false ?_ ?_
          · rintro ⟨c', hrun, hsame⟩
            cases hcheck : checkPort port with
            | error e =>
              obtain ⟨c'', herror⟩ := run_openSession_error hcheck _
              cases herror.symm.trans hrun
            | ok _ =>
              obtain ⟨c'', hrun', hsocket⟩ := @run_openSession rest dial port
                (setNames port groups (setHost url groups c.state)) hcheck c.isConnected
              cases hrun'.symm.trans hrun
              rw [hsame] at hsocket
              exact absurd hsocket (Nat.ne_of_lt (Nat.lt_add_right 2 c.socket_lt))
          · rintro ⟨hnone, -⟩
            cases hcheck : checkPort port with
            | error e => simp [hcheck] at hnone
            | ok _ => simp [hcheck, pure, Except.pure] at hnone

/-- A connection that publishes the stream `s` of the application `a`. -/
def publishing : Connected where
  state :=
    { inUse := ⟨0, 1, 2, 3, 4, 5, some ['a'], some ['s']⟩, connected := true, made := 6 }
  isConnected := rfl
  socket_lt := by decide

/-- The same URL again: everything but the names is replaced. -/
theorem not_untouched_sameUrl :
    Rtmp.connect "rtmp://h/a/s".toList =
        .ok (some ⟨"rtmp://h/a".toList, ['h'], 1935, ['a'], ['s']⟩) ∧
      (connect (pure true) .established "rtmp://h/a/s".toList).run' publishing.state = some false ∧
      (final (connect (pure true) .established "rtmp://h/a/s".toList) publishing.state).inUse =
        ⟨6, 7, 8, 9, 10, 11, some ['a'], some ['s']⟩ := by
  decide +kernel

end ConnectState

end MediasoupDemo.Rtmp
