import MediasoupDemo.Lib.DelayQueue
import MediasoupDemo.Lib.Trace

/-!
# The web socket of the transport

`WebSocketTransport` opens a web socket, and opens another one when it fails.  How long it waits
before that, and when it gives up, is up to its `RetryStrategy`.

* OkHttp reports what becomes of a socket: it opens, it is closed, or it fails, which it may do
  before it opens.  OkHttp runs one socket at a time here, as the next one is opened by the task
  that the failure of the last one has posted (`SocketState`).  What it reports of no socket is
  ignored by `step`.
* The handler of the transport runs its tasks in the order in which they are due (`Job`).
* `history` lists what the listener was told, the delays of the tasks that were posted and the
  sockets that they opened.

Messages are left out.
-/

namespace MediasoupDemo.Socket

/-- `WebSocketTransport.RetryStrategy`. -/
structure RetryStrategy where
  retries : Nat
  factor : Nat
  minTimeout : Nat
  maxTimeout : Nat
  retryCount : Nat := 1

namespace RetryStrategy

def retried (s : RetryStrategy) : RetryStrategy := { s with retryCount := s.retryCount + 1 }

/-- `Math.min((int) (minTimeout * Math.pow(factor, n)), maxTimeout)`.  The cast stops at the
largest `int`, far below the numbers that a `double` has to round. -/
def interval (s : RetryStrategy) (n : Nat) : Nat :=
  min (min (s.minTimeout * s.factor ^ n) (2 ^ 31 - 1)) s.maxTimeout

/-- `getReconnectInterval()`, with `none` for -1. -/
def getReconnectInterval (s : RetryStrategy) : Option Nat :=
  if s.retryCount > s.retries then none else some (s.interval s.retryCount)

def reset (s : RetryStrategy) : RetryStrategy :=
  if s.retryCount ≠ 0 then { s with retryCount := 0 } else s

theorem reset_eq (s : RetryStrategy) : s.reset = { s with retryCount := 0 } := by
  unfold reset
  split
  · rfl
  · rename_i hzero
    rw [← not_not.mp hzero]

end RetryStrategy

/-- `AbsWebSocketTransport.Listener`, without `onMessage`. -/
inductive ListenerCall where
  | onOpen
  | onFail
  | onDisconnected
  | onClose
  deriving DecidableEq

/-- What the transport has done. -/
inductive Mark where
  /-- a call of the listener -/
  | listener (call : ListenerCall)
  /-- a task that opens a socket again was posted -/
  | scheduled (interval : Nat)
  /-- the task has opened a socket -/
  | reconnected
  deriving DecidableEq

/-- A task of the handler. -/
inductive Job where
  /-- of `connect` -/
  | newWebSocket
  /-- of `scheduleReconnect` -/
  | reconnect

/-- The socket that OkHttp runs. -/
inductive SocketState where
  | idle
  | connecting
  | opened
  deriving DecidableEq

structure WebSocketTransport where
  mClosed : Bool := false
  mConnected : Bool := false
  mRetryStrategy : RetryStrategy :=
    { retries := 10, factor := 2, minTimeout := 1000, maxTimeout := 8 * 1000 }
  mOkHttpClient : SocketState := .idle
  /-- The tasks that wait for the handler. -/
  mHandler : DelayQueue Job := .empty
  /-- The time of the handler. -/
  now : Nat := 0
  history : List Mark := []

namespace WebSocketTransport

def tell (t : WebSocketTransport) (call : ListenerCall) : WebSocketTransport :=
  { t with history := t.history ++ [.listener call] }

/-- `connect(listener)`. -/
def connect (t : WebSocketTransport) : WebSocketTransport :=
  { t with mHandler := t.mHandler.post t.now .newWebSocket }

def newWebSocket (t : WebSocketTransport) : WebSocketTransport :=
  { t with mOkHttpClient := .connecting }

/-- `scheduleReconnect()`, with `none` for false. -/
def scheduleReconnect (t : WebSocketTransport) : Option WebSocketTransport :=
  t.mRetryStrategy.getReconnectInterval.map fun interval =>
    { t with
      mHandler := t.mHandler.post (t.now + interval) .reconnect
      history := t.history ++ [.scheduled interval] }

/-- A task of the handler. -/
def runJob (t : WebSocketTransport) : Job → WebSocketTransport
  | .newWebSocket => t.newWebSocket
  | .reconnect =>
      if t.mClosed then t
      else
        { t.newWebSocket with
          mRetryStrategy := t.mRetryStrategy.retried
          history := t.history ++ [.reconnected] }

/-- The handler runs the task that is due first. -/
def runNext (t : WebSocketTransport) : WebSocketTransport :=
  match t.mHandler.next with
  | none => t
  | some ((due, job), rest) => ({ t with mHandler := rest, now := max t.now due }).runJob job

/-- `close()`.  The socket is closed by a task, after which its reports are ignored. -/
def close (t : WebSocketTransport) : WebSocketTransport :=
  if t.mClosed then t else { t with mClosed := true }

def onOpen (t : WebSocketTransport) : WebSocketTransport :=
  if t.mClosed then t
  else
    let t := ({ t with mConnected := true }).tell .onOpen
    { t with mRetryStrategy := t.mRetryStrategy.reset }

/-- `onClosed(webSocket, code, reason)`. -/
def onClosed (t : WebSocketTransport) : WebSocketTransport :=
  if t.mClosed then t
  else
    ({ t with
      mClosed := true
      mConnected := false
      mRetryStrategy := t.mRetryStrategy.reset }).tell .onClose

def onFailure (t : WebSocketTransport) : WebSocketTransport :=
  if t.mClosed then t
  else
    match t.scheduleReconnect with
    | some t => if t.mConnected then t.tell .onDisconnected else t.tell .onFail
    | none =>
        let t := ({ t with mClosed := true }).tell .onClose
        { t with mRetryStrategy := t.mRetryStrategy.reset }

end WebSocketTransport

/-- A report of OkHttp, a call of `close`, or a task of the handler. -/
inductive SocketEvent where
  | onOpen
  | onClosed
  | onFailure
  | close
  | runNext
  /-- Time passes. -/
  | elapse (time : Nat)

namespace WebSocketTransport

/-- What happens at an event. -/
def step (t : WebSocketTransport) : SocketEvent → WebSocketTransport
  | .onOpen =>
      if t.mOkHttpClient = .connecting then ({ t with mOkHttpClient := .opened }).onOpen else t
  | .onClosed =>
      if t.mOkHttpClient = .opened then ({ t with mOkHttpClient := .idle }).onClosed else t
  | .onFailure =>
      if t.mOkHttpClient = .idle then t else ({ t with mOkHttpClient := .idle }).onFailure
  | .close => t.close
  | .runNext => t.runNext
  | .elapse time => { t with now := t.now + time }

/-- The transport right after `connect`. -/
def start : WebSocketTransport := ({} : WebSocketTransport).connect

/-! ## What an event does -/

variable {t t' : WebSocketTransport}

theorem runNext_of_none (h : t.mHandler.next = none) : t.runNext = t := by
  unfold runNext
  rw [h]

theorem runNext_of_some {job : Job} {due : Nat} {rest : DelayQueue Job}
    (h : t.mHandler.next = some ((due, job), rest)) :
    t.runNext = ({ t with mHandler := rest, now := max t.now due }).runJob job := by
  unfold runNext
  rw [h]

/-- What the listener is told about a failure after which another socket is tried. -/
def lossCall (t : WebSocketTransport) : ListenerCall :=
  if t.mConnected then .onDisconnected else .onFail

/-- What an event does to a transport, its time apart. -/
inductive Moves (e : SocketEvent) (t t' : WebSocketTransport) : Prop
  /-- A transport that is closed does nothing any more. -/
  | closed (h : t.mClosed = true) (hclosed : t'.mClosed = true)
      (hhistory : t'.history = t.history) (hstrategy : t'.mRetryStrategy = t.mRetryStrategy)
  | stays (hclosed : t'.mClosed = t.mClosed) (hhistory : t'.history = t.history)
      (hstrategy : t'.mRetryStrategy = t.mRetryStrategy)
      (hsocket : t'.mOkHttpClient = t.mOkHttpClient) (hqueue : t'.mHandler = t.mHandler)
      (hconnected : t'.mConnected = t.mConnected)
  | closes (h : t.mClosed = false) (hclosed : t'.mClosed = true)
      (hhistory : t'.history = t.history ∨ t'.history = t.history ++ [.listener .onClose])
      (hstrategy : ∃ n, t'.mRetryStrategy = { t.mRetryStrategy with retryCount := n })
  | opens (h : t.mClosed = false) (hsocket : t.mOkHttpClient ≠ .idle) (hclosed : t'.mClosed = false)
      (hhistory : t'.history = t.history ++ [.listener .onOpen])
      (hstrategy : t'.mRetryStrategy = { t.mRetryStrategy with retryCount := 0 })
      (hsocket' : t'.mOkHttpClient ≠ .idle) (hqueue : t'.mHandler = t.mHandler)
      (hconnected : t'.mConnected = true)
  | fails (he : e = .onFailure) (h : t.mClosed = false) (hsocket : t.mOkHttpClient ≠ .idle)
      (hcount : t.mRetryStrategy.retryCount ≤ t.mRetryStrategy.retries)
      (hclosed : t'.mClosed = false)
      (hhistory : t'.history = t.history ++
        [.scheduled (t.mRetryStrategy.interval t.mRetryStrategy.retryCount), .listener t.lossCall])
      (hstrategy : t'.mRetryStrategy = t.mRetryStrategy) (hsocket' : t'.mOkHttpClient = .idle)
      (hqueue : ∃ due, t'.mHandler = t.mHandler.post due .reconnect)
      (hconnected : t'.mConnected = t.mConnected)
  | connects (h : t.mClosed = false)
      (hnext : ∃ due rest, t.mHandler.next = some ((due, .newWebSocket), rest) ∧ t'.mHandler = rest)
      (hclosed : t'.mClosed = false) (hhistory : t'.history = t.history)
      (hstrategy : t'.mRetryStrategy = t.mRetryStrategy) (hsocket' : t'.mOkHttpClient ≠ .idle)
      (hconnected : t'.mConnected = t.mConnected)
  | reconnects (h : t.mClosed = false)
      (hnext : ∃ due rest, t.mHandler.next = some ((due, .reconnect), rest) ∧ t'.mHandler = rest)
      (hclosed : t'.mClosed = false) (hhistory : t'.history = t.history ++ [.reconnected])
      (hstrategy : t'.mRetryStrategy = t.mRetryStrategy.retried)
      (hsocket' : t'.mOkHttpClient ≠ .idle)
      (hconnected : t'.mConnected = t.mConnected)

theorem moves_runNext (t : WebSocketTransport) : Moves .runNext t t.runNext := by
  cases hnext : t.mHandler.next with
  | none =>
    rw [runNext_of_none hnext]
    exact .stays rfl rfl rfl rfl rfl rfl
  | some first =>
    obtain ⟨⟨due, job⟩, rest⟩ := first
    rw [runNext_of_some hnext]
    cases hclosed : t.mClosed with
    | true =>
      cases job with
      | newWebSocket => exact .closed hclosed rfl rfl rfl
      | reconnect => exact .closed hclosed rfl rfl rfl
    | false =>
      cases job with
      | newWebSocket =>
        exact .connects hclosed ⟨due, rest, hnext, rfl⟩ rfl rfl rfl SocketState.noConfusion rfl
      | reconnect =>
        exact .reconnects hclosed ⟨due, rest, hnext, rfl⟩ rfl rfl rfl SocketState.noConfusion rfl

/-- A failure posts a task with the next delay of the strategy, or it closes the transport. -/
theorem onFailure_cases (hclosed : t.mClosed = false) :
    (t.mRetryStrategy.retryCount ≤ t.mRetryStrategy.retries ∧
        t.onFailure =
          { t with
            mHandler := t.mHandler.post
              (t.now + t.mRetryStrategy.interval t.mRetryStrategy.retryCount) .reconnect
            history := t.history ++
              [.scheduled (t.mRetryStrategy.interval t.mRetryStrategy.retryCount),
                .listener t.lossCall] }) ∨
      (t.mRetryStrategy.retries < t.mRetryStrategy.retryCount ∧
        t.onFailure =
          { t with
            mClosed := true
            mRetryStrategy := { t.mRetryStrategy with retryCount := 0 }
            history := t.history ++ [.listener .onClose] }) := by
  unfold onFailure scheduleReconnect RetryStrategy.getReconnectInterval
  rw [if_neg (by simp [hclosed])]
  by_cases hcount : t.mRetryStrategy.retryCount > t.mRetryStrategy.retries
  · refine .inr ⟨hcount, ?_⟩
    rw [if_pos hcount, ← RetryStrategy.reset_eq]
    rfl
  · refine .inl ⟨Nat.le_of_not_lt hcount, ?_⟩
    rw [if_neg hcount, Option.map_some, lossCall]
    cases hconnected : t.mConnected with
    | true =>
      show tell _ _ = _
      rw [tell, List.append_assoc]
      rfl
    | false =>
      show tell _ _ = _
      rw [tell, List.append_assoc]
      rfl

/-- What a failure of the running socket adds to the history. -/
theorem history_step_onFailure (hclosed : t.mClosed = false) (hsocket : t.mOkHttpClient ≠ .idle) :
    (t.mRetryStrategy.retryCount ≤ t.mRetryStrategy.retries ∧ ∃ interval,
        (t.step .onFailure).history = t.history ++ [.scheduled interval, .listener t.lossCall]) ∨
      (t.mRetryStrategy.retries < t.mRetryStrategy.retryCount ∧
        (t.step .onFailure).mClosed = true ∧
        (t.step .onFailure).history = t.history ++ [.listener .onClose]) := by
  rw [step, if_neg hsocket]
  rcases onFailure_cases (t := { t with mOkHttpClient := .idle }) hclosed with
    ⟨hcount, heq⟩ | ⟨hcount, heq⟩
  · exact .inl ⟨hcount, _, congrArg history heq⟩
  · exact .inr ⟨hcount, congrArg mClosed heq, congrArg history heq⟩

theorem moves_onFailure (hsocket : t.mOkHttpClient ≠ .idle) :
    Moves .onFailure t ({ t with mOkHttpClient := .idle } : WebSocketTransport).onFailure := by
  cases hclosed : t.mClosed with
  | true => exact .closed hclosed rfl rfl rfl
  | false =>
    rcases onFailure_cases (t := { t with mOkHttpClient := .idle }) hclosed with
      ⟨hcount, heq⟩ | ⟨-, heq⟩
    · rw [hclosed] at heq
      rw [heq]
      exact .fails rfl hclosed hsocket hcount rfl rfl rfl rfl ⟨_, rfl⟩ rfl
    · rw [hclosed] at heq
      rw [heq]
      exact .closes hclosed rfl (.inr rfl) ⟨0, rfl⟩

theorem moves_onOpen (hsocket : t.mOkHttpClient = .connecting) :
    Moves .onOpen t ({ t with mOkHttpClient := .opened } : WebSocketTransport).onOpen := by
  unfold onOpen
  split
  · rename_i hclosed
    exact .closed hclosed hclosed rfl rfl
  · rename_i hclosed
    have hclosed : t.mClosed = false := Bool.eq_false_of_not_eq_true hclosed
    refine .opens hclosed ?_ hclosed rfl (RetryStrategy.reset_eq _) SocketState.noConfusion rfl rfl
    rw [hsocket]
    exact SocketState.noConfusion

theorem moves_onClosed (t : WebSocketTransport) :
    Moves .onClosed t ({ t with mOkHttpClient := .idle } : WebSocketTransport).onClosed := by
  unfold onClosed
  split
  · rename_i hclosed
    exact .closed hclosed hclosed rfl rfl
  · rename_i hclosed
    exact .closes (Bool.eq_false_of_not_eq_true hclosed) rfl (.inr rfl)
      ⟨0, RetryStrategy.reset_eq _⟩

theorem moves_step (t : WebSocketTransport) (e : SocketEvent) : Moves e t (t.step e) := by
  have hstays : Moves e t t := .stays rfl rfl rfl rfl rfl rfl
  cases e with
  | onOpen =>
    show Moves _ t (ite _ _ _)
    split
    · exact moves_onOpen ‹_›
    · exact hstays
  | onClosed =>
    show Moves _ t (ite _ _ _)
    split
    · exact moves_onClosed t
    · exact hstays
  | onFailure =>
    show Moves _ t (ite _ _ _)
    split
    · exact hstays
    · exact moves_onFailure ‹_›
  | close =>
    show Moves _ t (ite _ _ _)
    split
    · exact hstays
    · exact .closes (Bool.eq_false_of_not_eq_true ‹_›) rfl (.inl rfl) ⟨_, rfl⟩
  | runNext => exact moves_runNext t
  | elapse time => exact .stays rfl rfl rfl rfl rfl rfl

end WebSocketTransport

end MediasoupDemo.Socket
