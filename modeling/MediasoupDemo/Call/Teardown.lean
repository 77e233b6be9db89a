import MediasoupDemo.Call.Signalling
import MediasoupDemo.Lib.Trace

/-!
# The end of a room

`closeWebSocketDestroyRoom` closes the client at once, or 200 ms later by a task of the main
handler if the room is running.  The task closes the client that is current when it runs, and
several methods drop all tasks of the handler.

* `RoomEvent` and `step` are the calls of `RoomManagement`, with the main handler and what
  happens around it.
* `Owned` and `Settled` are the invariants of a run that leaks no client, and `Safe` says that a
  step keeps them.  Two kinds of steps do, those that keep the destroying task (`Keeps`) and those
  after which the client is closed (`Closes`).
* `effect_step` lists once what a call can do to the clients and the tasks.
-/

namespace MediasoupDemo.Call

open Trace

namespace RoomManagement

variable {r r' r'' : RoomManagement} {n : Nat}

/-! ## Clients -/

/-- The current client is open. -/
def HoldsOpen (r : RoomManagement) : Prop :=
  ∃ client, r.mRoomClient = some client ∧ client ∉ r.closed

/-- A task that destroys the room is waiting. -/
def Closing (r : RoomManagement) : Prop :=
  ∃ due isFinish, (due, .destroyRoom isFinish) ∈ r.mMainHandler

/-- Every client is closed or the current one. -/
def Owned (r : RoomManagement) : Prop :=
  ∀ client < r.created, client ∈ r.closed ∨ r.mRoomClient = some client

/-- The first `n` clients are closed, or the current client will be. -/
def Settled (n : Nat) (r : RoomManagement) : Prop :=
  n ≤ r.created ∧ ((∀ client < n, client ∈ r.closed) ∨ r.Closing)

/-- No client is lost. -/
structure Safe (r r' : RoomManagement) : Prop where
  owned : r.Owned → r'.Owned
  settled : ∀ n, r.Owned → r.Settled n → r'.Settled n

theorem Safe.trans (h : Safe r r') (h' : Safe r' r'') : Safe r r'' where
  owned howned := h'.owned (h.owned howned)
  settled n howned hsettled := h'.settled n (h.owned howned) (h.settled n howned hsettled)

/-- The current client stays, and so does a task that destroys the room. -/
structure Keeps (r r' : RoomManagement) : Prop where
  created : r'.created = r.created
  mRoomClient : r'.mRoomClient = r.mRoomClient
  closed : r.closed ⊆ r'.closed
  closing : r.Closing → r'.Closing

/-- The clients and the tasks are the same. -/
structure SameClients (r r' : RoomManagement) : Prop where
  created : r'.created = r.created
  mRoomClient : r'.mRoomClient = r.mRoomClient
  closed : r'.closed = r.closed
  mMainHandler : r'.mMainHandler = r.mMainHandler

theorem SameClients.refl (r : RoomManagement) : SameClients r r := ⟨rfl, rfl, rfl, rfl⟩

theorem SameClients.keeps (h : SameClients r r') : Keeps r r' :=
  ⟨h.created, h.mRoomClient, fun _ hmem => h.closed ▸ hmem,
    fun ⟨due, isFinish, hmem⟩ => ⟨due, isFinish, h.mMainHandler ▸ hmem⟩⟩

theorem Keeps.safe (h : Keeps r r') : Safe r r' where
  owned howned client hclient := by
    rw [h.created] at hclient
    rw [h.mRoomClient]
    exact (howned client hclient).imp_left fun hmem => h.closed hmem
  settled n _ hsettled := by
    refine ⟨h.created ▸ hsettled.1, ?_⟩
    rcases hsettled.2 with hclosed | hclosing
    · exact .inl fun client hclient => h.closed (hclosed client hclient)
    · exact .inr (h.closing hclosing)

/-- The client that was current is closed. -/
structure Closes (r r' : RoomManagement) : Prop where
  created : r'.created = r.created
  closed : r.closed ⊆ r'.closed
  current : ∀ client, r.mRoomClient = some client → client ∈ r'.closed

theorem Closes.all_closed (h : Closes r r') (howned : r.Owned) :
    ∀ client < r.created, client ∈ r'.closed := fun client hclient =>
  (howned client hclient).elim (fun hmem => h.closed hmem) (h.current client)

theorem Closes.safe (h : Closes r r') : Safe r r' where
  owned howned client hclient := .inl (h.all_closed howned client (h.created ▸ hclient))
  settled _ howned hsettled :=
    ⟨h.created ▸ hsettled.1,
      .inl fun client hclient => h.all_closed howned client (hclient.trans_le hsettled.1)⟩

theorem Closes.settled (h : Closes r r') (howned : r.Owned) : r'.Settled r.created :=
  ⟨h.created.ge, .inl (h.all_closed howned)⟩

/-! ## What the methods do to the clients -/

theorem keeps_postDelayed (r : RoomManagement) (task : Delayed) (delay : Nat) :
    Keeps r (r.postDelayed task delay) where
  created := rfl
  mRoomClient := rfl
  closed := fun _ h => h
  closing := fun ⟨due, isFinish, h⟩ => ⟨due, isFinish, DelayQueue.mem_post.mpr (.inr h)⟩

theorem mem_closed_closeClient {client : Nat} :
    client ∈ r.closeClient.closed ↔ r.mRoomClient = some client ∨ client ∈ r.closed := by
  unfold closeClient
  split
  · rename_i hnone
    simp [hnone]
  · rename_i current hsome
    simp [hsome, eq_comm]

theorem keeps_closeClient (r : RoomManagement) : Keeps r r.closeClient where
  created := by
    unfold closeClient
    split <;> rfl
  mRoomClient := by
    unfold closeClient
    split <;> rfl
  closed := fun _ h => mem_closed_closeClient.mpr (.inr h)
  closing := by
    unfold closeClient
    split <;> exact id

theorem SameClients.closeClient (h : SameClients r r') :
    SameClients r.closeClient r'.closeClient := by
  unfold RoomManagement.closeClient
  rw [h.mRoomClient]
  split
  · exact h
  · exact ⟨h.created, rfl, congrArg (_ :: ·) h.closed, h.mMainHandler⟩

theorem sameClients_finish (r : RoomManagement) : SameClients r r.finish := by
  unfold finish
  split
  · exact ⟨rfl, rfl, rfl, rfl⟩
  · exact SameClients.refl r

theorem closes_destroyRoom (r : RoomManagement) : Closes r r.destroyRoom where
  created := (keeps_closeClient r).created
  closed := (keeps_closeClient r).closed
  current _ h := mem_closed_closeClient.mpr (.inl h)

theorem closes_destroyAndFinish (r : RoomManagement) (isFinish : Bool) :
    Closes r (r.destroyAndFinish isFinish) := by
  have h := closes_destroyRoom r
  have hfinish := (sameClients_finish r.destroyRoom).keeps
  unfold destroyAndFinish
  split
  · exact ⟨hfinish.created.trans h.created, fun _ hmem => hfinish.closed (h.closed hmem),
      fun client hclient => hfinish.closed (h.current client hclient)⟩
  · exact h

theorem safe_closeWebSocketDestroyRoom (r : RoomManagement) (isFinish : Bool) :
    Safe r (r.closeWebSocketDestroyRoom isFinish) := by
  unfold closeWebSocketDestroyRoom
  split
  · exact (keeps_postDelayed r _ 200).safe
  · exact (closes_destroyAndFinish r isFinish).safe

/-- The client is closed at once, or the task that closes it is waiting. -/
theorem settled_closeWebSocketDestroyRoom (howned : r.Owned) (isFinish : Bool) :
    (r.closeWebSocketDestroyRoom isFinish).Settled r.created := by
  unfold closeWebSocketDestroyRoom
  split
  · exact ⟨le_rfl, .inr ⟨_, isFinish, DelayQueue.mem_post.mpr (.inl rfl)⟩⟩
  · exact (closes_destroyAndFinish r isFinish).settled howned

/-- A new client takes the place of one that is closed. -/
theorem safe_newRoomClient (h : ¬ r.HoldsOpen) : Safe r r.newRoomClient where
  owned howned client hclient := by
    rcases Nat.lt_succ_iff_lt_or_eq.mp hclient with hold | rfl
    · refine .inl ((howned client hold).elim id fun hcurrent => ?_)
      by_contra hopen
      exact h ⟨client, hcurrent, hopen⟩
    · exact .inr rfl
  settled n _ hsettled := ⟨hsettled.1.trans (Nat.le_succ _), hsettled.2⟩

/-- The tasks are dropped while none of them destroys the room, or with a client that is
closed. -/
theorem safe_removeCallbacksAndMessages (h : ¬ (r.Closing ∧ r.HoldsOpen)) :
    Safe r r.removeCallbacksAndMessages := by
  by_cases hclosing : r.Closing
  · refine Closes.safe ⟨rfl, fun _ hmem => hmem, fun client hclient => ?_⟩
    by_contra hopen
    exact h ⟨hclosing, client, hclient, hopen⟩
  · exact Keeps.safe ⟨rfl, rfl, fun _ hmem => hmem, fun h => absurd h hclosing⟩

/-! ## Delayed tasks

What a task does to the room does not depend on the loader. -/

def afterTask (r : RoomManagement) : Delayed → RoomManagement
  | .acceptAnswered => r
  | .waitAnswered =>
      if !r.isRoomConnecting || !r.isOtherJoin then r.closeWebSocketDestroyRoom true else r
  | .destroyRoom isFinish => r.destroyAndFinish isFinish

/-- The room after the task that is due first. -/
def afterNext (r : RoomManagement) : RoomManagement :=
  match r.mMainHandler.next with
  | none => r
  | some ((due, task), rest) => (r.taken due rest).afterTask task

theorem afterNext_of_none (h : r.mMainHandler.next = none) : r.afterNext = r := by
  unfold afterNext
  rw [h]

theorem afterNext_of_some {task : Delayed} {due : Nat} {rest : DelayQueue Delayed}
    (h : r.mMainHandler.next = some ((due, task), rest)) :
    r.afterNext = (r.taken due rest).afterTask task := by
  unfold afterNext
  rw [h]

/-- A task that destroys the room is waiting behind one that does not. -/
theorem keeps_taken {task : Delayed} {due : Nat} {rest : DelayQueue Delayed}
    (h : r.mMainHandler.next = some ((due, task), rest))
    (htask : ∀ isFinish, task ≠ .destroyRoom isFinish) : Keeps r (r.taken due rest) where
  created := rfl
  mRoomClient := rfl
  closed := fun _ h => h
  closing := by
    rintro ⟨time, isFinish, hmem⟩
    rcases (DelayQueue.mem_of_next h).mp hmem with heq | hmem
    · cases heq
      exact absurd rfl (htask isFinish)
    · exact ⟨time, isFinish, hmem⟩

theorem safe_afterNext (r : RoomManagement) : Safe r r.afterNext := by
  cases hnext : r.mMainHandler.next with
  | none =>
    rw [afterNext_of_none hnext]
    exact (SameClients.refl r).keeps.safe
  | some first =>
    obtain ⟨⟨due, task⟩, rest⟩ := first
    rw [afterNext_of_some hnext]
    cases task with
    | acceptAnswered => exact (keeps_taken hnext (by simp)).safe
    | waitAnswered =>
      have hkeeps := keeps_taken hnext (by simp)
      simp only [afterTask]
      split
      · exact hkeeps.safe.trans (safe_closeWebSocketDestroyRoom _ true)
      · exact hkeeps.safe
    | destroyRoom isFinish =>
      have hcloses := closes_destroyAndFinish (r.taken due rest) isFinish
      exact Closes.safe ⟨hcloses.created, hcloses.closed, hcloses.current⟩

end RoomManagement

/-! ## Runs -/

/-- A call of `RoomManagement`, or something that happens around it. -/
inductive RoomEvent where
  | createInitRoom
  | joinMediasoupRoom
  | acceptAnsweredTime
  | establishedJoinMediasoup
  | onConnectSuc
  | onConnectFail
  | onConnectDisconnected
  | onConnectClose
  | onJoinSuc
  | onJoinFail
  | onSelfOtherAcceptCall
  | onOtherAcceptCall
  | onOtherRejectCall
  | onOtherEndCall
  | onOtherCloseCall
  | onOtherMissedCall
  | callSelfEnd
  | callSelfCancel
  | callSelfReject
  | closeWebSocketDestroyRoom (isFinish : Bool)
  | destroy
  | setConnectionState (connectionState : Option ConnectionState)
  | setOtherJoin (otherJoin : Bool)
  /-- A client closes itself. -/
  | clientClosed (client : Nat)
  /-- The loader changes on its own. -/
  | loaderChanged (loader : Loader)
  /-- Time passes. -/
  | elapse (time : Nat)
  /-- The main handler runs the task that is due first. -/
  | runNext

namespace Calls

variable {c : Calls} {e : RoomEvent}

def step (c : Calls) : RoomEvent → Calls
  | .createInitRoom => c.createInitRoom
  | .joinMediasoupRoom => c.joinMediasoupRoom
  | .acceptAnsweredTime => c.acceptAnsweredTime
  | .establishedJoinMediasoup => c.establishedJoinMediasoup
  | .onConnectSuc => c.onConnectSuc
  | .onConnectFail => c.onConnectFail
  | .onConnectDisconnected => c.onConnectDisconnected
  | .onConnectClose => c.onConnectClose
  | .onJoinSuc => c.onJoinSuc
  | .onJoinFail => c.onJoinFail
  | .onSelfOtherAcceptCall => c.onSelfOtherAcceptCall
  | .onOtherAcceptCall => c.onOtherAcceptCall
  | .onOtherRejectCall => c.onOtherRejectCall
  | .onOtherEndCall => c.onOtherEndCall
  | .onOtherCloseCall => c.onOtherCloseCall
  | .onOtherMissedCall => c.onOtherMissedCall
  | .callSelfEnd => c.callSelfEnd
  | .callSelfCancel => c.callSelfCancel
  | .callSelfReject => c.callSelfReject
  | .closeWebSocketDestroyRoom isFinish => c.closeWebSocketDestroyRoom isFinish
  | .destroy => c.destroy
  | .setConnectionState connectionState => c.room fun r => { r with connectionState }
  | .setOtherJoin otherJoin => c.setOtherJoin otherJoin
  | .clientClosed client =>
      if client < c.created then c.room fun r => { r with closed := client :: r.closed } else c
  | .loaderChanged loader => c.loader fun _ => loader
  | .elapse time => c.room fun r => { r with now := r.now + time }
  | .runNext => c.runNext

/-- A room that was just made. -/
def start (loader : Loader) : Calls := ⟨loader, ({} : RoomManagement).create⟩

/-- The call ends the room.  In a group the other side does not, when it leaves. -/
def HangsUp (c : Calls) : RoomEvent → Prop
  | .onSelfOtherAcceptCall | .onOtherCloseCall | .callSelfEnd | .callSelfCancel | .callSelfReject
  | .closeWebSocketDestroyRoom _ | .destroy => True
  | .onOtherRejectCall | .onOtherEndCall | .onOtherMissedCall => c.isOneOnOneCall = true
  | _ => False

/-- The call drops the tasks of the main handler. -/
def Clears (c : Calls) : RoomEvent → Prop
  | .establishedJoinMediasoup => True
  | .acceptAnsweredTime => (!c.toRoomManagement.isRoomConnecting && c.isReceiveCall) = false
  | .onJoinSuc => c.isReceiveCall = true
  | .onOtherAcceptCall => c.isSelfCalling = true
  | _ => False

/-- The call loses an open client: it puts another in its place, or drops the task that
destroys the room.  `destroy` drops the task that it has just posted. -/
def Leaks (c : Calls) (e : RoomEvent) : Prop :=
  (e = .createInitRoom ∧ c.HoldsOpen) ∨
    (e = .destroy ∧ c.closeVideoAndAudio = true) ∨ (c.Clears e ∧ c.Closing ∧ c.HoldsOpen)

/-! ## What a call does -/

theorem toRoomManagement_runNext (c : Calls) :
    c.runNext.toRoomManagement = c.toRoomManagement.afterNext := by
  unfold runNext
  split
  · rename_i hnext
    rw [RoomManagement.afterNext_of_none hnext]
  · rename_i due task rest hnext
    rw [RoomManagement.afterNext_of_some hnext]
    cases task with
    | acceptAnswered =>
      simp only [runTask]
      split <;> rfl
    | waitAnswered =>
      simp only [runTask, RoomManagement.afterTask]
      exact apply_ite toRoomManagement _ _ _
    | destroyRoom isFinish => rfl

/-- What a call does to the clients and the tasks. -/
inductive Effect (c : Calls) (e : RoomEvent) : RoomManagement → Prop
  | none (h : ¬ c.HangsUp e) : Effect c e c.toRoomManagement
  | post (h : ¬ c.HangsUp e) (task : Delayed) (delay : Nat) :
      Effect c e (c.toRoomManagement.postDelayed task delay)
  | clear (h : ¬ c.HangsUp e) (hclears : c.Clears e) :
      Effect c e c.toRoomManagement.removeCallbacksAndMessages
  | create (h : e = .createInitRoom) : Effect c e c.toRoomManagement.newRoomClient
  | closeClient (h : ¬ c.HangsUp e) : Effect c e c.toRoomManagement.closeClient
  | clientClosed (h : ¬ c.HangsUp e) (client : Nat) (hclient : client < c.created) :
      Effect c e { c.toRoomManagement with closed := client :: c.closed }
  | hangUp (isFinish : Bool) : Effect c e (c.toRoomManagement.closeWebSocketDestroyRoom isFinish)
  | destroy (h : e = .destroy) :
      Effect c e (c.toRoomManagement.closeWebSocketDestroyRoom false).removeCallbacksAndMessages
  | next (h : ¬ c.HangsUp e) : Effect c e c.toRoomManagement.afterNext

theorem effect_step (c : Calls) (e : RoomEvent) :
    ∃ r, Effect c e r ∧ RoomManagement.SameClients r (c.step e).toRoomManagement := by
  have hsame : RoomManagement.SameClients c.toRoomManagement c.toRoomManagement := .refl _
  cases e with
  | createInitRoom => exact ⟨_, .create rfl, ⟨rfl, rfl, rfl, rfl⟩⟩
  | joinMediasoupRoom =>
    show ∃ r, _ ∧ RoomManagement.SameClients r c.joinMediasoupRoom.toRoomManagement
    unfold joinMediasoupRoom waitAnsweredTime
    split
    · exact ⟨_, .none id, hsame⟩
    · split
      · exact ⟨_, .none id, hsame⟩
      · exact ⟨_, .post id .waitAnswered mediasoupMissedTime, ⟨rfl, rfl, rfl, rfl⟩⟩
  | acceptAnsweredTime =>
    show ∃ r, _ ∧ RoomManagement.SameClients r c.acceptAnsweredTime.toRoomManagement
    unfold acceptAnsweredTime
    split
    · exact ⟨_, .post id .acceptAnswered mediasoupMissedTime, ⟨rfl, rfl, rfl, rfl⟩⟩
    · rename_i hclears
      exact ⟨_, .clear id (Bool.eq_false_of_not_eq_true hclears), ⟨rfl, rfl, rfl, rfl⟩⟩
  | establishedJoinMediasoup => exact ⟨_, .clear id trivial, ⟨rfl, rfl, rfl, rfl⟩⟩
  | onConnectSuc | onConnectDisconnected | onConnectClose | onJoinFail | setConnectionState
  | setOtherJoin | loaderChanged | elapse => exact ⟨_, .none id, ⟨rfl, rfl, rfl, rfl⟩⟩
  | onConnectFail =>
    have hjoin : RoomManagement.SameClients c.toRoomManagement
        (c.setOtherJoin false).toRoomManagement := ⟨rfl, rfl, rfl, rfl⟩
    exact ⟨_, .closeClient id, hjoin.closeClient⟩
  | onJoinSuc =>
    show ∃ r, _ ∧ RoomManagement.SameClients r c.onJoinSuc.toRoomManagement
    unfold onJoinSuc
    split
    · rename_i hclears
      exact ⟨_, .clear id hclears, ⟨rfl, rfl, rfl, rfl⟩⟩
    · exact ⟨_, .none id, hsame⟩
  | onOtherAcceptCall =>
    show ∃ r, _ ∧ RoomManagement.SameClients r c.onOtherAcceptCall.toRoomManagement
    unfold onOtherAcceptCall
    split
    · rename_i hclears
      exact ⟨_, .clear id hclears, ⟨rfl, rfl, rfl, rfl⟩⟩
    · exact ⟨_, .none id, hsame⟩
  | onSelfOtherAcceptCall | callSelfEnd | callSelfCancel => exact ⟨_, .hangUp true, .refl _⟩
  | closeWebSocketDestroyRoom isFinish => exact ⟨_, .hangUp isFinish, .refl _⟩
  | onOtherCloseCall | callSelfReject =>
    exact ⟨_, .hangUp false, RoomManagement.sameClients_finish _⟩
  | onOtherRejectCall | onOtherEndCall | onOtherMissedCall =>
    show ∃ r, _ ∧ RoomManagement.SameClients r (c.onOtherLeave _).toRoomManagement
    unfold onOtherLeave
    split
    · exact ⟨_, .hangUp true, .refl _⟩
    · rename_i hgroup
      exact ⟨_, .none hgroup, hsame⟩
  | destroy => exact ⟨_, .destroy rfl, ⟨rfl, rfl, rfl, rfl⟩⟩
  | clientClosed client =>
    show ∃ r, _ ∧ RoomManagement.SameClients r (ite _ _ c).toRoomManagement
    split
    · rename_i hclient
      exact ⟨_, .clientClosed id client hclient, ⟨rfl, rfl, rfl, rfl⟩⟩
    · exact ⟨_, .none id, hsame⟩
  | runNext =>
    refine ⟨_, .next id, ?_⟩
    show RoomManagement.SameClients _ c.runNext.toRoomManagement
    rw [toRoomManagement_runNext]
    exact .refl _

/-! ## No client is lost -/

/-- `destroy` closes the client if it does so at once. -/
theorem closes_destroy (h : c.closeVideoAndAudio = false) :
    RoomManagement.Closes c.toRoomManagement
      (c.toRoomManagement.closeWebSocketDestroyRoom false).removeCallbacksAndMessages := by
  unfold RoomManagement.closeWebSocketDestroyRoom
  rw [if_neg (by simp [h])]
  have hcloses := RoomManagement.closes_destroyAndFinish c.toRoomManagement false
  exact ⟨hcloses.created, hcloses.closed, hcloses.current⟩

theorem safe_step (h : ¬ c.Leaks e) :
    RoomManagement.Safe c.toRoomManagement (c.step e).toRoomManagement := by
  obtain ⟨r, heffect, hsame⟩ := effect_step c e
  refine RoomManagement.Safe.trans ?_ hsame.keeps.safe
  cases heffect with
  | none => exact (RoomManagement.SameClients.refl _).keeps.safe
  | post _ task delay => exact (RoomManagement.keeps_postDelayed _ task delay).safe
  | clear _ hclears =>
    refine RoomManagement.safe_removeCallbacksAndMessages fun hopen => h ?_
    exact .inr (.inr ⟨hclears, hopen⟩)
  | create he => exact RoomManagement.safe_newRoomClient fun hopen => h (.inl ⟨he, hopen⟩)
  | closeClient => exact (RoomManagement.keeps_closeClient _).safe
  | clientClosed _ client =>
    exact RoomManagement.Keeps.safe ⟨rfl, rfl, fun _ hmem => List.mem_cons_of_mem client hmem, id⟩
  | hangUp isFinish => exact RoomManagement.safe_closeWebSocketDestroyRoom _ isFinish
  | destroy he =>
    refine (closes_destroy ?_).safe
    exact Bool.eq_false_of_not_eq_true fun hposts => h (.inr (.inl ⟨he, hposts⟩))
  | next => exact RoomManagement.safe_afterNext _

/-- After a call that ends the room the clients are closed, or the current one will be. -/
theorem settled_of_hangsUp (howned : c.Owned) (hleaks : ¬ c.Leaks e) (h : c.HangsUp e) :
    (c.step e).Settled c.created := by
  obtain ⟨r, heffect, hsame⟩ := effect_step c e
  suffices hsettled : r.Settled c.created by
    have hclosing : r.Closing → (c.step e).Closing := hsame.keeps.closing
    refine ⟨hsame.created ▸ hsettled.1, hsettled.2.imp (fun hclosed => ?_) hclosing⟩
    exact hsame.closed ▸ hclosed
  cases heffect with
  | hangUp isFinish => exact RoomManagement.settled_closeWebSocketDestroyRoom howned isFinish
  | destroy he =>
    refine (closes_destroy ?_).settled howned
    exact Bool.eq_false_of_not_eq_true fun hposts => hleaks (.inr (.inl ⟨he, hposts⟩))
  | create he =>
    rw [he] at h
    exact h.elim
  | none hnot | post hnot | clear hnot | closeClient hnot | clientClosed hnot | next hnot =>
    exact absurd h hnot

/-- In a run that leaks no client, every client that was made before a call that ends the room
is closed when no task is waiting any more. -/
theorem closed_of_hangsUp (loader : Loader) (before later : List RoomEvent) (e : RoomEvent)
    (hleaks : Each step (start loader) (fun c e => ¬ c.Leaks e) (before ++ e :: later))
    (h : (after step (start loader) before).HangsUp e)
    (hempty : (after step (start loader) (before ++ e :: later)).mMainHandler = .empty) :
    ∀ client < (after step (start loader) before).created,
      client ∈ (after step (start loader) (before ++ e :: later)).closed := by
  obtain ⟨hbefore, hrest⟩ := each_append.mp hleaks
  obtain ⟨he, hlater⟩ := each_cons.mp hrest
  rw [after_append, after_cons] at hempty ⊢
  have howned : (after step (start loader) before).Owned := by
    refine (always_of_each (P := fun c => c.Owned) ?_ ?_ hbefore).last
    · intro client hclient
      exact absurd hclient (Nat.not_lt_zero client)
    · intro c e howned hleaks
      exact (safe_step hleaks).owned howned
  generalize after step (start loader) before = c at *
  -- from the end of the room on
  have hinvariant : (after step (c.step e) later).Owned ∧
      (after step (c.step e) later).Settled c.created := by
    refine (always_of_each (P := fun d => d.Owned ∧ d.Settled c.created) ?_ ?_ hlater).last
    · exact ⟨(safe_step he).owned howned, settled_of_hangsUp howned he h⟩
    · intro d e hd hleaks
      exact ⟨(safe_step hleaks).owned hd.1, (safe_step hleaks).settled _ hd.1 hd.2⟩
  rcases hinvariant.2.2 with hclosed | ⟨due, isFinish, hmem⟩
  · exact hclosed
  · rw [hempty] at hmem
    exact absurd hmem (DelayQueue.not_mem_empty _)

/-- A call is ended while its room is connected, and the task runs. -/
theorem closed_of_callSelfEnd :
    let before := [.createInitRoom, .setConnectionState (some .CONNECTED)]
    ∀ client < (after step (start {}) before).created,
      client ∈ (after step (start {}) (before ++ .callSelfEnd :: [.runNext])).closed := by
  refine closed_of_hangsUp {} [.createInitRoom, .setConnectionState (some .CONNECTED)] [.runNext]
    .callSelfEnd ?_ trivial (by decide +kernel)
  refine each_cons.mpr ⟨?_, each_cons.mpr ⟨?_, each_cons.mpr ⟨?_, each_cons.mpr ⟨?_, each_nil⟩⟩⟩⟩
  · rintro (⟨-, client, h, -⟩ | ⟨h, -⟩ | ⟨h, -⟩) <;> cases h
  · rintro (⟨h, -⟩ | ⟨h, -⟩ | ⟨h, -⟩) <;> cases h
  · rintro (⟨h, -⟩ | ⟨h, -⟩ | ⟨h, -⟩) <;> cases h
  · rintro (⟨h, -⟩ | ⟨h, -⟩ | ⟨h, -⟩) <;> cases h

/-- The task that destroys the room is dropped by `destroy` itself, and by the first peer that
joins in the 200 ms before it runs. -/
theorem not_closed_destroy :
    let before := [.createInitRoom, .setConnectionState (some .CONNECTED)]
    let destroyed := after step (start {}) (before ++ .destroy :: [])
    let joined := after step (start {}) (before ++ .callSelfEnd :: [.establishedJoinMediasoup])
    (after step (start {}) before).created = 1 ∧
      destroyed.mMainHandler = .empty ∧ 0 ∉ destroyed.closed ∧
      joined.mMainHandler = .empty ∧ 0 ∉ joined.closed := by
  decide +kernel

end Calls

end MediasoupDemo.Call
