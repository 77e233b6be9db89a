import MediasoupDemo.Call.Teardown

/-!
# The reset of a room

`resetMediasoupRoom` destroys the room and makes a new one right away.  If the room is running it
is destroyed by a task 200 ms later, and the task takes the client that is current by then, the
new one.  So do the tasks that were waiting before.

A client is `Doomed` once a waiting task will destroy it, and `Spared` while no waiting task does
anything to it.  The reset leads to one of the two (`spared_or_doomed`), and the main handler
keeps each of them.  `exists_drained` says that the handler gets through with its tasks.
-/

namespace MediasoupDemo.Call

open Trace

namespace RoomManagement

variable {r r' : RoomManagement}

/-- The clients have numbers below the next one. -/
structure Numbered (r : RoomManagement) : Prop where
  closed : ∀ client ∈ r.closed, client < r.created
  current : ∀ client, r.mRoomClient = some client → client < r.created

theorem Numbered.same (h : r.Numbered) (hsame : SameClients r r') : r'.Numbered where
  closed := by
    rw [hsame.closed, hsame.created]
    exact h.closed
  current := by
    rw [hsame.mRoomClient, hsame.created]
    exact h.current

theorem Numbered.closeClient (h : r.Numbered) : r.closeClient.Numbered where
  closed client hmem := by
    rw [(keeps_closeClient r).created]
    exact (mem_closed_closeClient.mp hmem).elim (h.current client) (h.closed client)
  current := by
    rw [(keeps_closeClient r).mRoomClient, (keeps_closeClient r).created]
    exact h.current

theorem Numbered.destroyAndFinish (h : r.Numbered) (isFinish : Bool) :
    (r.destroyAndFinish isFinish).Numbered := by
  have hdestroyed : r.destroyRoom.Numbered :=
    ⟨h.closeClient.closed, fun _ hclient => by cases hclient⟩
  unfold RoomManagement.destroyAndFinish
  split
  · exact hdestroyed.same (sameClients_finish _)
  · exact hdestroyed

theorem Numbered.closeWebSocketDestroyRoom (h : r.Numbered) (isFinish : Bool) :
    (r.closeWebSocketDestroyRoom isFinish).Numbered := by
  unfold RoomManagement.closeWebSocketDestroyRoom
  split
  · exact ⟨h.closed, h.current⟩
  · exact h.destroyAndFinish isFinish

theorem Numbered.afterNext (h : r.Numbered) : r.afterNext.Numbered := by
  cases hnext : r.mMainHandler.next with
  | none =>
    rw [afterNext_of_none hnext]
    exact h
  | some first =>
    obtain ⟨⟨due, task⟩, rest⟩ := first
    have htaken : (r.taken due rest).Numbered := ⟨h.closed, h.current⟩
    rw [afterNext_of_some hnext]
    cases task with
    | acceptAnswered => exact htaken
    | waitAnswered =>
      simp only [afterTask]
      split
      · exact htaken.closeWebSocketDestroyRoom true
      · exact htaken
    | destroyRoom isFinish => exact htaken.destroyAndFinish isFinish

theorem Numbered.newRoomClient (h : r.Numbered) : r.newRoomClient.Numbered where
  closed client hmem := (h.closed client hmem).trans (Nat.lt_succ_self _)
  current client hclient := by
    cases hclient
    exact Nat.lt_succ_self _

/-- The current client is gone, or a waiting task will destroy it. -/
def Doomed (r : RoomManagement) : Prop :=
  r.Closing ∨ (r.isOtherJoin = false ∧ ∃ due, (due, .waitAnswered) ∈ r.mMainHandler) ∨
    r.mRoomClient = none

/-- No waiting task touches the current client, which is open, and the old one is closed. -/
structure Spared (old : Option Nat) (new : Nat) (r : RoomManagement) : Prop where
  tasks : ∀ entry ∈ r.mMainHandler, entry.2 = .acceptAnswered
  current : r.mRoomClient = some new
  opened : new ∉ r.closed
  old_closed : ∀ client, old = some client → client ∈ r.closed

theorem mRoomClient_destroyAndFinish (r : RoomManagement) (isFinish : Bool) :
    (r.destroyAndFinish isFinish).mRoomClient = none := by
  unfold destroyAndFinish
  split
  · rw [(sameClients_finish _).mRoomClient]
    rfl
  · rfl

theorem doomed_closeWebSocketDestroyRoom (r : RoomManagement) (isFinish : Bool) :
    (r.closeWebSocketDestroyRoom isFinish).Doomed := by
  unfold closeWebSocketDestroyRoom
  split
  · exact .inl ⟨_, isFinish, DelayQueue.mem_post.mpr (.inl rfl)⟩
  · exact .inr (.inr (mRoomClient_destroyAndFinish r isFinish))

theorem Doomed.afterNext (h : r.Doomed) : r.afterNext.Doomed := by
  cases hnext : r.mMainHandler.next with
  | none =>
    rw [afterNext_of_none hnext]
    exact h
  | some first =>
    obtain ⟨⟨due, task⟩, rest⟩ := first
    rw [afterNext_of_some hnext]
    cases task with
    | destroyRoom isFinish => exact .inr (.inr (mRoomClient_destroyAndFinish _ isFinish))
    | acceptAnswered =>
      rcases h with hclosing | ⟨hjoin, time, hmem⟩ | hnone
      · exact .inl ((keeps_taken hnext (by simp)).closing hclosing)
      · refine .inr (.inl ⟨hjoin, time, ?_⟩)
        exact ((DelayQueue.mem_of_next hnext).mp hmem).resolve_left (by simp)
      · exact .inr (.inr hnone)
    | waitAnswered =>
      simp only [afterTask]
      split
      · exact doomed_closeWebSocketDestroyRoom _ true
      · rename_i hjoined
        -- the other side has joined, so it is not this task that dooms the client
        rcases h with hclosing | ⟨hjoin, -⟩ | hnone
        · exact .inl ((keeps_taken hnext (by simp)).closing hclosing)
        · refine absurd ?_ hjoined
          show (_ || !r.isOtherJoin) = true
          rw [hjoin]
          exact Bool.or_true _
        · exact .inr (.inr hnone)

theorem Spared.afterNext {old : Option Nat} {new : Nat} (h : r.Spared old new) :
    r.afterNext.Spared old new := by
  cases hnext : r.mMainHandler.next with
  | none =>
    rw [afterNext_of_none hnext]
    exact h
  | some first =>
    obtain ⟨⟨due, task⟩, rest⟩ := first
    have htask : task = .acceptAnswered :=
      h.tasks (due, task) ((DelayQueue.mem_of_next hnext).mpr (.inl rfl))
    rw [afterNext_of_some hnext, htask]
    exact ⟨fun entry hmem => h.tasks entry ((DelayQueue.mem_of_next hnext).mpr (.inr hmem)),
      h.current, h.opened, h.old_closed⟩

theorem mMainHandler_closeClient (r : RoomManagement) :
    r.closeClient.mMainHandler = r.mMainHandler := by
  unfold closeClient
  split <;> rfl

theorem closeWebSocketDestroyRoom_eq (h : r.closeVideoAndAudio = false) :
    r.closeWebSocketDestroyRoom false = r.destroyRoom := by
  unfold closeWebSocketDestroyRoom
  rw [if_neg (by simp [h])]
  rfl

/-- The client that the reset makes is spared if the room was not running and no waiting task
destroys a room, and else it is doomed. -/
theorem spared_or_doomed (h : r.Numbered) :
    (r.closeVideoAndAudio = false ∧ ∀ entry ∈ r.mMainHandler, entry.2 = .acceptAnswered) ∧
        (r.closeWebSocketDestroyRoom false).newRoomClient.Spared r.mRoomClient r.created ∨
      ¬ (r.closeVideoAndAudio = false ∧ ∀ entry ∈ r.mMainHandler, entry.2 = .acceptAnswered) ∧
        (r.closeWebSocketDestroyRoom false).newRoomClient.Doomed := by
  cases hposts : r.closeVideoAndAudio with
  | true =>
    refine .inr ⟨fun hnot => Bool.noConfusion hnot.1, .inl ?_⟩
    unfold closeWebSocketDestroyRoom
    rw [if_pos hposts]
    exact ⟨_, false, DelayQueue.mem_post.mpr (.inl rfl)⟩
  | false =>
    rw [closeWebSocketDestroyRoom_eq hposts]
    have hqueue : r.destroyRoom.newRoomClient.mMainHandler = r.mMainHandler :=
      mMainHandler_closeClient r
    by_cases htasks : ∀ entry ∈ r.mMainHandler, entry.2 = .acceptAnswered
    · refine .inl ⟨⟨rfl, htasks⟩, hqueue ▸ htasks, ?_, ?_, ?_⟩
      · exact congrArg some (keeps_closeClient r).created
      · intro hmem
        refine Nat.lt_irrefl r.created ?_
        exact (mem_closed_closeClient.mp hmem).elim (h.current _) (h.closed _)
      · exact fun client hclient => mem_closed_closeClient.mpr (.inl hclient)
    · refine .inr ⟨fun hall => htasks hall.2, ?_⟩
      push Not at htasks
      obtain ⟨⟨due, task⟩, hmem, htask⟩ := htasks
      rw [← hqueue] at hmem
      cases task with
      | acceptAnswered => exact absurd rfl htask
      | waitAnswered => exact .inr (.inl ⟨rfl, due, hmem⟩)
      | destroyRoom isFinish => exact .inl ⟨due, isFinish, hmem⟩

/-! ## The main handler gets through -/

/-- How many tasks a task may still make, and itself. -/
def tasksOf : Delayed → Nat
  | .acceptAnswered | .destroyRoom _ => 1
  | .waitAnswered => 2

theorem mMainHandler_destroyAndFinish (r : RoomManagement) (isFinish : Bool) :
    (r.destroyAndFinish isFinish).mMainHandler = r.mMainHandler := by
  unfold destroyAndFinish
  split
  · rw [(sameClients_finish _).mMainHandler]
    exact mMainHandler_closeClient r
  · exact mMainHandler_closeClient r

theorem weight_closeWebSocketDestroyRoom (r : RoomManagement) (isFinish : Bool) :
    (r.closeWebSocketDestroyRoom isFinish).mMainHandler.weight tasksOf ≤
      1 + r.mMainHandler.weight tasksOf := by
  unfold closeWebSocketDestroyRoom
  split
  · exact (DelayQueue.weight_post tasksOf _ _).le
  · rw [mMainHandler_destroyAndFinish]
    omega

theorem weight_afterNext_lt {first : (Nat × Delayed) × DelayQueue Delayed}
    (h : r.mMainHandler.next = some first) :
    r.afterNext.mMainHandler.weight tasksOf < r.mMainHandler.weight tasksOf := by
  obtain ⟨⟨due, task⟩, rest⟩ := first
  rw [afterNext_of_some h, DelayQueue.weight_of_next tasksOf h]
  cases task with
  | acceptAnswered =>
    show rest.weight tasksOf < 1 + rest.weight tasksOf
    omega
  | waitAnswered =>
    have hle : ((r.taken due rest).closeWebSocketDestroyRoom true).mMainHandler.weight tasksOf ≤
        1 + rest.weight tasksOf := weight_closeWebSocketDestroyRoom _ true
    show ((r.taken due rest).afterTask .waitAnswered).mMainHandler.weight tasksOf <
      2 + rest.weight tasksOf
    simp only [afterTask]
    split
    · omega
    · show rest.weight tasksOf < 2 + rest.weight tasksOf
      omega
  | destroyRoom isFinish =>
    show ((r.taken due rest).destroyAndFinish isFinish).mMainHandler.weight tasksOf <
      1 + rest.weight tasksOf
    rw [mMainHandler_destroyAndFinish]
    show rest.weight tasksOf < 1 + rest.weight tasksOf
    omega

end RoomManagement

namespace Calls

variable {c : Calls} {e : RoomEvent}

theorem numbered_step (h : c.Numbered) (e : RoomEvent) : (c.step e).Numbered := by
  obtain ⟨r, heffect, hsame⟩ := effect_step c e
  refine RoomManagement.Numbered.same ?_ hsame
  cases heffect with
  | none => exact h
  | post | clear => exact ⟨h.closed, h.current⟩
  | create => exact h.newRoomClient
  | closeClient => exact h.closeClient
  | clientClosed _ client hclient =>
    refine ⟨fun other hmem => ?_, h.current⟩
    rcases List.mem_cons.mp hmem with rfl | hmem
    · exact hclient
    · exact h.closed other hmem
  | hangUp isFinish => exact h.closeWebSocketDestroyRoom isFinish
  | destroy =>
    have hclosed := h.closeWebSocketDestroyRoom false
    exact ⟨hclosed.closed, hclosed.current⟩
  | next => exact h.afterNext

def resetMediasoupRoom (c : Calls) : Calls := (c.closeWebSocketDestroyRoom false).createInitRoom

/-- The main handler runs, time passes, or the state of the connection changes. -/
def Waits : RoomEvent → Prop
  | .runNext | .elapse _ | .setConnectionState _ => True
  | _ => False

/-- The client of `c` is closed, and the one that was made next is current and open. -/
def Replaced (c d : Calls) : Prop :=
  (∀ client, c.mRoomClient = some client → client ∈ d.closed) ∧
    d.mRoomClient = some c.created ∧ c.created ∉ d.closed

/-- The state after some calls. -/
def Reached (c : Calls) : Prop := ∃ loader before, c = after step (start loader) before

theorem numbered_of_reached (h : Reached c) : c.Numbered := by
  obtain ⟨loader, before, rfl⟩ := h
  refine invariant (I := fun c : Calls => c.Numbered) ?_ (fun c e h => numbered_step h e) before
  exact ⟨fun client hmem => absurd hmem List.not_mem_nil, fun client hclient => by cases hclient⟩

/-- The main handler gets through with its tasks. -/
theorem exists_drained (c : Calls) :
    ∃ n, (after step c (List.replicate n .runNext)).mMainHandler = .empty := by
  induction hweight : c.mMainHandler.weight RoomManagement.tasksOf using Nat.strong_induction_on
    generalizing c with
  | _ weight ih =>
    cases hnext : c.mMainHandler.next with
    | none => exact ⟨0, DelayQueue.eq_empty_of_next hnext⟩
    | some first =>
      have hlt := RoomManagement.weight_afterNext_lt hnext
      rw [← toRoomManagement_runNext, hweight] at hlt
      obtain ⟨n, hn⟩ := ih _ hlt c.runNext rfl
      exact ⟨n + 1, hn⟩

/-- What the main handler keeps holds while nothing else is called. -/
theorem waits_invariant {P : RoomManagement → Prop} (hnext : ∀ r, P r → P r.afterNext)
    (htime : ∀ r time, P r → P { r with now := r.now + time })
    (hstate : ∀ r connectionState, P r → P { r with connectionState })
    {later : List RoomEvent} (hlater : ∀ e ∈ later, Waits e) (h : P c.toRoomManagement) :
    P (after step c later).toRoomManagement := by
  induction later generalizing c with
  | nil => exact h
  | cons e later ih =>
    refine ih (fun e he => hlater e (List.mem_cons_of_mem _ he)) ?_
    have he := hlater e List.mem_cons_self
    cases e with
    | runNext =>
      show P c.runNext.toRoomManagement
      rw [toRoomManagement_runNext]
      exact hnext _ h
    | elapse time => exact htime _ time h
    | setConnectionState connectionState => exact hstate _ connectionState h
    | _ => cases he

/-- After the reset the main handler gets through with its tasks.  By then the old client is
closed and the new one is current and open just when the room was not running and no waiting
task could destroy a room. -/
theorem replaced_iff (c : Calls) (h : Reached c) :
    (∃ n, (after step c.resetMediasoupRoom (List.replicate n .runNext)).mMainHandler = .empty) ∧
      ∀ later, (∀ e ∈ later, Waits e) →
        (after step c.resetMediasoupRoom later).mMainHandler = .empty →
        (Replaced c (after step c.resetMediasoupRoom later) ↔
          c.closeVideoAndAudio = false ∧ ∀ entry ∈ c.mMainHandler, entry.2 = .acceptAnswered) := by
  refine ⟨exists_drained _, fun later hlater hempty => ?_⟩
  rcases RoomManagement.spared_or_doomed (numbered_of_reached h) with ⟨hcond, hspared⟩ |
    ⟨hcond, hdoomed⟩
  · refine iff_of_true ?_ hcond
    have hend : (after step c.resetMediasoupRoom later).Spared c.mRoomClient c.created := by
      refine waits_invariant (P := RoomManagement.Spared c.mRoomClient c.created)
        (fun r h => h.afterNext) ?_ ?_ hlater hspared
      · exact fun r time h => ⟨h.tasks, h.current, h.opened, h.old_closed⟩
      · exact fun r state h => ⟨h.tasks, h.current, h.opened, h.old_closed⟩
    exact ⟨hend.old_closed, hend.current, hend.opened⟩
  · refine iff_of_false (fun hreplaced => ?_) hcond
    have hend : (after step c.resetMediasoupRoom later).Doomed := by
      refine waits_invariant (P := RoomManagement.Doomed) (fun r h => h.afterNext) ?_ ?_ hlater
        hdoomed
      · exact fun r time h => h
      · exact fun r state h => h
    -- no task is waiting, so the client is gone
    rcases hend with ⟨due, isFinish, hmem⟩ | ⟨-, due, hmem⟩ | hnone
    · rw [hempty] at hmem
      exact DelayQueue.not_mem_empty _ hmem
    · rw [hempty] at hmem
      exact DelayQueue.not_mem_empty _ hmem
    · have hsome := hreplaced.2.1
      rw [hnone] at hsome
      cases hsome

/-- A room that is not connected yet is reset. -/
theorem replaced_new :
    Replaced (after step (start {}) [.createInitRoom])
      (after step (after step (start {}) [.createInitRoom]).resetMediasoupRoom []) := by
  refine ((replaced_iff (after step (start {}) [.createInitRoom]) ⟨_, _, rfl⟩).2 [] ?_ ?_).mpr
    ⟨by decide +kernel, ?_⟩
  · exact fun e he => absurd he List.not_mem_nil
  · decide +kernel
  · exact fun entry hmem => absurd hmem (DelayQueue.not_mem_empty entry)

/-- A connected room is reset.  The task closes the new client, and the old one stays open. -/
theorem not_replaced_connected :
    let c := after step (start {}) [.createInitRoom, .setConnectionState (some .CONNECTED)]
    let d := after step c.resetMediasoupRoom [.runNext]
    c.mRoomClient = some 0 ∧ d.mMainHandler = .empty ∧ d.closed = [1] ∧ d.mRoomClient = none ∧
      ¬ Replaced c d := by
  refine ⟨by decide +kernel, by decide +kernel, by decide +kernel, by decide +kernel, fun h => ?_⟩
  have hcurrent := h.2.1
  revert hcurrent
  decide +kernel

end Calls

end MediasoupDemo.Call
