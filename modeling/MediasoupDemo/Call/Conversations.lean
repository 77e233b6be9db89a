import MediasoupDemo.Call.Signalling

/-!
# Calls of several conversations

The loader has one current call.  What happens to it when a message of another conversation
arrives, and what is sent when the user leaves it?

* Most messages of another conversation close that conversation, and `closedMediasoup` resets
  the current call unless a room is connecting (`undisturbed_closedFor`, `curRConvId_closedFor`).
* An invitation from another user replaces the current call unless a room is connecting.
* `callSelfCancel` closes the call before it sends, and a closed call has no conversation to
  send to.
-/

namespace MediasoupDemo.Call

open Protoo

namespace HandlerEvent

/-- The event says that a call of the conversation was missed, closed or established. -/
def Reports (rConvId : String) : HandlerEvent → Prop
  | .onMissedCall conv _ _ _ | .onEstablishedCall conv _ | .onClosedCall _ conv _ _ =>
      conv = rConvId
  | .onReady _ | .onSend .. | .onIncomingCall .. | .onAnsweredCall _ => False

/-- The event is a message to the other side. -/
def isSend : HandlerEvent → Bool
  | .onSend .. => true
  | _ => false

end HandlerEvent

namespace Loader

variable {l l' l'' : Loader} {rConvId : String} {event : HandlerEvent}

/-! ## What the handler is told -/

theorem tell_eq (hhandler : l.mediasoupHandler.isSome = true) (hconv : rConvId ≠ "") :
    l.tell rConvId event = l.report event := by
  unfold tell
  rw [if_pos]
  simp [hhandler, hconv]

theorem tell_empty : l.tell "" event = l := by
  unfold tell
  rw [if_neg]
  simp

/-- Only the events may change, and by no more than the one that is told. -/
theorem tell_cases (l : Loader) (rConvId : String) (event : HandlerEvent) :
    l.tell rConvId event = l ∨ l.tell rConvId event = l.report event := by
  unfold tell
  split
  · exact .inr rfl
  · exact .inl rfl

@[simp] theorem isInitAndCreate_tell :
    (l.tell rConvId event).isInitAndCreate = l.isInitAndCreate := by
  rcases tell_cases l rConvId event with heq | heq
  · rw [heq]
  · rw [heq]
    rfl

@[simp] theorem hasRoom_tell : (l.tell rConvId event).hasRoom = l.hasRoom := by
  rcases tell_cases l rConvId event with heq | heq
  · rw [heq]
  · rw [heq]
    rfl

theorem missedJoinMediasoup_of_not_create (h : l.isInitAndCreate = false) :
    l.missedJoinMediasoup = l := by
  unfold missedJoinMediasoup
  simp [h]

theorem incomingJoinMediasoup_cases (l : Loader) (rConvId : String) (msgTime : Int)
    (userId : String) (video_call should_ring : Bool) :
    l.incomingJoinMediasoup rConvId msgTime userId video_call should_ring = l ∨
      l.incomingJoinMediasoup rConvId msgTime userId video_call should_ring =
        l.report (.onIncomingCall rConvId msgTime userId video_call should_ring) := by
  unfold incomingJoinMediasoup
  split
  · exact .inl rfl
  · exact tell_cases l rConvId _

variable {reason : ClosedReason} {connecting : Bool} {userId : String} {msgTime : Int}

theorem closedMediasoup_of_not_create (h : l.isInitAndCreate = false) :
    l.closedMediasoup connecting reason rConvId msgTime userId = l := by
  unfold closedMediasoup
  simp [h]

theorem closedMediasoup_of_connecting (h : l.isInitAndCreate = true)
    (hroom : (l.hasRoom && connecting) = true) :
    l.closedMediasoup connecting reason rConvId msgTime userId =
      l.tell rConvId (.onClosedCall reason rConvId msgTime userId) := by
  rw [Bool.and_eq_true] at hroom
  unfold closedMediasoup mediasoupClose
  rw [hasRoom_tell]
  simp [h, hroom.1, hroom.2]

theorem closedMediasoup_of_not_connecting (h : l.isInitAndCreate = true)
    (hroom : (l.hasRoom && connecting) = false) :
    l.closedMediasoup connecting reason rConvId msgTime userId =
      (l.tell rConvId (.onClosedCall reason rConvId msgTime userId)).reset := by
  have hreset : (!l.hasRoom || !connecting) = true := by rw [← Bool.not_and, hroom]; rfl
  unfold closedMediasoup mediasoupClose
  rw [hasRoom_tell, if_neg (by simp [h]), if_pos hreset]

theorem sendMediasoupMsg_eq {callState : CallState} (hcreate : l.isInitAndCreate = true)
    (hhandler : l.mediasoupHandler.isSome = true) (hconv : rConvId ≠ "") :
    l.sendMediasoupMsg callState rConvId =
      l.report (.onSend rConvId l.getCurUserId l.getCurClientId l.incomingUserId
        l.incomingClientId (l.message callState)) := by
  unfold sendMediasoupMsg
  rw [if_neg (by simp [hcreate]), tell_eq hhandler hconv]

theorem events_closedMediasoup (hcreate : l.isInitAndCreate = true)
    (hhandler : l.mediasoupHandler.isSome = true) (hconv : rConvId ≠ "") :
    (l.closedMediasoup connecting reason rConvId msgTime userId).events =
      l.events ++ [.onClosedCall reason rConvId msgTime userId] := by
  cases hroom : l.hasRoom && connecting with
  | true =>
    rw [closedMediasoup_of_connecting hcreate hroom, tell_eq hhandler hconv]
    rfl
  | false =>
    rw [closedMediasoup_of_not_connecting hcreate hroom, tell_eq hhandler hconv]
    rfl

/-! ## The current call -/

/-- The call is as before, and the handler was not told that it was missed, closed or
established. -/
structure Undisturbed (l l' : Loader) : Prop where
  curRConvId : l'.curRConvId = l.curRConvId
  incomingUserId : l'.incomingUserId = l.incomingUserId
  incomingClientId : l'.incomingClientId = l.incomingClientId
  mediasoupCallType : l'.mediasoupCallType = l.mediasoupCallType
  mediasoupConvType : l'.mediasoupConvType = l.mediasoupConvType
  meidasoupStart : l'.meidasoupStart = l.meidasoupStart
  events : ∃ new, l'.events = l.events ++ new ∧ ∀ event ∈ new, ¬ event.Reports l.curRConvId

namespace Undisturbed

theorem refl (l : Loader) : Undisturbed l l :=
  ⟨rfl, rfl, rfl, rfl, rfl, rfl, [], (List.append_nil _).symm, fun _ h => absurd h List.not_mem_nil⟩

theorem trans (h : Undisturbed l l') (h' : Undisturbed l' l'') : Undisturbed l l'' where
  curRConvId := h'.curRConvId.trans h.curRConvId
  incomingUserId := h'.incomingUserId.trans h.incomingUserId
  incomingClientId := h'.incomingClientId.trans h.incomingClientId
  mediasoupCallType := h'.mediasoupCallType.trans h.mediasoupCallType
  mediasoupConvType := h'.mediasoupConvType.trans h.mediasoupConvType
  meidasoupStart := h'.meidasoupStart.trans h.meidasoupStart
  events := by
    obtain ⟨new, hnew, hsilent⟩ := h.events
    obtain ⟨new', hnew', hsilent'⟩ := h'.events
    refine ⟨new ++ new', by rw [hnew', hnew, List.append_assoc], fun event hevent => ?_⟩
    rcases List.mem_append.mp hevent with hevent | hevent
    · exact hsilent event hevent
    · rw [← h.curRConvId]
      exact hsilent' event hevent

theorem tell (h : ¬ event.Reports l.curRConvId) (rConvId : String) :
    Undisturbed l (l.tell rConvId event) := by
  rcases tell_cases l rConvId event with heq | heq
  · rw [heq]
    exact refl l
  · rw [heq]
    exact ⟨rfl, rfl, rfl, rfl, rfl, rfl, [event], rfl, fun _ hmem => List.mem_singleton.mp hmem ▸ h⟩

theorem sendMediasoupMsg (l : Loader) (callState : CallState) (rConvId : String) :
    Undisturbed l (l.sendMediasoupMsg callState rConvId) := by
  unfold Loader.sendMediasoupMsg
  split
  · exact refl l
  · refine tell ?_ rConvId
    exact not_false

end Undisturbed

/-- The call is still the current one, or the handler was told that it was closed. -/
def Kept (l l' : Loader) : Prop :=
  (l'.curRConvId = l.curRConvId ∧ l'.incomingUserId = l.incomingUserId ∧
      l'.incomingClientId = l.incomingClientId) ∨
    ∃ new, l'.events = l.events ++ new ∧
      ∃ reason msgTime userId, .onClosedCall reason l.curRConvId msgTime userId ∈ new

theorem Undisturbed.kept (h : Undisturbed l l') : Kept l l' :=
  .inl ⟨h.curRConvId, h.incomingUserId, h.incomingClientId⟩

/-- Another conversation is current, and the only news is not about the old one. -/
theorem not_kept (event : HandlerEvent) (hconv : l'.curRConvId ≠ l.curRConvId)
    (hevents : l'.events = l.events ∨ l'.events = l.events ++ [event])
    (h : ∀ reason msgTime userId, event ≠ .onClosedCall reason l.curRConvId msgTime userId) :
    ¬ Kept l l' := by
  rintro (hkept | ⟨new, hnew, reason, msgTime, userId, hmem⟩)
  · exact hconv hkept.1
  · rcases hevents with heq | heq
    · rw [List.self_eq_append_right.mp (heq.symm.trans hnew)] at hmem
      exact absurd hmem List.not_mem_nil
    · have hnew : new = [event] := (List.append_cancel_left (heq.symm.trans hnew)).symm
      rw [hnew] at hmem
      exact h reason msgTime userId (List.mem_singleton.mp hmem).symm

/-- The message of the call's own conversation. -/
def sent (l : Loader) (callState : CallState) : HandlerEvent :=
  .onSend l.curRConvId l.getCurUserId l.getCurClientId l.incomingUserId l.incomingClientId
    (l.message callState)

/-- Of what the handler was told since, one thing is a message, of this state and to the
conversation of the call. -/
def SendsOne (l l' : Loader) (callState : CallState) : Prop :=
  ∃ new, l'.events = l.events ++ new ∧ new.filter HandlerEvent.isSend = [l.sent callState]

end Loader

namespace Calls

open Loader

variable {lib : CallLibrary} {c : Calls} {m : CallMessage}

/-! ## Messages of another conversation -/

theorem toLoader_closedFor (c : Calls) (m : CallMessage) (reason : ClosedReason) :
    (c.closedFor m reason).toLoader =
      c.toLoader.closedMediasoup c.toRoomManagement.isRoomConnecting reason m.rConvId m.msgTime
        m.userId := rfl

/-- Closing another conversation leaves the current call alone while a room is connecting. -/
theorem undisturbed_closedFor (hother : m.rConvId ≠ c.curRConvId)
    (h : c.isInitAndCreate = false ∨ c.isRoomConnecting = true) (reason : ClosedReason) :
    Undisturbed c.toLoader (c.closedFor m reason).toLoader := by
  rw [toLoader_closedFor]
  cases hcreate : c.isInitAndCreate with
  | false =>
    rw [closedMediasoup_of_not_create hcreate]
    exact Undisturbed.refl _
  | true =>
    have hroom : c.isRoomConnecting = true := h.resolve_left (by simp [hcreate])
    rw [closedMediasoup_of_connecting hcreate hroom]
    refine Undisturbed.tell ?_ _
    exact hother

/-- Closing any conversation resets the current call while no room is connecting. -/
theorem curRConvId_closedFor (hcreate : c.isInitAndCreate = true)
    (hroom : c.isRoomConnecting = false) (reason : ClosedReason) :
    (c.closedFor m reason).curRConvId = "" := by
  rw [toLoader_closedFor, closedMediasoup_of_not_connecting hcreate hroom]
  rfl

/-- The message is an invitation that has just been sent. -/
def Fresh (lib : CallLibrary) (m : CallMessage) (object : JSONObject) : Prop :=
  m.isMediasoup = true ∧ m.msg ≠ "" ∧ lib.parse m.msg = some object ∧
    CallState.fromOrdinalType (optInt lib.toOrgJson object "call_state" (-1)) = .Started ∧
    m.isLate = false

/-- What was done before a conversation is closed: the loader is initialised, and the current
call is left alone if closing leaves it alone. -/
structure Prepares (c d : Calls) : Prop where
  create : d.isInitAndCreate = c.isCreateMediasoup
  room : d.isRoomConnecting = c.isRoomConnecting
  undisturbed : c.isCreateMediasoup = false ∨ c.isRoomConnecting = true →
    Undisturbed c.toLoader d.toLoader

theorem Prepares.init (c : Calls) : Prepares c (c.loader mediasoupInit) where
  create := rfl
  room := rfl
  undisturbed _ := ⟨rfl, rfl, rfl, rfl, rfl, rfl, (Undisturbed.refl c.toLoader).events⟩

/-- While a room is connecting, an invitation is declined. -/
theorem Prepares.decline (c : Calls) (rConvId : String) :
    Prepares c ((c.loader mediasoupInit).loader
      fun l => l.sendMediasoupMsg .Canceled rConvId) where
  create := by
    show (sendMediasoupMsg _ _ _).isInitAndCreate = _
    unfold sendMediasoupMsg
    split
    · rfl
    · exact isInitAndCreate_tell
  room := by
    show ((sendMediasoupMsg _ _ _).hasRoom && _) = _
    unfold sendMediasoupMsg
    split
    · rfl
    · rw [hasRoom_tell]
      rfl
  undisturbed h :=
    ((Prepares.init c).undisturbed h).trans (Undisturbed.sendMediasoupMsg _ _ _)

/-- While no room is connecting, a late invitation reports the current call as missed. -/
theorem Prepares.missed (hroom : c.isRoomConnecting = false) :
    Prepares c ((c.loader mediasoupInit).loader missedJoinMediasoup) where
  create := by
    show (missedJoinMediasoup _).isInitAndCreate = _
    unfold missedJoinMediasoup
    split
    · rfl
    · exact isInitAndCreate_tell
  room := by
    show ((missedJoinMediasoup _).hasRoom && _) = _
    unfold missedJoinMediasoup
    split
    · rfl
    · rw [hasRoom_tell]
      rfl
  undisturbed h := by
    have hcreate : (c.loader mediasoupInit).isInitAndCreate = false :=
      h.resolve_right (by simp [hroom])
    rw [toLoader_loader, missedJoinMediasoup_of_not_create hcreate]
    exact (Prepares.init c).undisturbed h

/-- A message of another conversation, but for a fresh invitation while no room is connecting,
closes that conversation. -/
theorem receiveCallMessage_eq_closedFor (hmsg : m.isMediasoup = true)
    (hcase : same lib c.curRConvId m.rConvId = false)
    (hfresh : c.isRoomConnecting = false → ∀ object, ¬ Fresh lib m object) :
    ∃ d reason, Prepares c d ∧ receiveCallMessage lib c m = d.closedFor m reason := by
  have hcase' : same lib (c.loader mediasoupInit).curRConvId m.rConvId = false := hcase
  have hroom : (c.loader mediasoupInit).isRoomConnecting = c.isRoomConnecting := rfl
  simp only [receiveCallMessage, hmsg, Bool.not_true, Bool.false_eq_true, if_false]
  split
  · exact ⟨_, _, .init c, rfl⟩
  · rename_i hempty
    split
    · exact ⟨_, _, .init c, rfl⟩
    · rename_i object hparse
      unfold dispatch
      split <;> rename_i hstate
      · cases hconnecting : c.isRoomConnecting with
        | true =>
          refine ⟨_, .AnsweredElsewhere, .decline c m.rConvId, ?_⟩
          simp only [onStarted, hroom, hconnecting, hcase', Bool.not_false, if_true]
        | false =>
          -- the invitation is not fresh, so it is late
          have hlate : m.isLate = true := by
            by_contra hlate
            refine hfresh hconnecting object ⟨hmsg, ?_, hparse, hstate, by simpa using hlate⟩
            simpa [String.isEmpty_iff] using hempty
          refine ⟨_, .Timeout, .missed hconnecting, ?_⟩
          simp only [onStarted, hroom, hconnecting, hlate, Bool.false_eq_true, if_false, if_true]
      · refine ⟨_, .AnsweredElsewhere, .init c, ?_⟩
        simp only [onAccepted, hcase', Bool.not_false, if_true]
      · refine ⟨_, .Rejected, .init c, ?_⟩
        simp only [onLeft, hcase', Bool.not_false, if_true]
      · refine ⟨_, .Normal, .init c, ?_⟩
        simp only [onLeft, hcase', Bool.not_false, if_true]
      · refine ⟨_, .Canceled, .init c, ?_⟩
        simp only [onCanceled, hcase', Bool.not_false, if_true]
      · refine ⟨_, .TimeoutEconn, .init c, ?_⟩
        simp only [onLeft, hcase', Bool.not_false, if_true]

/-- A message of another conversation, but for a fresh invitation while no room is connecting,
leaves the current call alone just when it is not one of mediasoup, or the loader was not
created, or a room is connecting. -/
theorem undisturbed_iff (lib : CallLibrary) (c : Calls) (m : CallMessage)
    (hcall : c.curRConvId ≠ "") (hother : m.rConvId ≠ c.curRConvId)
    (hcase : same lib c.curRConvId m.rConvId = false)
    (hfresh : c.isRoomConnecting = false → ∀ object, ¬ Fresh lib m object) :
    Undisturbed c.toLoader (receiveCallMessage lib c m).toLoader ↔
      m.isMediasoup = false ∨ c.isCreateMediasoup = false ∨ c.isRoomConnecting = true := by
  cases hmsg : m.isMediasoup with
  | false =>
    rw [receiveCallMessage, if_pos (by simp [hmsg])]
    exact iff_of_true (Undisturbed.refl _) (.inl rfl)
  | true =>
    obtain ⟨d, reason, hprepares, heq⟩ := receiveCallMessage_eq_closedFor hmsg hcase hfresh
    rw [heq]
    constructor
    · intro hundisturbed
      refine .inr (Classical.or_iff_not_imp_left.mpr fun hcreate => ?_)
      by_contra hroom
      rw [Bool.not_eq_false, ← hprepares.create] at hcreate
      rw [Bool.not_eq_true, ← hprepares.room] at hroom
      exact hcall (hundisturbed.curRConvId.symm.trans (curRConvId_closedFor hcreate hroom reason))
    · intro h
      have h : c.isCreateMediasoup = false ∨ c.isRoomConnecting = true := h.resolve_left nofun
      have hd := hprepares.undisturbed h
      rw [← hprepares.create, ← hprepares.room] at h
      exact hd.trans (undisturbed_closedFor (hd.curRConvId ▸ hother) h reason)

/-- A message that the other side of a conversation has just sent. -/
def fromOther (callState : Int) (rConvId : String) : CallMessage where
  msg := Json.print (.object [("call_state", .int callState)])
  curTime := 1000
  msgTime := 0
  rConvId := rConvId
  userId := "other"
  clientId := "laptop"
  isMediasoup := true

/-- A library that can parse invitations and ends of calls. -/
def parsing : CallLibrary :=
  CallLibrary.sample [[("call_state", .int 0)], [("call_state", .int 3)]]

/-- A loader with a handler. -/
def ready : Calls :=
  Calls.loader ⟨{}, {}⟩ fun l => l.mediasoupCreate "me" "phone" (some ⟨"me", "phone"⟩)

/-- An invitation is ringing. -/
def ringing : Calls := receiveCallMessage parsing ready (fromOther 0 "A")

/-- A call has been started, and the service has made its room. -/
def calling : Calls :=
  (ready.loader fun l => { l.mediasoupStartCall "A" 0 0 with hasRoom := true }).room
    RoomManagement.create

def connected : Calls := calling.room fun r => { r with connectionState := some .CONNECTED }

/-- Another conversation ends while the room is connected. -/
theorem undisturbed_connected :
    Undisturbed connected.toLoader
      (receiveCallMessage parsing connected (fromOther 3 "B")).toLoader :=
  (undisturbed_iff parsing connected (fromOther 3 "B") (by decide) (by decide) (by decide)
    (fun h => absurd h (by decide))).mpr (.inr (.inr (by decide)))

/-- The end of another conversation stops the ringing. -/
theorem not_undisturbed_ringing :
    ringing.curRConvId = "A" ∧ (fromOther 3 "B").rConvId = "B" ∧
      (receiveCallMessage parsing ringing (fromOther 3 "B")).curRConvId = "" ∧
      ¬ Undisturbed ringing.toLoader
        (receiveCallMessage parsing ringing (fromOther 3 "B")).toLoader := by
  refine ⟨by decide +kernel, rfl, by decide +kernel, fun h => ?_⟩
  have hconv := h.curRConvId
  revert hconv
  decide +kernel

/-! ## Invitations -/

variable {object : JSONObject}

theorem receiveCallMessage_of_object (hmsg : m.isMediasoup = true) (hempty : m.msg ≠ "")
    (hparse : lib.parse m.msg = some object) :
    receiveCallMessage lib c m = (c.loader mediasoupInit).dispatch lib m object := by
  have hempty : m.msg.isEmpty = false := by simpa [String.isEmpty_iff] using hempty
  simp only [receiveCallMessage, hmsg, hempty, hparse, Bool.not_true, Bool.false_eq_true, if_false]

theorem receiveCallMessage_of_fresh (h : Fresh lib m object) :
    receiveCallMessage lib c m = (c.loader mediasoupInit).onStarted lib m object := by
  obtain ⟨hmsg, hempty, hparse, hstate, -⟩ := h
  rw [receiveCallMessage_of_object hmsg hempty hparse, dispatch, hstate]

/-- While a room is connecting, an invitation is declined, or accepted once more. -/
theorem undisturbed_onStarted (hother : m.rConvId ≠ c.curRConvId)
    (hroom : c.isRoomConnecting = true) :
    Undisturbed c.toLoader
      ((c.loader mediasoupInit).onStarted lib m object).toLoader := by
  have hroom' : (c.loader mediasoupInit).isRoomConnecting = true := hroom
  unfold onStarted
  rw [if_pos hroom']
  split
  · have hd := Prepares.decline c m.rConvId
    have hundisturbed := hd.undisturbed (.inr hroom)
    refine hundisturbed.trans (undisturbed_closedFor ?_ (.inr (hd.room.trans hroom)) _)
    rw [hundisturbed.curRConvId]
    exact hother
  · exact ((Prepares.init c).undisturbed (.inr hroom)).trans
      (Undisturbed.sendMediasoupMsg _ _ _)

/-- The conversation of an invitation is closed while no room is connecting. -/
theorem not_kept_closedFor (hcall : c.curRConvId ≠ "") (hother : m.rConvId ≠ c.curRConvId)
    (hcreate : c.isInitAndCreate = true) (hroom : c.isRoomConnecting = false)
    (reason : ClosedReason) : ¬ Kept c.toLoader (c.closedFor m reason).toLoader := by
  refine not_kept (.onClosedCall reason m.rConvId m.msgTime m.userId) ?_ ?_ ?_
  · rw [curRConvId_closedFor hcreate hroom reason]
    exact hcall.symm
  · rw [toLoader_closedFor, closedMediasoup_of_not_connecting hcreate hroom]
    rcases tell_cases c.toLoader m.rConvId
      (.onClosedCall reason m.rConvId m.msgTime m.userId) with heq | heq
    · exact .inl (by rw [heq]; rfl)
    · exact .inr (by rw [heq]; rfl)
  · intro reason' msgTime userId heq
    injection heq with _ hconv
    exact hother hconv

/-- The invitation takes the place of the current call. -/
theorem not_kept_invited (hother : m.rConvId ≠ c.curRConvId) :
    ¬ Kept c.toLoader (invited lib c m object).toLoader := by
  unfold invited
  rw [toLoader_loader]
  rcases incomingJoinMediasoup_cases (c.toLoader.takeInvitation lib m object) m.rConvId
    m.msgTime m.userId _ _ with heq | heq
  · rw [heq]
    exact not_kept (.onReady true) hother (.inl rfl) nofun
  · rw [heq]
    refine not_kept _ hother (.inr rfl) ?_
    intro reason msgTime userId hevent
    cases hevent

/-- An invitation of another conversation keeps the current call just when a room is connecting,
or when it comes from the own user and either from the own client or to a loader that was not
created. -/
theorem kept_iff (lib : CallLibrary) (c : Calls) (m : CallMessage) (object : JSONObject)
    (hcall : c.curRConvId ≠ "") (hother : m.rConvId ≠ c.curRConvId)
    (hfresh : Fresh lib m object) :
    Kept c.toLoader (receiveCallMessage lib c m).toLoader ↔
      c.isRoomConnecting = true ∨
        (same lib c.toLoader.mediasoupInit.getCurUserId m.userId = true ∧
          (same lib c.toLoader.mediasoupInit.getCurClientId m.clientId = true ∨
            c.isCreateMediasoup = false)) := by
  rw [receiveCallMessage_of_fresh hfresh]
  cases hroom : c.isRoomConnecting with
  | true => exact iff_of_true (undisturbed_onStarted hother hroom).kept (.inl rfl)
  | false =>
    have hinit := Prepares.init c
    have hroom' : (c.loader mediasoupInit).isRoomConnecting = false := hroom
    have hlate : m.isLate = false := hfresh.2.2.2.2
    simp only [onStarted, hroom', hlate, Bool.false_eq_true, if_false, false_or]
    cases huser : same lib c.toLoader.mediasoupInit.getCurUserId m.userId with
    | false =>
      refine iff_of_false ?_ fun h => Bool.false_ne_true h.1
      rw [toLoader_loader, huser]
      exact not_kept_invited hother
    | true =>
      rw [toLoader_loader, huser, if_pos rfl]
      cases hclient : same lib c.toLoader.mediasoupInit.getCurClientId m.clientId with
      | true => exact iff_of_true (.inl ⟨rfl, rfl, rfl⟩) ⟨rfl, .inl rfl⟩
      | false =>
        rw [if_pos (by rfl)]
        cases hcreate : c.isCreateMediasoup with
        | false =>
          refine iff_of_true ?_ ⟨rfl, .inr rfl⟩
          have hd := hinit.undisturbed (.inl hcreate)
          rw [← hinit.create] at hcreate
          exact (hd.trans (undisturbed_closedFor (hd.curRConvId ▸ hother) (.inl hcreate) _)).kept
        | true =>
          refine iff_of_false ?_ (by simp)
          rw [← hinit.create] at hcreate
          exact not_kept_closedFor (c := c.loader mediasoupInit) hcall hother hcreate hroom _

/-- An invitation is declined while the room is connected. -/
theorem kept_connected :
    Kept connected.toLoader
      (receiveCallMessage parsing connected (fromOther 0 "B")).toLoader :=
  (kept_iff parsing connected (fromOther 0 "B") [("call_state", .int 0)] (by decide) (by decide)
    ⟨rfl, by decide +kernel, rfl, rfl, by decide⟩).mpr (.inl (by decide))

/-- A second invitation takes the place of the first, and of a call that was started. -/
theorem not_kept_ringing :
    ¬ Kept ringing.toLoader
        (receiveCallMessage parsing ringing (fromOther 0 "B")).toLoader ∧
      ¬ Kept calling.toLoader
        (receiveCallMessage parsing calling (fromOther 0 "B")).toLoader := by
  constructor
  · refine not_kept (.onIncomingCall "B" 0 "other" false true) ?_ (.inr rfl) ?_
    · decide +kernel
    · intro reason msgTime userId heq
      cases heq
  · refine not_kept (.onIncomingCall "B" 0 "other" false true) ?_ (.inr rfl) ?_
    · decide +kernel
    · intro reason msgTime userId heq
      cases heq

/-! ## Leaving the call -/

/-- A message is sent, then the conversation is closed. -/
theorem sendsOne_of_send (callState : CallState) (reason : ClosedReason)
    (hconv : c.curRConvId ≠ "") (hcreate : c.isInitAndCreate = true)
    (hhandler : c.mediasoupHandler.isSome = true) :
    SendsOne c.toLoader ((c.sendCurrent callState).closedCurrent reason).toLoader
      callState := by
  have hsend : (c.sendCurrent callState).toLoader = c.report (c.sent callState) :=
    sendMediasoupMsg_eq hcreate hhandler hconv
  refine ⟨[c.sent callState] ++
    [.onClosedCall reason c.curRConvId c.incomingMsgTime c.incomingUserId], ?_, rfl⟩
  show ((c.sendCurrent callState).toLoader.closedMediasoup _ _ _ _ _).events = _
  rw [hsend, ← List.append_assoc]
  exact events_closedMediasoup (l := c.report (c.sent callState)) hcreate hhandler hconv

/-- The conversation is closed before the message is sent. -/
theorem sendsOne_callSelfCancel_iff (hconv : c.curRConvId ≠ "")
    (hcreate : c.isInitAndCreate = true) (hhandler : c.mediasoupHandler.isSome = true) :
    SendsOne c.toLoader c.callSelfCancel.toLoader .Canceled ↔ c.isRoomConnecting = true := by
  show SendsOne c.toLoader
    ((c.closedCurrent .Canceled).toLoader.sendMediasoupMsg .Canceled
      (c.closedCurrent .Canceled).curRConvId) .Canceled ↔ _
  let closed : HandlerEvent :=
    .onClosedCall .Canceled c.curRConvId c.incomingMsgTime c.incomingUserId
  cases hroom : c.isRoomConnecting with
  | true =>
    have hreport : (c.closedCurrent .Canceled).toLoader = c.report closed :=
      (closedMediasoup_of_connecting hcreate hroom).trans (tell_eq hhandler hconv)
    have hconv' : (c.report closed).curRConvId ≠ "" := hconv
    refine iff_of_true ⟨[closed] ++ [c.sent .Canceled], ?_, rfl⟩ rfl
    rw [hreport, sendMediasoupMsg_eq (l := c.report closed) hcreate hhandler hconv',
      ← List.append_assoc]
    rfl
  | false =>
    have hreset : (c.closedCurrent .Canceled).toLoader = (c.report closed).reset :=
      (closedMediasoup_of_not_connecting hcreate hroom).trans
        (congrArg reset (tell_eq hhandler hconv))
    -- the conversation is forgotten, so there is nobody to send to
    have hevents : ((c.report closed).reset.sendMediasoupMsg .Canceled "").events =
        c.events ++ [closed] := by
      unfold sendMediasoupMsg
      rw [tell_empty, ite_self]
      rfl
    refine iff_of_false ?_ Bool.false_ne_true
    rintro ⟨new, hnew, hfilter⟩
    rw [hreset] at hnew
    have hnew : new = [closed] := (List.append_cancel_left (hevents.symm.trans hnew)).symm
    rw [hnew] at hfilter
    cases hfilter

/-- While there is a conversation, ending and rejecting the call send one message, and cancelling
it sends one just when a room is connecting. -/
theorem sendsOne_iff (c : Calls) (hconv : c.curRConvId ≠ "") (hcreate : c.isInitAndCreate = true)
    (hhandler : c.mediasoupHandler.isSome = true) :
    SendsOne c.toLoader c.callSelfEnd.toLoader .Ended ∧
      SendsOne c.toLoader c.callSelfReject.toLoader .Rejected ∧
      (SendsOne c.toLoader c.callSelfCancel.toLoader .Canceled ↔
        c.isRoomConnecting = true) :=
  ⟨sendsOne_of_send .Ended .Normal hconv hcreate hhandler,
    sendsOne_of_send .Rejected .Rejected hconv hcreate hhandler,
    sendsOne_callSelfCancel_iff hconv hcreate hhandler⟩

/-- Each of the three sends its message while the room is connected. -/
theorem sendsOne_connected :
    SendsOne connected.toLoader connected.callSelfEnd.toLoader .Ended ∧
      SendsOne connected.toLoader connected.callSelfReject.toLoader .Rejected ∧
      SendsOne connected.toLoader connected.callSelfCancel.toLoader .Canceled := by
  obtain ⟨hend, hreject, hcancel⟩ := sendsOne_iff connected (by decide) rfl rfl
  exact ⟨hend, hreject, hcancel.mpr (by decide)⟩

/-- A call is cancelled before its room is connecting. -/
theorem not_sendsOne_calling :
    calling.curRConvId = "A" ∧ calling.isInitAndCreate = true ∧
      calling.callSelfCancel.events = [.onClosedCall .Canceled "A" 0 ""] ∧
      ¬ SendsOne calling.toLoader calling.callSelfCancel.toLoader .Canceled := by
  refine ⟨rfl, rfl, rfl, ?_⟩
  rintro ⟨new, hnew, hfilter⟩
  have hnew : [.onClosedCall .Canceled "A" 0 ""] = new := hnew
  rw [← hnew] at hfilter
  cases hfilter

end Calls

end MediasoupDemo.Call
