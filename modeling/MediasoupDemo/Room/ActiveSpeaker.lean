import MediasoupDemo.Room.PeerConsumers

/-!
# The active speaker of the store

The store keeps the active speaker and the peer of the statistics in `roomInfo`, and the peers in
an object of its own.  `removePeer` takes an id out of both.  The state `CLOSED` clears the peers
alone, and `setRoomActiveSpeaker` takes any id from the server.  `Current` says that the ids are of
peers of the store, and `KeepsCurrent` which events keep it so.
-/

namespace MediasoupDemo.Room

open Trace Registry

/-- The part of the store that the events below read and write.  In `RoomInfo` an id that is not
set is `null`. -/
structure SpeakerStore extends RoomStore where
  mActiveSpeakerId : Option String := none
  mStatsPeerId : Option String := none

namespace SpeakerStore

/-- What `removePeer` does with one of the two ids. -/
def clearId (peerId : String) (id : Option String) : Option String :=
  if !peerId.isEmpty && some peerId = id then none else id

def removePeer (s : SpeakerStore) (peerId : String) : SpeakerStore where
  toRoomStore := s.toRoomStore.removePeer peerId
  mActiveSpeakerId := clearId peerId s.mActiveSpeakerId
  mStatsPeerId := clearId peerId s.mStatsPeerId

/-- `setRoomState(CLOSED)`. -/
def close (s : SpeakerStore) : SpeakerStore :=
  { s with isAudioOnly := false, consumers := ∅, peers := ∅ }

/-- What the store is told, with the ids that `optString` has read. -/
inductive Event where
  | newPeer (id : String)
  | peerClosed (peerId : String)
  | activeSpeaker (peerId : String)
  /-- The peers of the response to a join. -/
  | join (ids : List String)
  | close

def step (s : SpeakerStore) : Event → SpeakerStore
  | .newPeer id => { s with toRoomStore := s.addPeer id }
  | .peerClosed peerId => s.removePeer peerId
  | .activeSpeaker peerId => { s with mActiveSpeakerId := some peerId }
  | .join ids => { s with toRoomStore := ids.foldl RoomStore.addPeer s.toRoomStore }
  | .close => s.close

/-- An id that `roomInfo` names, which is not empty and not the own one. -/
def Named (own : String) (s : SpeakerStore) (id : String) : Prop :=
  (s.mActiveSpeakerId = some id ∨ s.mStatsPeerId = some id) ∧ id ≠ "" ∧ id ≠ own

/-- The ids that `roomInfo` names are those of peers in the store. -/
def Current (own : String) (s : SpeakerStore) : Prop := ∀ id, s.Named own id → id ∈ s.peers

/-- The server names a speaker that is in the store, and no id is set when the room is closed. -/
def KeepsCurrent (own : String) (s : SpeakerStore) : Event → Prop
  | .activeSpeaker peerId => peerId ≠ "" → peerId ≠ own → peerId ∈ s.peers
  | .close => ∀ id, ¬ s.Named own id
  | _ => True

section Step

variable {own : String} {s : SpeakerStore}

theorem Current.more (h : s.Current own) {store : RoomStore}
    (hpeers : ∀ id, id ∈ s.peers → id ∈ store.peers) :
    ({ s with toRoomStore := store } : SpeakerStore).Current own :=
  fun id hid => hpeers id (h id hid)

/-- An id that is left is the one that was set, and not the closed one. -/
theorem clearId_eq_some {peerId id : String} {current : Option String}
    (h : clearId peerId current = some id) :
    current = some id ∧ ¬ (id = peerId ∧ peerId ≠ "") := by
  unfold clearId at h
  split at h
  · cases h
  · rename_i hkept
    subst h
    refine ⟨rfl, ?_⟩
    rintro ⟨rfl, hempty⟩
    simp [hempty] at hkept

theorem Current.removePeer (h : s.Current own) (peerId : String) :
    (s.removePeer peerId).Current own := by
  rintro id ⟨hset, hid⟩
  obtain ⟨hset, hother⟩ : (s.mActiveSpeakerId = some id ∨ s.mStatsPeerId = some id) ∧
      ¬ (id = peerId ∧ peerId ≠ "") := by
    rcases hset with hset | hset
    · exact ⟨.inl (clearId_eq_some hset).1, (clearId_eq_some hset).2⟩
    · exact ⟨.inr (clearId_eq_some hset).1, (clearId_eq_some hset).2⟩
  have hpeers := RoomStore.lookup_removePeer s.toRoomStore peerId id
  rw [if_neg hother] at hpeers
  show id ∈ (s.toRoomStore.removePeer peerId).peers
  rw [← AList.lookup_isSome, hpeers, AList.lookup_isSome]
  exact h id ⟨hset, hid⟩

theorem current_activeSpeaker_iff (h : s.Current own) (peerId : String) :
    (s.step (.activeSpeaker peerId)).Current own ↔ s.KeepsCurrent own (.activeSpeaker peerId) := by
  constructor
  · intro hcurrent hempty hown
    exact hcurrent peerId ⟨.inl rfl, hempty, hown⟩
  · rintro hkeeps id ⟨hset | hset, hempty, hown⟩
    · cases hset
      exact hkeeps hempty hown
    · exact h id ⟨.inr hset, hempty, hown⟩

theorem current_step_iff (h : s.Current own) (e : Event) :
    (s.step e).Current own ↔ s.KeepsCurrent own e := by
  cases e with
  | newPeer id =>
    refine iff_of_true (h.more fun peer hpeer => ?_) trivial
    exact (AList.mem_insert _).mpr (.inr hpeer)
  | peerClosed peerId => exact iff_of_true (h.removePeer peerId) trivial
  | activeSpeaker peerId => exact current_activeSpeaker_iff h peerId
  | join ids =>
    refine iff_of_true (h.more fun peer hpeer => ?_) trivial
    rw [RoomStore.peers_foldl_addPeer, ← AList.lookup_isSome, lookup_foldl_insert]
    split
    · rfl
    · exact AList.lookup_isSome.mpr hpeer
  | close =>
    refine forall_congr' fun id => imp_congr_right fun _ => iff_of_false ?_ not_false
    exact AList.notMem_empty id

end Step

/-- In every run of events on a new store the active speaker and the peer of the statistics are
in the store, if and only if the server names no other speaker and none is set when the room is
closed. -/
theorem current_iff (own : String) (events : List Event) :
    Always step {} (Current own) events ↔ Each step {} (KeepsCurrent own) events :=
  always_iff_each (I := fun _ => True) trivial (fun _ _ _ => trivial)
    (fun _ hid => hid.1.elim nofun nofun) (fun _ e _ h => current_step_iff h e) events

/-- A speaker is still set after the room was closed. -/
theorem not_current_closed :
    ¬ Always step {} (Current "me") [.join ["p1"], .activeSpeaker "p1", .close] := by
  intro h
  exact absurd (h.last "p1" ⟨.inl rfl, by decide, by decide⟩) (AList.notMem_empty "p1")

end SpeakerStore

end MediasoupDemo.Room
