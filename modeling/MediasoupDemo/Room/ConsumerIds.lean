import MediasoupDemo.Room.Session

/-!
# The consumers of the handler and of the store

`RoomMessageHandler.mConsumers` and the `Consumers` of the store are two maps with the
consumer ids as keys.  A new consumer enters both, and `consumerClosed` takes it out of
both.  The transport-close listener only takes it out of `mConsumers`.

So the keys stay the same (`SameIds`) until a disconnect closes a transport with an open
consumer.  `sameIds_step_iff` is the step, from which the result about whole runs follows.
-/

namespace MediasoupDemo.Room

open MediasoupDemo.Runtime Protoo Method Trace Registry

namespace RoomClient

/-- The listeners of a client that is connecting take their consumers out. -/
theorem foldl_onTransportClose {c : RoomClient} (h : c.isConnecting = true) (ids : List String) :
    ids.foldl onTransportClose c =
      { c with mConsumers := ids.foldl (fun m id => m.erase id) c.mConsumers } := by
  induction ids generalizing c with
  | nil => rfl
  | cons id ids ih =>
    rw [List.foldl_cons, onTransportClose, if_pos h, ih (by exact h)]
    rfl

end RoomClient

namespace Session

/-- The handler and the store have the same consumer ids. -/
def SameIds (s : Session) : Prop := ∀ id, id ∈ s.client.mConsumers ↔ id ∈ s.client.mStore.consumers

/-- A disconnect finds no open consumer of the receive transport in `mConsumers`. -/
def NothingOpen (s : Session) (e : Event) : Prop :=
  e = .disconnect → ∀ n ∈ s.closing, n.id ∉ s.client.mConsumers

/-- The client is connecting, and a holder is filed under the id of its consumer. -/
structure Filed (s : Session) : Prop where
  connecting : s.client.isConnecting = true
  keyed : ∀ id holder, s.client.mConsumers.lookup id = some holder → holder.mConsumer.id = id

section Step

variable {s s' : Session} {lib : OrgJson}

/-- A task that leaves the ids of both maps alone. -/
theorem SameIds.of_same (h : s.SameIds) (hsame : s.client.SameMaps s'.client) : s'.SameIds := by
  intro id
  rw [hsame.mConsumers, hsame.consumers]
  exact h id

theorem Filed.of_same (h : s.Filed) (hsame : s.client.SameMaps s'.client) : s'.Filed := by
  refine ⟨hsame.isConnecting.trans h.connecting, ?_⟩
  rw [hsame.mConsumers]
  exact h.keyed

/-! ### Joins and requests -/

theorem Filed.join (h : s.Filed) (script : JoinScript) : (s.join lib script).Filed := by
  have hsame := RoomClient.sameMaps_joinImpl lib script s.client
  refine ⟨hsame.isConnecting.trans h.connecting, fun id holder hholder => ?_⟩
  exact h.keyed id holder (hsame.mConsumers ▸ hholder)

theorem SameIds.join (h : s.SameIds) (script : JoinScript) : (s.join lib script).SameIds := by
  have hsame := RoomClient.sameMaps_joinImpl lib script s.client
  intro id
  rw [consumers_join]
  exact (iff_of_eq (congrArg (id ∈ ·) hsame.mConsumers)).trans (h id)

theorem Filed.request (h : s.Filed) (native : RecvTransport) (script : Script)
    (request : ServerRequest) : (s.request lib native script request).Filed := by
  rcases request_cases lib native script request s with ⟨-, hsame⟩ | ⟨data, consumer, -, hsame⟩
  · exact h.of_same hsame.toSameMaps
  · refine Filed.of_same (s := s.file lib data consumer) ⟨h.connecting, ?_⟩ hsame.toSameMaps
    intro id holder hholder
    rcases lookup_insert_eq_some.mp hholder with ⟨rfl, rfl⟩ | ⟨-, hbefore⟩
    · rfl
    · exact h.keyed id holder hbefore

/-- A new consumer enters both maps. -/
theorem SameIds.request (h : s.SameIds) (native : RecvTransport) (script : Script)
    (request : ServerRequest) : (s.request lib native script request).SameIds := by
  rcases request_cases lib native script request s with ⟨-, hsame⟩ | ⟨data, consumer, -, hsame⟩
  · exact h.of_same hsame.toSameMaps
  · refine SameIds.of_same (s := s.file lib data consumer) (fun id => ?_) hsame.toSameMaps
    show id ∈ s.client.mConsumers.insert consumer.id _ ↔
      id ∈ s.client.mStore.consumers.insert consumer.id _
    rw [AList.mem_insert, AList.mem_insert, h id]

/-! ### Notifications -/

theorem Filed.notification (h : s.Filed) (method : NotificationMethod) (data : JSONObject) :
    (s.notification lib method data).Filed := by
  rcases notification_cases lib method data s with
    rfl | rfl | ⟨_, rfl, -, hclient⟩ | ⟨-, -, -, hsame⟩
  · exact ⟨h.connecting, h.keyed⟩
  · exact ⟨h.connecting, h.keyed⟩
  · refine ⟨hclient ▸ h.connecting, fun id holder hholder => ?_⟩
    rw [hclient] at hholder
    exact h.keyed id holder (lookup_erase_eq_some.mp hholder).2
  · exact h.of_same hsame.toSameMaps

/-- Only `consumerClosed` changes the ids, and it changes both maps. -/
theorem SameIds.notification (h : s.SameIds) (hfiled : s.Filed) (method : NotificationMethod)
    (data : JSONObject) : (s.notification lib method data).SameIds := by
  rcases notification_cases lib method data s with
    rfl | rfl | ⟨holder, rfl, hholder, hclient⟩ | ⟨-, -, -, hsame⟩
  · exact h
  · exact h
  · intro id
    rw [hclient]
    show id ∈ s.client.mConsumers.erase _ ↔ id ∈ s.client.mStore.consumers.erase holder.mConsumer.id
    rw [hfiled.keyed _ holder hholder, AList.mem_erase, AList.mem_erase, h id]
  · exact h.of_same hsame.toSameMaps

/-! ### Disconnects -/

theorem mConsumers_disconnect (h : s.Filed) :
    s.disconnect.client.mConsumers =
      (s.closing.map NativeConsumer.id).foldl (fun m id => m.erase id) s.client.mConsumers := by
  have hconnecting := h.connecting
  rw [disconnect, RoomClient.onDisconnected, RoomClient.disposeTransportDevice,
    RoomClient.foldl_onTransportClose (by exact hconnecting)]

theorem store_disconnect (h : s.Filed) :
    s.disconnect.client.mStore = s.client.mStore.addNotify "error" "WebSocket disconnected" ∧
      s.disconnect.client.isConnecting = s.client.isConnecting := by
  have hconnecting := h.connecting
  rw [disconnect, RoomClient.onDisconnected, RoomClient.disposeTransportDevice,
    RoomClient.foldl_onTransportClose (by exact hconnecting)]
  exact ⟨rfl, rfl⟩

theorem Filed.disconnect (h : s.Filed) : s.disconnect.Filed := by
  refine ⟨(store_disconnect h).2.trans h.connecting, fun id holder hholder => ?_⟩
  rw [mConsumers_disconnect h, lookup_foldl_erase] at hholder
  split at hholder
  · cases hholder
  · exact h.keyed id holder hholder

/-- The listeners take consumers out of `mConsumers` only. -/
theorem sameIds_disconnect_iff (h : s.SameIds) (hfiled : s.Filed) :
    s.disconnect.SameIds ↔ ∀ n ∈ s.closing, n.id ∉ s.client.mConsumers := by
  have hmem (id : String) : id ∈ s.disconnect.client.mConsumers ↔
      id ∈ s.client.mConsumers ∧ id ∉ s.closing.map NativeConsumer.id := by
    rw [← AList.lookup_isSome, mConsumers_disconnect hfiled, lookup_foldl_erase,
      ← AList.lookup_isSome (s := s.client.mConsumers)]
    split
    · rename_i hclosing
      simp [hclosing]
    · rename_i hclosing
      simp [hclosing]
  unfold SameIds
  rw [(store_disconnect hfiled).1]
  constructor
  · intro hsame n hn hin
    have hstored := (h n.id).mp hin
    have hkept := (hmem n.id).mp ((hsame n.id).mpr hstored)
    exact hkept.2 (List.mem_map_of_mem hn)
  · intro hnone id
    rw [hmem]
    refine Iff.trans (and_iff_left_of_imp fun hin hclosing => ?_) (h id)
    obtain ⟨n, hn, rfl⟩ := List.mem_map.mp hclosing
    exact hnone n hn hin

/-! ### Any task -/

theorem Filed.step (h : s.Filed) (e : Event) : (s.step lib e).Filed := by
  cases e with
  | join script => exact h.join script
  | request native script request => exact h.request native script request
  | notification method data => exact h.notification _ data
  | disconnect => exact h.disconnect

theorem sameIds_step_iff (h : s.SameIds) (hfiled : s.Filed) (e : Event) :
    (s.step lib e).SameIds ↔ NothingOpen s e := by
  have hother (hsame : (s.step lib e).SameIds) (he : e ≠ .disconnect) :
      (s.step lib e).SameIds ↔ NothingOpen s e :=
    ⟨fun _ heq => absurd heq he, fun _ => hsame⟩
  cases e with
  | join script => exact hother (h.join script) nofun
  | request native script request => exact hother (h.request native script request) nofun
  | notification method data => exact hother (h.notification hfiled _ data) nofun
  | disconnect =>
    refine (sameIds_disconnect_iff h hfiled).trans ⟨fun hnone _ => hnone, fun hnone => hnone rfl⟩

end Step

theorem filed_start (isConsume callback isAudioOnly : Bool) :
    (start isConsume callback isAudioOnly).Filed := by
  refine ⟨by cases callback <;> rfl, fun id holder hholder => ?_⟩
  cases hholder

/-- In every run of a client that is not closed the handler and the store have the same
consumer ids after every task, if and only if no disconnect finds an open consumer of the
receive transport in `mConsumers`. -/
theorem sameIds_iff (lib : OrgJson) (isConsume callback isAudioOnly : Bool) (events : List Event) :
    Always (step lib) (start isConsume callback isAudioOnly) SameIds events ↔
      Each (step lib) (start isConsume callback isAudioOnly) NothingOpen events :=
  always_iff_each (I := Filed) (filed_start isConsume callback isAudioOnly)
    (fun _ e h => h.step e) (fun _ => Iff.rfl) (fun _ e hfiled h => sameIds_step_iff h hfiled e)
    events

/-- A join without peers. -/
def emptyRoom : JoinScript where
  prepare := .ok ()
  recvTransport := .ok RoomClient.consuming
  response := .ok "\x7b\x7d"
  notAnObject := .illegalArgument "not an object"
  finish := .ok ()

/-- The server announces a consumer. -/
def newConsumer (id peerId : String) : Event :=
  .request RoomClient.consuming ⟨1, .ok "", .ok ()⟩
    ⟨"newConsumer", 5,
      some [("id", .string id), ("peerId", .string peerId), ("kind", .string "audio")]⟩

theorem sameIds_consumerClosed :
    Always (step (OrgJson.sample [])) (start true false false) SameIds
      [.join emptyRoom, newConsumer "c1" "p1",
        .notification "consumerClosed" [("consumerId", .string "c1")], .disconnect,
        .join emptyRoom] := by
  apply (sameIds_iff _ _ _ _ _).mpr
  refine each_cons.mpr ⟨nofun, each_cons.mpr ⟨nofun, each_cons.mpr ⟨nofun, each_cons.mpr
    ⟨fun _ n hn => ?_, each_cons.mpr ⟨nofun, each_nil⟩⟩⟩⟩⟩
  cases hn

/-- After a disconnect the store keeps a consumer that the handler has lost. -/
theorem not_sameIds_disconnect :
    ¬ Always (step (OrgJson.sample [])) (start true false false) SameIds
      [.join emptyRoom, newConsumer "c1" "p1", .disconnect] := by
  intro h
  exact absurd ((h.last "c1").mpr (by decide +kernel)) (by decide +kernel)

end Session

end MediasoupDemo.Room
