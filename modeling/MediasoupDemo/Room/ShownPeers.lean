import MediasoupDemo.Room.PeerConsumers

/-!
# The peers that are shown

After a join the store should show the peers of the join response, and from then on
follow `newPeer` and `peerClosed`.  `expected` keeps this list, from a join that has
succeeded to the next disconnect.

A join only adds peers, and a disconnect leaves the store alone.  So a peer that has left
the room in between stays in the store: `UpToDate` says which tasks keep the store right
(`shown_step_iff`), from which the result about whole runs follows.
-/

namespace MediasoupDemo.Room

open MediasoupDemo.Runtime Protoo Method Trace Registry

namespace Session

/-- Between a join and the next disconnect the peers in the store are the expected ones. -/
def Shown (s : Session) : Prop :=
  s.joined = true → ∀ peer, peer ∈ s.client.mStore.peers ↔ peer ∈ s.expected

/-- A task leaves the right peers in the store.  A join that succeeds finds no peer that is
missing in its response, a join that fails adds no peer, and a peer without an id, which
`removePeer` skips, is not closed. -/
def UpToDate (lib : OrgJson) (s : Session) : Event → Prop
  | .join script =>
      if succeeds lib script s.client then
        ∀ peer ∈ s.client.mStore.peers, peer ∈ responsePeers lib script
      else
        s.joined = true →
          ∀ peer ∈ announced lib script s.client.isConsume, peer ∈ s.client.mStore.peers
  | .notification method data =>
      NotificationMethod.ofString method = .peerClosed → data.optString lib "peerId" = "" →
        s.joined = true → "" ∉ s.client.mStore.peers
  | _ => True

section Step

variable {s s' : Session} {lib : OrgJson}

/-! ### Joins -/

theorem mem_join (lib : OrgJson) (script : JoinScript) (s : Session) (peer : String) :
    peer ∈ (s.join lib script).client.mStore.peers ↔
      peer ∈ announced lib script s.client.isConsume ∨ peer ∈ s.client.mStore.peers := by
  rw [← AList.lookup_isSome, lookup_join, ← AList.lookup_isSome]
  split
  · rename_i hannounced
    simp [hannounced]
  · rename_i hannounced
    simp [hannounced]

theorem shown_join_iff (h : s.Shown) (script : JoinScript) :
    (s.join lib script).Shown ↔ UpToDate lib s (.join script) := by
  unfold Shown UpToDate
  simp only [mem_join]
  cases hsucceeds : succeeds lib script s.client with
  | true =>
    have hjoined : (s.join lib script).joined = true := by simp [join, hsucceeds]
    have hexpected : (s.join lib script).expected = responsePeers lib script := by
      simp [join, hsucceeds]
    rw [hexpected, RoomClient.announced_of_succeeds hsucceeds, if_pos rfl]
    constructor
    · intro hshown peer hpeer
      exact (hshown hjoined peer).mp (.inr hpeer)
    · intro hknown _ peer
      exact ⟨fun hpeer => hpeer.elim id (hknown peer), .inl⟩
  | false =>
    have hjoined : (s.join lib script).joined = s.joined := by simp [join, hsucceeds]
    have hexpected : (s.join lib script).expected = s.expected := by simp [join, hsucceeds]
    rw [hexpected, hjoined, if_neg Bool.false_ne_true]
    refine forall_congr' fun hin => ⟨fun hshown peer hpeer => ?_, fun hadded peer => ?_⟩
    · exact (h hin peer).mpr ((hshown peer).mp (.inl hpeer))
    · rw [← h hin peer]
      exact or_iff_right_of_imp (hadded peer)

/-! ### Requests and notifications -/

/-- A change of one list changes no key. -/
theorem mem_of_lookup_map {peers peers' : AList fun _ : String => List String} {p : Prop}
    [Decidable p] {f : List String → List String} {peer : String}
    (h : peers'.lookup peer = if p then (peers.lookup peer).map f else peers.lookup peer) :
    peer ∈ peers' ↔ peer ∈ peers := by
  rw [← AList.lookup_isSome, ← AList.lookup_isSome, h]
  split
  · rw [Option.isSome_map]
  · rfl

/-- A task that leaves the peers alone. -/
theorem Shown.of_same (h : s.Shown) (hjoined : s'.joined = s.joined)
    (hexpected : s'.expected = s.expected)
    (hpeers : ∀ peer, peer ∈ s'.client.mStore.peers ↔ peer ∈ s.client.mStore.peers) : s'.Shown := by
  intro hin peer
  rw [hjoined] at hin
  rw [hpeers, hexpected]
  exact h hin peer

theorem Shown.request (h : s.Shown) (native : RecvTransport) (script : Script)
    (request : ServerRequest) : (s.request lib native script request).Shown := by
  rcases request_cases lib native script request s with ⟨-, hsame⟩ | ⟨data, consumer, -, hsame⟩
  · refine h.of_same hsame.joined hsame.expected fun peer => ?_
    rw [hsame.peers]
  · refine h.of_same hsame.joined hsame.expected fun peer => ?_
    rw [hsame.peers]
    exact mem_of_lookup_map (RoomStore.lookup_addConsumer s.client.mStore _ _ _ _ peer)

theorem shown_newPeer (h : s.Shown) (data : JSONObject) :
    (s.notification lib .newPeer data).Shown := by
  intro hin peer
  show peer ∈ s.client.mStore.peers.insert (data.optString lib "id") [] ↔
    peer ∈ s.expected ++ [data.optString lib "id"]
  rw [AList.mem_insert, mem_snoc, h hin peer, or_comm]

theorem shown_peerClosed_iff (h : s.Shown) (data : JSONObject) :
    (s.notification lib .peerClosed data).Shown ↔
      (data.optString lib "peerId" = "" → s.joined = true → "" ∉ s.client.mStore.peers) := by
  have hmem (peer : String) : peer ∈ (s.notification lib .peerClosed data).client.mStore.peers ↔
      ¬ (peer = data.optString lib "peerId" ∧ data.optString lib "peerId" ≠ "") ∧
        peer ∈ s.client.mStore.peers := by
    have hpeers := RoomStore.lookup_removePeer s.client.mStore (data.optString lib "peerId") peer
    rw [← AList.lookup_isSome, ← AList.lookup_isSome (s := s.client.mStore.peers)]
    refine (iff_of_eq (congrArg (fun o => o.isSome = true) hpeers)).trans ?_
    split
    · rename_i hclosed
      simp [hclosed]
    · rename_i hclosed
      simp [hclosed]
  have hexpected (peer : String) : peer ∈ (s.notification lib .peerClosed data).expected ↔
      peer ∈ s.expected ∧ peer ≠ data.optString lib "peerId" := by
    refine List.mem_filter.trans ?_
    simp
  generalize data.optString lib "peerId" = peerId at hmem hexpected ⊢
  constructor
  · intro hshown hid hin hstored
    have hkept := (hshown hin "").mp ((hmem "").mpr ⟨fun h => h.2 hid, hstored⟩)
    exact ((hexpected "").mp hkept).2 hid.symm
  · intro hcond hin peer
    rw [hmem, hexpected, h hin peer, and_comm]
    refine and_congr_right fun hpeer => ?_
    by_cases hid : peerId = ""
    · refine iff_of_true (fun h => h.2 hid) fun heq => ?_
      rw [heq, hid] at hpeer
      exact hcond hid hin ((h hin "").mpr hpeer)
    · simp [hid]

theorem shown_notification_iff (h : s.Shown) (method : NotificationMethod) (data : JSONObject) :
    (s.notification lib method data).Shown ↔
      (method = .peerClosed → data.optString lib "peerId" = "" → s.joined = true →
        "" ∉ s.client.mStore.peers) := by
  rcases notification_cases lib method data s with
    rfl | rfl | ⟨holder, rfl, -, hclient⟩ | ⟨-, hclosed, -, hsame⟩
  · exact iff_of_true (shown_newPeer h data) nofun
  · rw [shown_peerClosed_iff h]
    exact ⟨fun hcond _ => hcond, fun hcond => hcond rfl⟩
  · refine iff_of_true (h.of_same rfl rfl fun peer => ?_) nofun
    rw [hclient]
    exact mem_of_lookup_map (RoomStore.lookup_removeConsumer s.client.mStore _ _ peer)
  · refine iff_of_true (h.of_same hsame.joined hsame.expected fun peer => ?_)
      fun heq => absurd heq hclosed
    rw [hsame.peers]

/-! ### Any task -/

theorem shown_step_iff (h : s.Shown) (e : Event) : (s.step lib e).Shown ↔ UpToDate lib s e := by
  cases e with
  | join script => exact shown_join_iff h script
  | request native script request => exact iff_of_true (h.request native script request) trivial
  | notification method data => exact shown_notification_iff h _ data
  | disconnect => exact iff_of_true (fun hjoined => by cases hjoined) trivial

end Step

/-- In every run of a client that is not closed, with any number of disconnects and joins,
the store shows the expected peers after every task, if and only if every task finds or
leaves the store up to date. -/
theorem shown_iff (lib : OrgJson) (isConsume callback isAudioOnly : Bool) (events : List Event) :
    Always (step lib) (start isConsume callback isAudioOnly) Shown events ↔
      Each (step lib) (start isConsume callback isAudioOnly) (UpToDate lib) events :=
  always_iff_each (I := fun _ => True) trivial (fun _ _ _ => trivial)
    (fun hjoined => by cases hjoined) (fun _ e _ h => shown_step_iff h e) events

theorem shown_peerClosed :
    Always (step (OrgJson.sample [])) (start true false false) Shown
      [.join emptyRoom, .notification "newPeer" [("id", .string "p1")],
        .notification "peerClosed" [("peerId", .string "p1")], .disconnect, .join emptyRoom] := by
  apply (shown_iff _ _ _ _ _).mpr
  refine each_cons.mpr ⟨fun peer hpeer => ?_, each_cons.mpr ⟨fun hmethod => ?_,
    each_cons.mpr ⟨fun _ hid => ?_, each_cons.mpr ⟨trivial, each_cons.mpr
      ⟨fun peer hpeer => ?_, each_nil⟩⟩⟩⟩⟩
  · cases hpeer
  · exact absurd hmethod (by decide)
  · exact absurd hid (by decide)
  · cases hpeer

/-- A peer that leaves the room while the client is disconnected is still shown after the
next join. -/
theorem not_shown_afterDisconnect :
    ¬ Always (step (OrgJson.sample [])) (start true false false) Shown
      [.join emptyRoom, .notification "newPeer" [("id", .string "p1")], .disconnect,
        .join emptyRoom] := by
  intro h
  exact absurd ((h.last (by decide +kernel) "p1").mp (by decide +kernel)) (by decide +kernel)

end Session

end MediasoupDemo.Room
