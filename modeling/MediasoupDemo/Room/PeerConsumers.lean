import MediasoupDemo.Room.ConsumerIds

/-!
# Peers and their consumers in the store

Every peer in the store lists the ids of its consumers, and the consumers are kept in a
map of their own.  The two are updated one after the other, each by its own rules: a peer
that is announced again starts with an empty list, a peer that is closed takes its list
with it, and a peer without an id is in the map but never gets a consumer.

`Consistent` is what should hold between them.  `Harmless` is the condition that a task
has to meet so that it still holds (`consistent_step_iff`), from which the result about
whole runs follows.
-/

namespace MediasoupDemo.Room

open MediasoupDemo.Runtime Protoo Method Trace Registry

variable {peerId : String}

namespace RoomStore

variable (store : RoomStore)

theorem lookup_removePeer (peerId peer : String) :
    (store.removePeer peerId).peers.lookup peer =
      if peer = peerId ∧ peerId ≠ "" then none else store.peers.lookup peer := by
  unfold removePeer
  dsimp only
  by_cases hempty : peerId = ""
  · subst hempty
    simp
  · rw [if_neg (by simpa [String.isEmpty_iff] using hempty)]
    by_cases hpeer : peer = peerId
    · subst hpeer
      rw [if_pos ⟨rfl, hempty⟩, AList.lookup_erase]
    · rw [if_neg (fun h => hpeer h.1), AList.lookup_erase_ne hpeer]

/-- The list of one peer is changed, if the peer is known and has an id. -/
theorem lookup_updated {peers peers' : AList fun _ : String => List String}
    (f : List String → List String) (hunknown : peers.lookup peerId = none → peers' = peers)
    (hempty : peerId = "" → peers' = peers)
    (hknown : ∀ ids, peers.lookup peerId = some ids → peerId ≠ "" →
      peers' = peers.insert peerId (f ids)) (peer : String) :
    peers'.lookup peer =
      if peer = peerId ∧ peerId ≠ "" then (peers.lookup peer).map f else peers.lookup peer := by
  by_cases hid : peerId = ""
  · rw [hempty hid, if_neg fun h => h.2 hid]
  · by_cases hpeer : peer = peerId
    · subst hpeer
      rw [if_pos ⟨rfl, hid⟩]
      cases hlookup : peers.lookup peer with
      | none => rw [hunknown hlookup, hlookup, Option.map_none]
      | some ids => rw [hknown ids hlookup hid, AList.lookup_insert, Option.map_some]
    · rw [if_neg fun h => hpeer h.1]
      cases hlookup : peers.lookup peerId with
      | none => rw [hunknown hlookup]
      | some ids => rw [hknown ids hlookup hid, AList.lookup_insert_ne hpeer]

theorem lookup_addConsumer (peerId type : String) (consumer : Consumer) (remotelyPaused : Bool)
    (peer : String) :
    (store.addConsumer peerId type consumer remotelyPaused).peers.lookup peer =
      if peer = peerId ∧ peerId ≠ "" then (store.peers.lookup peer).map (·.insert consumer.id)
      else store.peers.lookup peer := by
  apply lookup_updated
  · intro hunknown
    simp only [addConsumer, hunknown]
  · intro hempty
    simp only [addConsumer, hempty]
    split <;> rfl
  · intro ids hknown hid
    simp only [addConsumer, hknown]
    rw [if_neg (by simpa [String.isEmpty_iff] using hid)]

theorem lookup_removeConsumer (peerId consumerId peer : String) :
    (store.removeConsumer peerId consumerId).peers.lookup peer =
      if peer = peerId ∧ peerId ≠ "" then
        (store.peers.lookup peer).map fun ids => ids.filter (· ≠ consumerId)
      else store.peers.lookup peer := by
  apply lookup_updated
  · intro hunknown
    simp only [removeConsumer, hunknown]
  · intro hempty
    simp only [removeConsumer, hempty]
    split <;> rfl
  · intro ids hknown hid
    simp only [removeConsumer, hknown]
    rw [if_neg (by simpa [String.isEmpty_iff] using hid)]

end RoomStore

namespace Session

/-- A consumer is stored that was announced for the peer. -/
def Owns (s : Session) (peer : String) : Prop :=
  ∃ id ∈ s.client.mStore.consumers, s.owner.lookup id = some peer

/-- The peers and the consumers of the store belong together. -/
@[mk_iff consistent_iff_fields]
structure Consistent (s : Session) : Prop where
  /-- Every listed id is the id of a consumer. -/
  stored : ∀ peer ids, s.client.mStore.peers.lookup peer = some ids →
    ∀ id ∈ ids, id ∈ s.client.mStore.consumers
  /-- Every consumer of a peer in the store is listed by it. -/
  listed : ∀ id ∈ s.client.mStore.consumers, ∀ peer, s.owner.lookup id = some peer →
    ∀ ids, s.client.mStore.peers.lookup peer = some ids → id ∈ ids
  /-- A closed peer has no consumer. -/
  closed : ∀ peer ∈ s.closedPeers, ¬ s.Owns peer

/-- A notification leaves the store consistent: a peer that is announced or closed has no
consumer, and a consumer that is closed is listed by its own peer only. -/
def HarmlessNotification (lib : OrgJson) (s : Session) (method : NotificationMethod)
    (data : JSONObject) : Prop :=
  match method with
  | .newPeer => ¬ s.Owns (data.optString lib "id")
  | .peerClosed => ¬ s.Owns (data.optString lib "peerId")
  | .consumerClosed =>
      ∀ holder, s.client.mConsumers.lookup (data.optString lib "consumerId") = some holder →
        ∀ peer ids, s.client.mStore.peers.lookup peer = some ids →
          data.optString lib "consumerId" ∈ ids → peer = holder.peerId
  | _ => True

/-- A task leaves the store consistent.  A peer in a join response has no consumer, and a
new consumer is neither for a closed peer nor for a peer without an id that is in the
store. -/
def Harmless (lib : OrgJson) (s : Session) : Event → Prop
  | .join script => ∀ peer ∈ announced lib script s.client.isConsume, ¬ s.Owns peer
  | .request native _ request =>
      ∀ peerId consumer,
        (withNative s.client native).created lib request = some (peerId, consumer) →
        peerId ∉ s.closedPeers ∧ ¬ (peerId = "" ∧ "" ∈ s.client.mStore.peers)
  | .notification method data => HarmlessNotification lib s (.ofString method) data
  | .disconnect => True

/-- The holders are filed under their ids, and a peer without an id lists nothing. -/
structure Kept (s : Session) : Prop extends Filed s where
  noId : ∀ ids, s.client.mStore.peers.lookup "" = some ids → ids = []

section Step

variable {s s' : Session} {lib : OrgJson}

/-! ### Peers are announced -/

theorem owns_congr
    (hconsumers : ∀ id, id ∈ s'.client.mStore.consumers ↔ id ∈ s.client.mStore.consumers)
    (howner : s'.owner = s.owner) (peer : String) : s'.Owns peer ↔ s.Owns peer := by
  unfold Owns
  rw [howner]
  simp only [hconsumers]

/-- A task that only announces peers: they start with empty lists. -/
theorem consistent_announce_iff (h : s.Consistent) (ids : List String)
    (hpeers : ∀ peer, s'.client.mStore.peers.lookup peer =
      if peer ∈ ids then some [] else s.client.mStore.peers.lookup peer)
    (hconsumers : ∀ id, id ∈ s'.client.mStore.consumers ↔ id ∈ s.client.mStore.consumers)
    (howner : s'.owner = s.owner) (hclosed : ∀ peer ∈ s'.closedPeers, peer ∈ s.closedPeers) :
    s'.Consistent ↔ ∀ peer ∈ ids, ¬ s.Owns peer := by
  constructor
  · rintro h' peer hpeer ⟨id, hid, hid_owner⟩
    have hlookup := hpeers peer
    rw [if_pos hpeer] at hlookup
    rw [← howner] at hid_owner
    have hlisted := h'.listed id ((hconsumers id).mpr hid) peer hid_owner [] hlookup
    cases hlisted
  · intro hnone
    refine ⟨fun peer list hlookup id hid => ?_, fun id hid peer hid_owner list hlookup => ?_,
      fun peer hpeer => ?_⟩
    · rw [hpeers] at hlookup
      split at hlookup
      · cases hlookup
        cases hid
      · exact (hconsumers id).mpr (h.stored peer list hlookup id hid)
    · rw [howner] at hid_owner
      rw [hconsumers] at hid
      rw [hpeers] at hlookup
      split at hlookup
      · rename_i hpeer
        exact absurd ⟨id, hid, hid_owner⟩ (hnone peer hpeer)
      · exact h.listed id hid peer hid_owner list hlookup
    · rw [owns_congr hconsumers howner]
      exact h.closed peer (hclosed peer hpeer)

/-- A task that leaves peers and consumers alone. -/
theorem consistent_congr (hsame : s.Same s') : s'.Consistent ↔ s.Consistent := by
  simp only [consistent_iff_fields, Owns, hsame.peers, hsame.consumers, hsame.owner,
    hsame.closedPeers]

section

variable (h : s.Consistent)
include h

theorem consistent_join_iff (script : JoinScript) :
    (s.join lib script).Consistent ↔ Harmless lib s (.join script) :=
  consistent_announce_iff h _ (lookup_join lib script s) (consumers_join lib script s) rfl
    fun _ hpeer => (List.mem_filter.mp hpeer).1

/-! ### Consumers are added -/

/-- A consumer enters the store, and the list of its peer if that is in the store and has
an id. -/
theorem consistent_file_iff (hkept : s.Kept) {id : String}
    (hpeers : ∀ peer, s'.client.mStore.peers.lookup peer =
      if peer = peerId ∧ peerId ≠ "" then
        (s.client.mStore.peers.lookup peer).map fun ids => ids.insert id
      else s.client.mStore.peers.lookup peer)
    (hconsumers : ∀ id', id' ∈ s'.client.mStore.consumers ↔
      id' = id ∨ id' ∈ s.client.mStore.consumers) (howner : s'.owner = s.owner.insert id peerId)
    (hclosed : s'.closedPeers = s.closedPeers) :
    s'.Consistent ↔
      peerId ∉ s.closedPeers ∧ ¬ (peerId = "" ∧ "" ∈ s.client.mStore.peers) := by
  have hid : id ∈ s'.client.mStore.consumers := (hconsumers id).mpr (.inl rfl)
  have hid_owner : s'.owner.lookup id = some peerId := by rw [howner, AList.lookup_insert]
  constructor
  · intro h'
    refine ⟨fun hpeer => ?_, ?_⟩
    · rw [← hclosed] at hpeer
      exact h'.closed peerId hpeer ⟨id, hid, hid_owner⟩
    · rintro ⟨rfl, hknown⟩
      obtain ⟨ids, hids⟩ := Option.isSome_iff_exists.mp (AList.lookup_isSome.mpr hknown)
      have hlookup := hpeers ""
      rw [if_neg fun hne => hne.2 rfl, hids] at hlookup
      have hlisted := h'.listed id hid "" hid_owner ids hlookup
      rw [hkept.noId ids hids] at hlisted
      cases hlisted
  · rintro ⟨hopen, hempty⟩
    refine ⟨fun peer list hlookup id' hid' => ?_, fun id' hid' peer howner' list hlookup => ?_,
      fun peer hpeer => ?_⟩
    · rw [hpeers] at hlookup
      rw [hconsumers]
      split at hlookup
      · obtain ⟨ids, hids, rfl⟩ := Option.map_eq_some_iff.mp hlookup
        rcases List.mem_insert_iff.mp hid' with rfl | hin
        · exact .inl rfl
        · exact .inr (h.stored peer ids hids id' hin)
      · exact .inr (h.stored peer list hlookup id' hid')
    · rw [howner] at howner'
      rw [hpeers] at hlookup
      rcases lookup_insert_eq_some.mp howner' with ⟨rfl, rfl⟩ | ⟨hne, hbefore⟩
      · -- The new consumer: its peer has an id, so it is listed.
        split at hlookup
        · obtain ⟨ids, -, rfl⟩ := Option.map_eq_some_iff.mp hlookup
          exact List.mem_insert_self
        · rename_i hno
          have hnone : peerId = "" := by
            by_contra hne
            exact hno ⟨rfl, hne⟩
          subst hnone
          refine absurd ⟨rfl, ?_⟩ hempty
          rw [← AList.lookup_isSome, hlookup]
          rfl
      · have hin := ((hconsumers id').mp hid').resolve_left hne
        split at hlookup
        · obtain ⟨ids, hids, rfl⟩ := Option.map_eq_some_iff.mp hlookup
          exact List.mem_insert_of_mem (h.listed id' hin peer hbefore ids hids)
        · exact h.listed id' hin peer hbefore list hlookup
    · rintro ⟨id', hid', howner'⟩
      rw [hclosed] at hpeer
      rw [howner] at howner'
      rcases lookup_insert_eq_some.mp howner' with ⟨rfl, rfl⟩ | ⟨hne, hbefore⟩
      · exact hopen hpeer
      · exact h.closed peer hpeer ⟨id', ((hconsumers id').mp hid').resolve_left hne, hbefore⟩

theorem consistent_request_iff (hkept : s.Kept) (native : RecvTransport)
    (script : Script) (request : ServerRequest) :
    (s.request lib native script request).Consistent ↔
      Harmless lib s (.request native script request) := by
  rcases request_cases lib native script request s with
    ⟨hcreated, hsame⟩ | ⟨data, consumer, hcreated, hsame⟩
  · refine iff_of_true ((consistent_congr hsame).mpr h) fun _ _ hsome => ?_
    rw [hcreated] at hsome
    cases hsome
  · have hfile := @consistent_file_iff _ s (s.file lib data consumer) h hkept _
      (RoomStore.lookup_addConsumer s.client.mStore _ _ _ _) (fun _ => AList.mem_insert _) rfl rfl
    rw [consistent_congr hsame, hfile]
    constructor
    · intro hopen peerId consumer' hsome
      rw [hcreated] at hsome
      cases hsome
      exact hopen
    · intro hharmless
      exact hharmless _ _ hcreated

/-! ### Peers and consumers are closed -/

theorem consistent_peerClosed_iff
    (hpeers : ∀ peer ids, s'.client.mStore.peers.lookup peer = some ids →
      s.client.mStore.peers.lookup peer = some ids)
    (hconsumers : s'.client.mStore.consumers = s.client.mStore.consumers)
    (howner : s'.owner = s.owner) (hclosed : s'.closedPeers = peerId :: s.closedPeers) :
    s'.Consistent ↔ ¬ s.Owns peerId := by
  have howns (peer : String) : s'.Owns peer ↔ s.Owns peer :=
    owns_congr (fun id => by rw [hconsumers]) howner peer
  constructor
  · intro h'
    rw [← howns]
    exact h'.closed peerId (by rw [hclosed]; exact List.mem_cons_self)
  · intro hnone
    refine ⟨fun peer ids hlookup => ?_, fun id hid peer hid_owner ids hlookup => ?_,
      fun peer hpeer => ?_⟩
    · rw [hconsumers]
      exact h.stored peer ids (hpeers peer ids hlookup)
    · rw [hconsumers] at hid
      rw [howner] at hid_owner
      exact h.listed id hid peer hid_owner ids (hpeers peer ids hlookup)
    · rw [howns]
      rw [hclosed] at hpeer
      rcases List.mem_cons.mp hpeer with rfl | hbefore
      · exact hnone
      · exact h.closed peer hbefore

/-- The consumer leaves the store and the list of its peer. -/
theorem consistent_remove_iff (hkept : s.Kept) {id : String}
    (hpeers : ∀ peer, s'.client.mStore.peers.lookup peer =
      if peer = peerId ∧ peerId ≠ "" then
        (s.client.mStore.peers.lookup peer).map fun ids => ids.filter (· ≠ id)
      else s.client.mStore.peers.lookup peer)
    (hconsumers : s'.client.mStore.consumers = s.client.mStore.consumers.erase id)
    (howner : s'.owner = s.owner) (hclosed : s'.closedPeers = s.closedPeers) :
    s'.Consistent ↔
      ∀ peer ids, s.client.mStore.peers.lookup peer = some ids → id ∈ ids → peer = peerId := by
  constructor
  · intro h' peer ids hids hid
    by_contra hne
    have hlookup := hpeers peer
    rw [if_neg fun hpeer => hne hpeer.1, hids] at hlookup
    have hstored := h'.stored peer ids hlookup id hid
    rw [hconsumers, AList.mem_erase] at hstored
    exact hstored.1 rfl
  · intro honly
    refine ⟨fun peer list hlookup id' hid' => ?_, fun id' hid' peer howner' list hlookup => ?_,
      fun peer hpeer => ?_⟩
    · rw [hpeers] at hlookup
      rw [hconsumers, AList.mem_erase]
      split at hlookup
      · obtain ⟨ids, hids, rfl⟩ := Option.map_eq_some_iff.mp hlookup
        obtain ⟨hin, hne⟩ := List.mem_filter.mp hid'
        exact ⟨by simpa using hne, h.stored peer ids hids id' hin⟩
      · rename_i hother
        refine ⟨?_, h.stored peer list hlookup id' hid'⟩
        rintro rfl
        -- The peer is the one of the consumer, so it has no id and lists nothing.
        have hpeer := honly peer list hlookup hid'
        have hnoId : peer = "" := by
          by_contra hne
          exact hother ⟨hpeer, hpeer ▸ hne⟩
        subst hnoId
        rw [hkept.noId list hlookup] at hid'
        cases hid'
    · rw [hconsumers, AList.mem_erase] at hid'
      rw [howner] at howner'
      rw [hpeers] at hlookup
      split at hlookup
      · obtain ⟨ids, hids, rfl⟩ := Option.map_eq_some_iff.mp hlookup
        exact List.mem_filter.mpr
          ⟨h.listed id' hid'.2 peer howner' ids hids, by simpa using hid'.1⟩
      · exact h.listed id' hid'.2 peer howner' list hlookup
    · rintro ⟨id', hid', howner'⟩
      rw [hclosed] at hpeer
      rw [hconsumers, AList.mem_erase] at hid'
      rw [howner] at howner'
      exact h.closed peer hpeer ⟨id', hid'.2, howner'⟩

theorem consistent_notification_iff (hkept : s.Kept)
    (method : NotificationMethod) (data : JSONObject) :
    (s.notification lib method data).Consistent ↔ HarmlessNotification lib s method data := by
  rcases notification_cases lib method data s with
    rfl | rfl | ⟨holder, rfl, hholder, hclient⟩ | ⟨hnew, hclosed, hnone, hsame⟩
  · have hiff : (s.notification lib .newPeer data).Consistent ↔
        ∀ peer ∈ [data.optString lib "id"], ¬ s.Owns peer := by
      refine consistent_announce_iff h _ (fun peer => ?_) (fun _ => Iff.rfl) rfl
        fun peer hpeer => ?_
      · exact lookup_foldl_insert s.client.mStore.peers [data.optString lib "id"] [] peer
      · exact (List.mem_filter.mp hpeer).1
    rw [hiff]
    simp [HarmlessNotification]
  · refine consistent_peerClosed_iff h (fun peer ids hlookup => ?_) rfl rfl rfl
    have hpeers := RoomStore.lookup_removePeer s.client.mStore (data.optString lib "peerId") peer
    split at hpeers
    · cases hpeers.symm.trans hlookup
    · exact hpeers.symm.trans hlookup
  · have hiff : (s.notification lib .consumerClosed data).Consistent ↔
        ∀ peer ids, s.client.mStore.peers.lookup peer = some ids →
          holder.mConsumer.id ∈ ids → peer = holder.peerId := by
      refine consistent_remove_iff h hkept (fun peer => ?_) (by rw [hclient]; rfl) rfl rfl
      rw [hclient]
      exact RoomStore.lookup_removeConsumer _ _ _ _
    rw [hiff, hkept.keyed _ holder hholder]
    constructor
    · intro honly holder' hholder'
      cases hholder.symm.trans hholder'
      exact honly
    · intro hharmless
      exact hharmless holder hholder
  · refine iff_of_true ((consistent_congr hsame).mpr h) ?_
    cases method with
    | newPeer => exact absurd rfl hnew
    | peerClosed => exact absurd rfl hclosed
    | consumerClosed =>
      intro holder hholder
      cases (hnone rfl).symm.trans hholder
    | consumerPaused | consumerResumed | peerDisplayNameChanged | other => trivial

/-! ### Any task -/

theorem consistent_disconnect (hkept : s.Kept) : s.disconnect.Consistent := by
  rw [consistent_iff_fields] at h ⊢
  simp only [Owns, (store_disconnect hkept.toFiled).1]
  exact h

theorem consistent_step_iff (hkept : s.Kept) (e : Event) :
    (s.step lib e).Consistent ↔ Harmless lib s e := by
  cases e with
  | join script => exact consistent_join_iff h script
  | request native script request => exact consistent_request_iff h hkept native script request
  | notification method data => exact consistent_notification_iff h hkept _ data
  | disconnect => exact iff_of_true (consistent_disconnect h hkept) trivial

end

/-- A peer without an id never gets a consumer. -/
theorem lookup_noId_step (h : s.Filed) (e : Event) :
    (s.step lib e).client.mStore.peers.lookup "" = s.client.mStore.peers.lookup "" ∨
      (s.step lib e).client.mStore.peers.lookup "" = some [] := by
  have hnoId (peer : String) : ¬ ("" = peer ∧ peer ≠ "") := fun h => h.2 h.1.symm
  cases e with
  | join script =>
    have hpeers := lookup_join lib script s ""
    split at hpeers
    · exact .inr hpeers
    · exact .inl hpeers
  | request native script request =>
    rcases request_cases lib native script request s with ⟨-, hsame⟩ | ⟨data, consumer, -, hsame⟩
    · exact .inl (congrArg (AList.lookup "") hsame.peers)
    · refine .inl ((congrArg (AList.lookup "") hsame.peers).trans ?_)
      exact (RoomStore.lookup_addConsumer s.client.mStore _ _ _ _ "").trans (if_neg (hnoId _))
  | notification method data =>
    rw [step]
    rcases notification_cases lib (.ofString method) data s with
      hmethod | hmethod | ⟨holder, hmethod, -, hclient⟩ | ⟨-, -, -, hsame⟩
    · rw [hmethod]
      have hpeers := lookup_foldl_insert s.client.mStore.peers [data.optString lib "id"] [] ""
      split at hpeers
      · exact .inr hpeers
      · exact .inl hpeers
    · rw [hmethod]
      exact .inl ((RoomStore.lookup_removePeer s.client.mStore _ "").trans (if_neg (hnoId _)))
    · rw [hclient]
      exact .inl ((RoomStore.lookup_removeConsumer s.client.mStore _ _ "").trans (if_neg (hnoId _)))
    · exact .inl (congrArg (AList.lookup "") hsame.peers)
  | disconnect =>
    exact .inl (congrArg (fun store => AList.lookup "" store.peers) (store_disconnect h).1)

theorem Kept.step (h : s.Kept) (e : Event) : (s.step lib e).Kept := by
  refine ⟨h.toFiled.step e, fun ids hlookup => ?_⟩
  rcases lookup_noId_step h.toFiled e with hsame | hempty
  · exact h.noId ids (hsame.symm.trans hlookup)
  · cases hempty.symm.trans hlookup
    rfl

end Step

theorem consistent_start (isConsume callback isAudioOnly : Bool) :
    (start isConsume callback isAudioOnly).Consistent := by
  refine ⟨fun peer ids hlookup => ?_, fun id hid => ?_, fun peer hpeer => ?_⟩
  · cases hlookup
  · cases hid
  · cases hpeer

/-- In every run of a client that is not closed the store is consistent after every task, if
and only if every task is harmless. -/
theorem consistent_iff (lib : OrgJson) (isConsume callback isAudioOnly : Bool)
    (events : List Event) :
    Always (step lib) (start isConsume callback isAudioOnly) Consistent events ↔
      Each (step lib) (start isConsume callback isAudioOnly) (Harmless lib) events :=
  always_iff_each (I := Kept)
    ⟨filed_start isConsume callback isAudioOnly, fun ids hlookup => (by cases hlookup)⟩
    (fun _ e h => h.step e) (consistent_start isConsume callback isAudioOnly)
    (fun _ e hkept h => consistent_step_iff h hkept e) events

theorem consistent_newConsumer :
    Always (step (OrgJson.sample [])) (start true false false) Consistent
      [.join emptyRoom, .notification "newPeer" [("id", .string "p1")],
        newConsumer "c1" "p1"] := by
  apply (consistent_iff _ _ _ _ _).mpr
  refine each_cons.mpr ⟨?_, each_cons.mpr ⟨?_, each_cons.mpr ⟨?_, each_nil⟩⟩⟩
  · intro peer hpeer
    cases hpeer
  · rintro ⟨id, hid, -⟩
    cases hid
  · intro peerId consumer hsome
    cases hsome
    exact ⟨by decide, by decide⟩

theorem not_consistent_peerClosed :
    ¬ Always (step (OrgJson.sample [])) (start true false false) Consistent
      [.join emptyRoom, .notification "newPeer" [("id", .string "p1")], newConsumer "c1" "p1",
        .notification "peerClosed" [("peerId", .string "p1")]] := by
  intro h
  exact h.last.closed "p1" (by decide +kernel) ⟨"c1", by decide +kernel, by decide +kernel⟩

end Session

end MediasoupDemo.Room
