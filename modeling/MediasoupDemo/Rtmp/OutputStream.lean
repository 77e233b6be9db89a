import MediasoupDemo.Rtmp.Replies

/-!
# Two threads on one output stream

`sendRtmpPacket` takes no lock.  `RtmpPacket.writeTo` calls `OutputStream.write`
once for every byte of a header and once for every piece of a body, and only the
single calls are atomic, because `BufferedOutputStream.write` is synchronized.
The worker and the receiving thread may therefore interleave their calls in any
way; a `Schedule` is such an interleaving.

* A schedule that changes between the threads only where a chunk starts is an
  interleaving of whole chunks (`Schedule.splits`), and so the decoder gets all
  packets.
* Nothing makes the threads do so: in `interrupted` the reply comes after the
  first byte of a video packet.
-/

namespace MediasoupDemo.Rtmp

open MediasoupDemo.Runtime InputStream Interleave RtmpDecoder Method

/-! ## Schedules -/

/-- The calls of a packet, with the thread that makes them. -/
def Outgoing.calls (p : Outgoing) : List (Sender × Write) :=
  (p.packet.writes txChunkSize).map fun w => (p.sender, w)

/-- What the two threads send, one packet after another.  The array of a packet
holds the bytes that are sent. -/
structure Programs where
  packets : Sender → List Outgoing
  sender_eq : ∀ t, ∀ p ∈ packets t, p.sender = t
  size_le : ∀ t, ∀ p ∈ packets t, p.packet.size ≤ p.packet.data.length

/-- An interleaving of the calls of the two threads. -/
structure Schedule (programs : Programs) where
  calls : List (Sender × Write)
  ordered : ∀ t, part Prod.fst calls t = (programs.packets t).flatMap Outgoing.calls

namespace Schedule

variable {programs : Programs}

/-- The bytes on the wire. -/
def bytes (w : Schedule programs) : List UInt8 := w.calls.flatMap fun call => call.2.bytes

/-- A thread starts a chunk where it follows the other thread. -/
def KeepsChunks (w : Schedule programs) : Prop :=
  SwitchesAtStarts Prod.fst (fun call => call.2.startsChunk = true) w.calls

/-- The wire is a sequence of whole chunks, and the chunks of each thread are
those of its packets, in order. -/
def SplitsIntoChunks (w : Schedule programs) : Prop :=
  ∃ xs : List (Outgoing × Chunk),
    w.bytes = xs.flatMap (fun x => x.2.bytes txChunkSize) ∧
    ∀ t, part (fun x => x.1.sender) xs t =
      (programs.packets t).flatMap (outgoingTraffic.chunks txChunkSize)

/-- A received packet is the one that was sent. -/
def Received (packet : RtmpPacket) (p : Outgoing) : Prop :=
  packet.header.messageType = p.packet.header.messageType ∧
    packet.header.messageStreamId = p.packet.header.messageStreamId ∧
    packet.header.absoluteTimestamp = p.packet.header.absoluteTimestamp ∧ packet.body = p.value

/-- A decoder that waits for a new chunk on every chunk stream gets exactly the
packets of the two threads, those of each thread in order. -/
def Decodes (w : Schedule programs) : Prop :=
  ∀ d : RtmpDecoder, d.rtmpSessionInfo.rxChunkSize = txChunkSize →
    (∀ id, (d.getChunkStreamInfo id).baos = []) → d.input.bytes = w.bytes →
    ∃ calls packets d' order, (readPackets calls).run d = .ok packets d' ∧
      d'.input.bytes = [] ∧ List.Forall₂ Received packets order ∧
      ∀ t, part Outgoing.sender order t = programs.packets t

/-! ## Schedules that keep chunks together -/

def firstCall (x : Outgoing × Chunk) : Sender × Write :=
  (x.1.sender, ⟨[basicHeader x.2.chunkType x.2.header.chunkStreamId], true⟩)

/-- The other calls of a chunk. -/
def innerCalls (x : Outgoing × Chunk) : List (Sender × Write) :=
  (x.2.writes txChunkSize).tail.map fun w => (x.1.sender, w)

theorem map_writes (x : Outgoing × Chunk) :
    (x.2.writes txChunkSize).map (fun w => (x.1.sender, w)) = firstCall x :: innerCalls x := rfl

theorem not_startsChunk_of_mem_innerCalls {x : Outgoing × Chunk} {call : Sender × Write}
    (h : call ∈ innerCalls x) : ¬ call.2.startsChunk = true := by
  obtain ⟨w, hw, rfl⟩ := List.mem_map.mp h
  obtain ⟨b, bytes, hbytes⟩ : ∃ b bytes, x.2.header.writeTo x.2.chunkType = b :: bytes :=
    ⟨_, _, rfl⟩
  rw [Chunk.writes, RtmpHeader.writes, hbytes] at hw
  rcases List.mem_append.mp (show w ∈ _ ++ _ from hw) with hheader | hpiece
  · obtain ⟨c, -, rfl⟩ := List.mem_map.mp hheader
    exact Bool.false_ne_true
  · rw [List.mem_singleton.mp hpiece]
    exact Bool.false_ne_true

theorem calls_eq {p : Outgoing} (h : p.packet.size ≤ p.packet.data.length) :
    p.calls = (outgoingTraffic.chunks txChunkSize p).flatMap fun x =>
      firstCall x :: innerCalls x := by
  have hlen : p.packet.body.length = p.packet.size := by
    rw [ContentData.body, List.length_take]
    omega
  rw [Outgoing.calls, ContentData.writes_eq_chunks (by decide) h, Traffic.chunks, List.flatMap_map,
    List.map_flatMap]
  show _ = (chunksFrom _ txChunkSize p.packet.body.length _ p.packet.body).flatMap _
  rw [hlen]
  rfl

/-- A schedule that keeps chunks together splits into chunks. -/
theorem splits (w : Schedule programs) (hkept : w.KeepsChunks) : w.SplitsIntoChunks := by
  have hown : ∀ t, ∀ x ∈ (programs.packets t).flatMap (outgoingTraffic.chunks txChunkSize),
      x.1.sender = t := by
    intro t x hx
    obtain ⟨p, hp, hchunk⟩ := List.mem_flatMap.mp hx
    obtain ⟨chunk, -, rfl⟩ := List.mem_map.mp hchunk
    exact programs.sender_eq t p hp
  have hparts : ∀ t, part Prod.fst w.calls t =
      ((programs.packets t).flatMap (outgoingTraffic.chunks txChunkSize)).flatMap fun x =>
        firstCall x :: innerCalls x := by
    intro t
    rw [w.ordered, List.flatMap_assoc]
    exact List.flatMap_congr fun p hp => calls_eq (programs.size_le t p hp)
  have hkey : ∀ x : Outgoing × Chunk, ∀ call ∈ innerCalls x, call.1 = x.1.sender := by
    intro x call hcall
    obtain ⟨write, -, rfl⟩ := List.mem_map.mp hcall
    rfl
  obtain ⟨xs, hcalls, hxs⟩ := exists_blocks firstCall innerCalls
    hkey (fun _ _ => not_startsChunk_of_mem_innerCalls) w.calls.length (le_refl _) hown hparts hkept
  refine ⟨xs, ?_, hxs⟩
  rw [bytes, hcalls, List.flatMap_assoc]
  apply List.flatMap_congr
  intro x _
  rw [← map_writes, List.flatMap_map]
  exact x.2.flatMap_writes txChunkSize

/-- The chunk streams of the worker. -/
def owner (chunkStreamId : Nat) : Sender :=
  if chunkStreamId = 6 ∨ chunkStreamId = 7 then .worker else .receiver

theorem owner_chunkStreamId (p : Outgoing) :
    owner (outgoingTraffic.chunkStreamId p) = p.sender := by
  cases p with
  | audio currentStreamId data size dts => rfl
  | video currentStreamId data size dts => rfl
  | reply timestamp answer => cases answer <;> rfl

/-- No chunk stream is used by both threads, so the chunks of a chunk stream are
in order when those of each thread are. -/
theorem part_chunkKey {xs : List (Outgoing × Chunk)}
    (hxs : ∀ t, part (fun x => x.1.sender) xs t =
      (programs.packets t).flatMap (outgoingTraffic.chunks txChunkSize)) (id : Nat) :
    part outgoingTraffic.chunkKey xs id =
      (part outgoingTraffic.chunkStreamId
        (programs.packets .worker ++ programs.packets .receiver) id).flatMap
          (outgoingTraffic.chunks txChunkSize) := by
  have howner : ∀ x : Outgoing × Chunk, outgoingTraffic.chunkKey x = id →
      x.1.sender = owner id := by
    intro x hx
    rw [← hx]
    exact (owner_chunkStreamId x.1).symm
  have hother : ∀ t, t ≠ owner id →
      part outgoingTraffic.chunkStreamId (programs.packets t) id = [] := by
    intro t ht
    apply part_eq_nil
    intro p hp heq
    apply ht
    rw [← heq, owner_chunkStreamId]
    exact (programs.sender_eq t p hp).symm
  rw [← part_part outgoingTraffic.chunkKey howner xs, hxs, outgoingTraffic.part_flatMap_chunks,
    part_append]
  cases howns : owner id with
  | worker => rw [hother .receiver (by rw [howns]; decide), List.append_nil]
  | receiver => rw [hother .worker (by rw [howns]; decide), List.nil_append]

theorem received_of_isPacketOf {packet : RtmpPacket} {p : Outgoing}
    (h : outgoingTraffic.IsPacketOf packet p) : Received packet p := by
  obtain ⟨chunkType, rfl⟩ := h
  exact ⟨rfl, rfl, rfl, rfl⟩

/-- If the threads keep their chunks together, the wire splits into chunks, and
a decoder gets all the packets that it can read. -/
theorem decodes_of_keepsChunks (w : Schedule programs) (hkept : w.KeepsChunks) :
    w.SplitsIntoChunks ∧ ((∀ t, ∀ p ∈ programs.packets t, p.Readable) → w.Decodes) := by
  refine ⟨w.splits hkept, ?_⟩
  intro hreadable d hrx hidle hin
  obtain ⟨xs, hbytes, hxs⟩ := w.splits hkept
  have hsend : ∀ p ∈ programs.packets .worker ++ programs.packets .receiver,
      Sendable txChunkSize (outgoingTraffic.header p) (outgoingTraffic.body p)
        (outgoingTraffic.value p) := by
    intro p hp
    rcases List.mem_append.mp hp with hworker | hreceiver
    · exact Outgoing.sendable (hreadable .worker p hworker)
    · exact Outgoing.sendable (hreadable .receiver p hreceiver)
  obtain ⟨packets, d', hrun, hend, hall⟩ := Traffic.run_readPackets_of_idle
    (show 0 < txChunkSize by decide) hsend (part_chunkKey hxs) hrx hidle (hin.trans hbytes)
    (le_refl _)
  refine ⟨_, packets, d', _, hrun, hend, hall.imp fun _ _ => received_of_isPacketOf, ?_⟩
  intro t
  rw [Traffic.part_ends, hxs, Traffic.ends_flatMap_chunks _ (by decide)]

/-- A video packet of the worker. -/
def video : Outgoing := .video 1 [0x17, 0x01] 2 40

/-- A pong of the receiving thread. -/
def pong : Outgoing := .reply 52 (.pong 1000)

/-- The worker sends the video packet while the receiving thread answers a
ping. -/
def videoAndPong : Programs where
  packets
    | .worker => [video]
    | .receiver => [pong]
  sender_eq := by
    intro t p hp
    cases t <;> (rw [List.mem_singleton.mp hp]; rfl)
  size_le := by
    intro t p hp
    cases t <;> (rw [List.mem_singleton.mp hp]; decide)

/-- The pong follows the video packet. -/
def oneAfterAnother : Schedule videoAndPong where
  calls := video.calls ++ pong.calls
  ordered := by
    intro t
    cases t <;> decide

theorem decodes_oneAfterAnother : oneAfterAnother.SplitsIntoChunks ∧ oneAfterAnother.Decodes := by
  have hkept : oneAfterAnother.KeepsChunks := by
    unfold KeepsChunks SwitchesAtStarts
    decide
  have hall := decodes_of_keepsChunks oneAfterAnother hkept
  refine ⟨hall.1, hall.2 ?_⟩
  intro t p hp
  cases t with
  | worker =>
    rw [List.mem_singleton.mp hp]
    exact
      ⟨{ isMedia := .inr rfl, chunkStreamId_lt := by decide, timestamp_nonneg := by decide
         timestamp_lt := by decide, messageStreamId_inInt := by decide, one_le_size := by decide
         size_lt := by decide }, by decide, .inl (by decide)⟩
  | receiver =>
    rw [List.mem_singleton.mp hp]
    exact ⟨show InInt 1000 by decide, by decide, by decide, .inl (by decide)⟩

/-- The pong comes between the second and the third byte of the header of the
video packet. -/
def interrupted : Schedule videoAndPong where
  calls := video.calls.take 2 ++ pong.calls ++ video.calls.drop 2
  ordered := by
    intro t
    cases t <;> decide

/-- The decoder takes the start of the pong for the rest of the header, and the
message type that it finds there does not exist. -/
theorem not_decodes_interrupted :
    interrupted.bytes =
      [0x06, 0x00, 0x02, 0x00, 0x00, 0x34, 0x00, 0x00, 0x06, 0x04, 0x00, 0x00, 0x00, 0x00, 0x00,
        0x07, 0x00, 0x00, 0x03, 0xe8, 0x00, 0x28, 0x00, 0x00, 0x02, 0x09, 0x01, 0x00, 0x00, 0x00,
        0x17, 0x01] ∧
    ¬ interrupted.Decodes := by
  refine ⟨by decide, ?_⟩
  intro hdecodes
  obtain ⟨calls, packets, d, order, hrun, -, hall, horder⟩ := hdecodes
    (RtmpDecoder.start txChunkSize interrupted.bytes []) rfl (fun _ => rfl) rfl
  have hfail : (match readPacket.run (RtmpDecoder.start txChunkSize interrupted.bytes []) with
      | .ok _ _ => false
      | .error _ _ => true) = true := by decide +kernel
  have hnil : packets = [] := by
    cases calls with
    | zero =>
      cases hrun
      rfl
    | succ calls =>
      rcases readPackets_eq_ok hrun with hnil | ⟨packet, d₁, rest, hone, -⟩
      · exact hnil
      · rw [hone] at hfail
        cases hfail
  subst hnil
  cases hall
  cases horder .worker

end Schedule

end MediasoupDemo.Rtmp
