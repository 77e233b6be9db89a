import MediasoupDemo.Rtmp.Consumption
import MediasoupDemo.Rtmp.RoundTrip

/-!
# Timestamps that do not fit their field

A timestamp from `0xffffff` on is written behind the header, as an extended
timestamp.  The writer repeats it in front of every further chunk of the
message.  The reader expects it there only when the previous header has a large
timestamp delta, and the delta of a full header is 0.

* A message that fits one chunk is received, with its timestamp.
* Of a longer message the reader takes the repeated timestamps for parts of the
  body, and the rest of the bytes for chunks.  `Damaged` is an invariant of all
  that the decoder may make of them: whatever it returns, it is never a message
  of `length` equal bytes `v`, where `v` is no byte of the single byte headers.
-/

namespace MediasoupDemo.Rtmp

open MediasoupDemo.Runtime InputStream Interleave RtmpDecoder Method

/-- An audio or video packet, with a new header. -/
def mediaPacket (messageType : MessageType) (chunkStreamId : Nat) (timestamp messageStreamId : Int)
    (data : List UInt8) (size : Nat) : ContentData where
  header :=
    { chunkType := .type0Full, chunkStreamId, absoluteTimestamp := timestamp, messageType
      messageStreamId }
  data := data
  size := size

/-- What the receiver is to get of a packet. -/
def ContentData.content (packet : ContentData) : Content where
  messageType := packet.header.messageType
  messageStreamId := packet.header.messageStreamId
  timestamp := packet.header.absoluteTimestamp
  body := packet.body

/-- The decoder reads the bytes of the packet: it returns the packet and nothing
else, and no byte is left. -/
def RoundTrips (chunkSize : Nat) (packet : ContentData) : Prop :=
  ∀ segments, ∃ calls packets d,
    (readPackets calls).run (RtmpDecoder.start chunkSize (packet.writeTo chunkSize) segments) =
      .ok packets d ∧
    d.input.bytes = [] ∧ packets.map RtmpPacket.content = [some packet.content]

/-- The fields of an audio or video message, for any body. -/
structure MediaFields (messageType : MessageType) (chunkStreamId : Nat)
    (timestamp messageStreamId : Int) (size : Nat) : Prop where
  isMedia : messageType = .audio ∨ messageType = .video
  chunkStreamId_lt : chunkStreamId < 64
  timestamp_nonneg : 0 ≤ timestamp
  timestamp_lt : timestamp < 2 ^ 31
  messageStreamId_inInt : InInt messageStreamId
  one_le_size : 1 ≤ size
  size_lt : size < 2 ^ 24

/-! ## Messages that are received -/

/-- Content packets on the wire. -/
def contentTraffic : Traffic ContentData where
  header := ContentData.sentHeader
  body := ContentData.body
  value packet := .content packet.body

section

variable {messageType : MessageType} {chunkStreamId : Nat} {timestamp messageStreamId : Int}
  {size chunkSize : Nat} (hfields : MediaFields messageType chunkStreamId timestamp
    messageStreamId size)

theorem body_length_mediaPacket {data : List UInt8} (hdata : size ≤ data.length) :
    (mediaPacket messageType chunkStreamId timestamp messageStreamId data size).body.length =
      size := by
  show (data.take size).length = size
  rw [List.length_take]
  omega

include hfields in
theorem sendable_mediaPacket {data : List UInt8} (hdata : size ≤ data.length)
    (hfits : timestamp < 0xffffff ∨ size ≤ chunkSize) :
    let packet := mediaPacket messageType chunkStreamId timestamp messageStreamId data size
    Sendable chunkSize (contentTraffic.header packet) (contentTraffic.body packet)
      (contentTraffic.value packet) := by
  intro packet
  have hlen : packet.body.length = size := body_length_mediaPacket hdata
  have hpos : 0 < packet.body.length := by
    rw [hlen]
    exact hfields.one_le_size
  exact
    { chunkStreamId_lt := hfields.chunkStreamId_lt
      timestamp_nonneg := hfields.timestamp_nonneg
      timestamp_lt := hfields.timestamp_lt
      messageStreamId_inInt := hfields.messageStreamId_inInt
      length_pos := hpos
      length_lt := hfields.size_lt
      length_eq := hlen
      stamped := fun hsmall => if_neg (not_le.mpr hsmall)
      fits := hfits.imp_right fun hsize => hlen.trans_le hsize
      returned := nofun
      reads := fun _ =>
        reads_content hfields.isMedia hlen (List.ne_nil_of_length_pos hpos) }

include hfields in
/-- A message with a timestamp that fits its field, or in one chunk. -/
theorem roundTrips_of_fits (hchunk : 1 ≤ chunkSize) {data : List UInt8}
    (hdata : size ≤ data.length) (hfits : timestamp < 0xffffff ∨ size ≤ chunkSize) :
    RoundTrips chunkSize
      (mediaPacket messageType chunkStreamId timestamp messageStreamId data size) := by
  let packet := mediaPacket messageType chunkStreamId timestamp messageStreamId data size
  intro segments
  have hlen : packet.body.length = size := body_length_mediaPacket hdata
  have hsend : ∀ m ∈ [packet], Sendable chunkSize (contentTraffic.header m)
      (contentTraffic.body m) (contentTraffic.value m) := by
    intro m hm
    rw [List.mem_singleton.mp hm]
    exact sendable_mediaPacket hfields hdata hfits
  obtain ⟨packets, d, hrun, hend, hall, hperm⟩ := Traffic.run_readPackets_of_parts hchunk hsend
    (contentTraffic.part_flatMap_chunks chunkSize [packet]) segments (le_refl _)
  have hwire : packet.writeTo chunkSize =
      ([packet].flatMap (contentTraffic.chunks chunkSize)).flatMap
        (fun x => x.2.bytes chunkSize) := by
    rw [ContentData.writeTo_eq_chunks hchunk hdata, List.flatMap_singleton, Traffic.chunks,
      List.flatMap_map]
    show (chunksFrom _ _ size _ packet.body).flatMap _ =
      (chunksFrom _ _ packet.body.length _ packet.body).flatMap _
    rw [hlen]
    rfl
  rw [List.perm_singleton.mp hperm] at hall
  rw [← hwire] at hrun
  refine ⟨_, packets, d, hrun, hend, ?_⟩
  cases hall with
  | cons hone hnone =>
    cases hnone
    obtain ⟨chunkType, rfl⟩ := hone
    rfl

end

/-! ## Messages that are not received -/

variable {packet : Option RtmpPacket}

section Damaged

variable (v : UInt8) (id : Nat) (front : List UInt8) (length : Nat)

/-- Too few bytes `v` are left for a message of `length` of them, on every
chunk stream, but for the one whose buffer starts with something else. -/
structure Damaged (d : RtmpDecoder) : Prop where
  input : d.input.bytes.count v < length
  buffers : ∀ stream, (d.buffers stream).count v + d.input.bytes.count v < length ∨
    (stream = id ∧ front <+: d.buffers stream)

variable {v id front length}

variable {header : RtmpHeader}

/-- What is read from a stream with too few bytes `v`. -/
theorem ne_content_of_count_lt {s s' : InputStream} {body : PacketBody}
    (h : (readBody header).run s = .ok body s') (hcount : s.bytes.count v < length) :
    body ≠ .content (List.replicate length v) := by
  rintro rfl
  have hsplit := readBody_eq_content h
  have hle : length ≤ s.bytes.count v := by
    rw [← hsplit, List.count_append, List.count_replicate_self]
    omega
  omega

/-- What is read from a buffer that starts with something else. -/
theorem ne_content_of_front {s s' : InputStream} {body : PacketBody}
    (h : (readBody header).run s = .ok body s') (hfront : front <+: s.bytes)
    (hshort : front.length ≤ length) (hother : ∃ b ∈ front, b ≠ v) :
    body ≠ .content (List.replicate length v) := by
  rintro rfl
  have hsplit := readBody_eq_content h
  have hreplicate : List.replicate length v <+: s.bytes := ⟨s'.bytes, hsplit⟩
  have hle : front <+: List.replicate length v :=
    List.prefix_of_prefix_length_le hfront hreplicate (by rw [List.length_replicate]; exact hshort)
  obtain ⟨b, hb, hne⟩ := hother
  exact hne (List.eq_of_mem_replicate (hle.subset hb))

/-- Bytes are taken from the input, and buffers are emptied or left as they are. -/
theorem Damaged.mono {d d' : RtmpDecoder} (hd : Damaged v id front length d)
    (hle : d'.input.bytes.count v ≤ d.input.bytes.count v)
    (hbuffers : ∀ stream, d'.buffers stream = d.buffers stream ∨ d'.buffers stream = []) :
    Damaged v id front length d' := by
  have hinput := hd.input
  refine ⟨by omega, fun stream => ?_⟩
  rcases hbuffers stream with heq | heq
  · rw [heq]
    exact (hd.buffers stream).imp_left fun hfew => by omega
  · rw [heq, List.count_nil]
    exact .inl (by omega)

variable (hshort : front.length ≤ length) (hother : ∃ b ∈ front, b ≠ v)
include hshort hother

/-- What was stored is read if it is complete, and it is no such message. -/
theorem Damaged.finish {d d' : RtmpDecoder} {complete : Bool} (hd : Damaged v id front length d)
    (h : (if complete then readStoredBody header >>= finishPacket header else pure none :
      Method RtmpDecoder (Option RtmpPacket)).run d = .ok packet d') :
    Damaged v id front length d' ∧
      ∀ p, packet = some p → p.body ≠ .content (List.replicate length v) := by
  cases complete with
  | false =>
    cases h
    exact ⟨hd, fun p hp => absurd hp (Option.some_ne_none p).symm⟩
  | true =>
    obtain ⟨body, d₁, hstored, hfinish⟩ := run_bind_eq_ok h
    obtain ⟨hinput, hcleared, rest, hread⟩ := readStoredBody_eq_ok hstored
    obtain ⟨hinput', hbuffers, hpacket⟩ := finishPacket_eq_ok hfinish
    refine ⟨hd.mono (by rw [hinput', hinput]) fun stream => ?_, fun p hp => ?_⟩
    · rw [hbuffers, hcleared]
      by_cases hid : stream = header.chunkStreamId
      · subst hid
        exact .inr (Function.update_self ..)
      · exact .inl (Function.update_of_ne hid ..)
    · rw [hpacket p hp]
      rcases hd.buffers header.chunkStreamId with hfew | ⟨-, hfront⟩
      · exact ne_content_of_count_lt hread (show (d.buffers _).count v < length by omega)
      · exact ne_content_of_front hread hfront hshort hother

/-- A chunk keeps the invariant, and what it returns is no such message. -/
theorem Damaged.readChunk {d d' : RtmpDecoder}
    (hd : Damaged v id front length d) (h : (RtmpDecoder.readChunk header).run d = .ok packet d') :
    Damaged v id front length d' ∧
      ∀ p, packet = some p → p.body ≠ .content (List.replicate length v) := by
  by_cases hlong : d.rtmpSessionInfo.rxChunkSize < header.packetLength
  · rw [run_readChunk_of_gt hlong] at h
    obtain ⟨complete, d₁, hstore, hrest⟩ := run_bind_eq_ok h
    obtain ⟨prevHeaderRx, data, input, -, hsplit, -, -, rfl⟩ := storePacketChunk_eq_ok hstore
    refine Damaged.finish hshort hother ?_ hrest
    have hcount : d.input.bytes.count v = data.count v + input.bytes.count v := by
      rw [← hsplit, List.count_append]
    have hinput := hd.input
    refine ⟨show input.bytes.count v < length by omega, fun stream => ?_⟩
    show _ + input.bytes.count v < length ∨ _
    rw [buffers_set]
    by_cases hid : stream = header.chunkStreamId
    · subst hid
      rw [Function.update_self, List.count_append]
      rcases hd.buffers header.chunkStreamId with hfew | ⟨hown, hfront⟩
      · left
        omega
      · exact .inr ⟨hown, hfront.trans (List.prefix_append _ _)⟩
    · rw [Function.update_of_ne hid]
      exact (hd.buffers stream).imp_left fun hfew => by
        show (d.buffers stream).count v + _ < _
        omega
  · rw [run_readChunk_of_le (not_lt.mp hlong)] at h
    obtain ⟨body, d₁, hinput, hfinish⟩ := run_bind_eq_ok h
    obtain ⟨input, hread, rfl⟩ := onInput_eq_ok hinput
    obtain ⟨hinput', hbuffers, hpacket⟩ := finishPacket_eq_ok hfinish
    have hle := ((shrinks_readBody header).takes _ _ _ hread).sublist.count_le v
    refine ⟨hd.mono (by rw [hinput']; exact hle) fun _ => .inl (by rw [hbuffers]; rfl), ?_⟩
    intro p hp
    rw [hpacket p hp]
    exact ne_content_of_count_lt hread hd.input

/-- No run of the decoder returns such a message. -/
theorem Damaged.readPackets (calls : Nat) :
    ∀ {d d' : RtmpDecoder} {packets : List RtmpPacket}, Damaged v id front length d →
      (RtmpDecoder.readPackets calls).run d = .ok packets d' →
      ∀ p ∈ packets, p.body ≠ .content (List.replicate length v) := by
  induction calls with
  | zero =>
    intro d d' packets _ h
    cases h
    exact fun p hp => absurd hp List.not_mem_nil
  | succ calls ih =>
    intro d d' packets hd h
    rcases readPackets_eq_ok h with hnil | ⟨packet, d₁, rest, hone, hmore, hpackets⟩
    · rw [hnil]
      exact fun p hp => absurd hp List.not_mem_nil
    · obtain ⟨header, input, hheader, hchunk⟩ := readPacket_eq_ok hone
      have hle := ((shrinks_readers.readHeader _).takes _ _ _ hheader).sublist.count_le v
      obtain ⟨hd₁, hpacket⟩ := Damaged.readChunk hshort hother (hd.mono hle fun stream => .inl (by
        rw [buffers_setPrevHeaderRx]; rfl)) hchunk
      intro p hp
      rw [hpackets] at hp
      rcases List.mem_append.mp hp with hfirst | hlater
      · exact hpacket p (Option.mem_toList.mp hfirst)
      · exact ih hd₁ hmore p hlater

end Damaged

/-! ## The first two chunks of a longer message -/

/-- A few bytes leave some byte out. -/
theorem exists_notMem_of_length_lt {bytes : List UInt8} (h : bytes.length < 6) :
    ∃ v, v ∉ bytes := by
  by_contra hall
  push Not at hall
  have hsub : [0, 1, 2, 3, 4, 5] ⊆ bytes := fun v _ => hall v
  have hnodup : ([0, 1, 2, 3, 4, 5] : List UInt8).Nodup := by decide
  have hle := (List.subperm_of_subset hnodup hsub).length_le
  simp only [List.length_cons, List.length_nil] at hle
  omega

section Loop

variable {header : RtmpHeader} {chunkSize : Nat} {body : List UInt8}

/-- The headers bring no byte `v`, so `length` bytes of the body are all. -/
theorem count_writeLoop_le {v : UInt8} (hv : v ∉ header.writeTo .type3RelativeSingleByte)
    (turns : Nat) : ∀ pos length,
      (writeLoop header chunkSize body turns pos length).count v ≤ length := by
  induction turns with
  | zero =>
    intro pos length
    exact List.count_le_length.trans (List.length_take_le _ _)
  | succ turns ih =>
    intro pos length
    have hpiece : ∀ n, (List.take n (body.drop pos)).count v ≤ n := fun n =>
      List.count_le_length.trans (List.length_take_le _ _)
    rw [writeLoop]
    by_cases hmore : length > chunkSize
    · have hnext := ih (pos + chunkSize) (length - chunkSize)
      have hfirst := hpiece chunkSize
      rw [if_pos hmore, List.count_append, List.count_append, List.count_eq_zero_of_not_mem hv]
      omega
    · rw [if_neg hmore]
      exact hpiece length

end Loop

section Long

variable {chunkSize : Nat} {v : UInt8}

variable {h : RtmpHeader} (hid : h.chunkStreamId < 64) (hnonneg : 0 ≤ h.absoluteTimestamp)
  (hstamp : h.absoluteTimestamp < 2 ^ 31) (hchunk : 1 ≤ chunkSize)
  (hlong : chunkSize < h.packetLength)
include hid hnonneg hstamp hchunk hlong

theorem readPacket_first (hstream : InInt h.messageStreamId) (hlength : h.packetLength < 2 ^ 24)
    {more : List UInt8} {segments : List Nat} {d : RtmpDecoder}
    (hrun : readPacket.run (RtmpDecoder.start chunkSize
      (h.writeTo .type0Full ++ (List.replicate chunkSize v ++ more)) segments) = .ok packet d) :
    packet = none ∧ d.rtmpSessionInfo.rxChunkSize = chunkSize ∧
      d.getChunkStreamInfo h.chunkStreamId =
        ⟨some (h.received .type0Full), List.replicate chunkSize v⟩ ∧
      (∀ stream, stream ≠ h.chunkStreamId → d.buffers stream = []) ∧ d.input.bytes = more := by
  let start := RtmpDecoder.start chunkSize
    (h.writeTo .type0Full ++ (List.replicate chunkSize v ++ more)) segments
  obtain ⟨segments₁, -, hheader⟩ := run_readHeader_full hid hnonneg hstamp hlength hstream
    start.prevHeaders (List.replicate chunkSize v ++ more)
    (.network segments)
  obtain ⟨data, input, hsplit, hlen, hrest⟩ :=
    readPacket_eq_ok_of_long hheader (Int.ofNat_lt.mpr hlong) hrun
  have hlen : data.length = chunkSize := by
    rw [hlen]
    show (min ((h.packetLength : Int) - 0) chunkSize).toNat = chunkSize
    omega
  obtain ⟨rfl, rfl⟩ := List.append_inj hsplit (by rw [hlen, List.length_replicate])
  have hpart : ¬ ((([] : List UInt8) ++ List.replicate chunkSize v).length == h.packetLength) := by
    rw [List.nil_append, List.length_replicate, beq_iff_eq]
    omega
  rw [if_neg (by exact hpart)] at hrest
  cases hrest
  refine ⟨rfl, rfl, getChunkStreamInfo_set _ _ _, fun stream hne => ?_, rfl⟩
  have hother : stream ≠ (h.received .type0Full).chunkStreamId := hne
  rw [buffers_set, Function.update_of_ne hother]
  rfl

section Second

variable {b : UInt8} (hb : b ≠ v) {rest : List UInt8} (hcount : rest.count v < h.packetLength)
  {d d' : RtmpDecoder} (hrx : d.rtmpSessionInfo.rxChunkSize = chunkSize)
  (hinfo : d.getChunkStreamInfo h.chunkStreamId =
    ⟨some (h.received .type0Full), List.replicate chunkSize v⟩)
  (hothers : ∀ stream, stream ≠ h.chunkStreamId → d.buffers stream = [])
  (hin : d.input.bytes = basicHeader .type3RelativeSingleByte h.chunkStreamId :: b :: rest)
include hb hcount hrx hinfo hothers hin

/-- The second chunk starts with the repeated timestamp, which is stored as a
part of the body. -/
theorem damaged_of_second (hrun : readPacket.run d = .ok packet d') :
    Damaged v h.chunkStreamId (List.replicate chunkSize v ++ [b]) h.packetLength d' ∧
      ∀ p, packet = some p → p.body ≠ .content (List.replicate h.packetLength v) := by
  have hinput : d.input = ⟨basicHeader .type3RelativeSingleByte h.chunkStreamId :: b :: rest,
      d.input.segments⟩ := by
    rw [← hin]
  have hprev : (d.getChunkStreamInfo h.chunkStreamId).prevHeaderRx =
      some (h.received .type0Full) := by
    rw [hinfo]
  have hheader := @run_readHeader_repeated h hid ⟨by omega, hstamp⟩
    d.prevHeaders .type0Full hprev (b :: rest)
    d.input.segments
  rw [← hinput] at hheader
  have hbuffer : d.buffers h.repeated.chunkStreamId = List.replicate chunkSize v :=
    (congrArg ChunkStreamInfo.baos hinfo :)
  obtain ⟨data, input, hsplit, hlen, hrest⟩ :=
    readPacket_eq_ok_of_long hheader (by rw [hrx]; exact Int.ofNat_lt.mpr hlong) hrun
  rw [hbuffer] at hlen hrest
  cases data with
  | nil =>
    have hpos : h.repeated.packetLength = h.packetLength := rfl
    rw [hrx, List.length_replicate, hpos, List.length_nil] at hlen
    omega
  | cons b' data =>
    -- The byte behind the header is stored.
    obtain ⟨rfl, hdata⟩ : b' = b ∧ data ++ input.bytes = rest := List.cons.inj hsplit
    have hfew : input.bytes.count v < h.packetLength := by
      rw [← hdata, List.count_append] at hcount
      omega
    refine Damaged.finish ?_ ⟨b', List.mem_append_right _ (.head _), hb⟩ ⟨hfew, fun stream => ?_⟩
      hrest
    · rw [List.length_append, List.length_replicate]
      exact hlong
    · rw [buffers_set]
      by_cases hid : stream = h.repeated.chunkStreamId
      · subst hid
        rw [Function.update_self]
        exact .inr ⟨rfl, data, by simp⟩
      · rw [Function.update_of_ne hid]
        show (d.buffers stream).count v + _ < _ ∨ _
        rw [hothers stream hid, List.count_nil, Nat.zero_add]
        exact .inl hfew

theorem body_ne_of_second {packets : List RtmpPacket} {calls : Nat}
    (hrun : (readPackets calls).run d = .ok packets d') :
    ∀ p ∈ packets, p.body ≠ .content (List.replicate h.packetLength v) := by
  cases calls with
  | zero =>
    cases hrun
    exact fun p hp => absurd hp List.not_mem_nil
  | succ calls =>
    rcases readPackets_eq_ok hrun with hnil | ⟨packet, d₂, later, hone, hlater, hpackets⟩
    · rw [hnil]
      exact fun p hp => absurd hp List.not_mem_nil
    · obtain ⟨hd, hpacket⟩ := damaged_of_second hid hnonneg hstamp hchunk hlong hb hcount hrx hinfo
        hothers hin hone
      have hshort : (List.replicate chunkSize v ++ [b]).length ≤ h.packetLength := by
        rw [List.length_append, List.length_replicate]
        exact hlong
      have hother : ∃ c ∈ List.replicate chunkSize v ++ [b], c ≠ v :=
        ⟨b, List.mem_append_right _ (.head _), hb⟩
      rw [hpackets]
      intro p hp
      rcases List.mem_append.mp hp with hfirst | hmem
      · exact hpacket p (Option.mem_toList.mp hfirst)
      · exact hd.readPackets hshort hother calls hlater p hmem

end Second

end Long

section Fields

variable {messageType : MessageType} {chunkStreamId : Nat} {timestamp messageStreamId : Int}
  {size chunkSize : Nat} (hfields : MediaFields messageType chunkStreamId timestamp
    messageStreamId size)
  (hchunk : 1 ≤ chunkSize) (hlarge : 0xffffff ≤ timestamp) (hlong : chunkSize < size) {v : UInt8}
  (hv : v ∉ basicHeader .type3RelativeSingleByte chunkStreamId :: writeUnsignedInt32 timestamp)
include hfields hchunk hlarge hlong hv

/-- Of a message of bytes `v` that takes several chunks nothing of the kind is
received, if no byte of the single byte headers is `v`. -/
theorem body_ne_of_long {calls : Nat} {packets : List RtmpPacket} {segments : List Nat}
    {d' : RtmpDecoder} (hrun : (readPackets calls).run (RtmpDecoder.start chunkSize
      ((mediaPacket messageType chunkStreamId timestamp messageStreamId (List.replicate size v)
        size).writeTo chunkSize) segments) = .ok packets d') :
    ∀ p ∈ packets, p.body ≠ .content (List.replicate size v) := by
  let packet := mediaPacket messageType chunkStreamId timestamp messageStreamId
    (List.replicate size v) size
  let h := packet.sentHeader
  have hext : h.extendedTimestamp = timestamp := if_pos hlarge
  have hsingle : h.writeTo .type3RelativeSingleByte =
      basicHeader .type3RelativeSingleByte chunkStreamId :: writeUnsignedInt32 timestamp := by
    rw [RtmpHeader.writeTo, hext, if_pos (by omega)]
    rfl
  obtain ⟨b, bytes, hbytes⟩ : ∃ b bytes, writeUnsignedInt32 timestamp = b :: bytes := ⟨_, _, rfl⟩
  have hb : b ≠ v := by
    rintro rfl
    exact hv (by rw [hbytes]; exact .tail _ (.head _))
  obtain ⟨turns, rfl⟩ : ∃ turns, size = turns + 1 := ⟨size - 1, by omega⟩
  -- The bytes behind the first chunk.
  let loop := writeLoop h chunkSize (List.replicate (turns + 1) v) turns chunkSize
    (turns + 1 - chunkSize)
  have hwire : packet.writeTo chunkSize = h.writeTo .type0Full ++ (List.replicate chunkSize v ++
      (basicHeader .type3RelativeSingleByte chunkStreamId :: b :: (bytes ++ loop))) := by
    show _ ++ writeLoop h chunkSize (List.replicate (turns + 1) v) (turns + 1) 0 (turns + 1) = _
    rw [writeLoop, if_pos hlong, List.drop_zero, List.take_replicate, min_eq_left hlong.le, hsingle,
      hbytes, Nat.zero_add, List.append_assoc]
    rfl
  have hcount : (bytes ++ loop).count v < turns + 1 := by
    have hloop : loop.count v ≤ turns + 1 - chunkSize :=
      count_writeLoop_le (hsingle ▸ hv) turns chunkSize (turns + 1 - chunkSize)
    have hnone : bytes.count v = 0 := by
      apply List.count_eq_zero_of_not_mem
      intro hmem
      exact hv (by rw [hbytes]; exact .tail _ (.tail _ hmem))
    rw [List.count_append, hnone]
    omega
  rw [hwire] at hrun
  cases calls with
  | zero =>
    cases hrun
    exact fun p hp => absurd hp List.not_mem_nil
  | succ calls =>
    rcases readPackets_eq_ok hrun with hnil | ⟨packet₁, d₂, rest, hone, hrest, hpackets⟩
    · rw [hnil]
      exact fun p hp => absurd hp List.not_mem_nil
    · obtain ⟨rfl, hrx, hinfo, hothers, hin⟩ := readPacket_first (h := h) hfields.chunkStreamId_lt
        hfields.timestamp_nonneg hfields.timestamp_lt hchunk hlong hfields.messageStreamId_inInt
        hfields.size_lt hone
      rw [hpackets]
      exact body_ne_of_second (h := h) hfields.chunkStreamId_lt hfields.timestamp_nonneg
        hfields.timestamp_lt hchunk hlong hb hcount hrx hinfo hothers hin hrest

theorem not_roundTrips_of_long :
    ¬ RoundTrips chunkSize (mediaPacket messageType chunkStreamId timestamp messageStreamId
      (List.replicate size v) size) := by
  intro hround
  obtain ⟨calls, packets, d, hrun, -, hcontents⟩ := hround []
  obtain ⟨p, hp, hcontent⟩ : ∃ p ∈ packets, p.content = some
      (mediaPacket messageType chunkStreamId timestamp messageStreamId (List.replicate size v)
        size).content := by
    rw [← List.mem_map, hcontents]
    exact .head _
  apply body_ne_of_long hfields hchunk hlarge hlong hv hrun p hp
  rw [RtmpPacket.body_of_content hcontent]
  show PacketBody.content ((List.replicate size v).take size) = _
  rw [List.take_replicate, min_self]

end Fields

/-- Audio and video messages of given type, ids, timestamp and length are
received, whatever their bytes are, if and only if the timestamp fits its field
or the message fits one chunk. -/
theorem roundTrips_iff {messageType : MessageType} {chunkStreamId : Nat}
    {timestamp messageStreamId : Int} {size chunkSize : Nat}
    (hfields : MediaFields messageType chunkStreamId timestamp messageStreamId size)
    (hchunk : 1 ≤ chunkSize) :
    (∀ data : List UInt8, size ≤ data.length → RoundTrips chunkSize
        (mediaPacket messageType chunkStreamId timestamp messageStreamId data size)) ↔
      timestamp < 0xffffff ∨ size ≤ chunkSize := by
  refine ⟨?_, fun hfits data hdata => roundTrips_of_fits hfields hchunk hdata hfits⟩
  intro hall
  by_contra hnot
  rw [not_or, not_lt, not_le] at hnot
  obtain ⟨hlarge, hlong⟩ := hnot
  obtain ⟨v, hv⟩ := exists_notMem_of_length_lt (show (basicHeader .type3RelativeSingleByte
    chunkStreamId :: writeUnsignedInt32 timestamp).length < 6 from Nat.lt_succ_self 5)
  have hlength : size ≤ (List.replicate size v).length := List.length_replicate.ge
  exact not_roundTrips_of_long hfields hchunk hlarge hlong hv (hall _ hlength)

/-- A video message of three bytes after 4 hours, 39 minutes and 37 seconds. -/
def lateVideo : ContentData := mediaPacket .video 6 0xffffff 1 [0x05, 0x05, 0x05] 3

theorem lateVideo_fields : MediaFields .video 6 0xffffff 1 3 where
  isMedia := .inr rfl
  chunkStreamId_lt := by decide
  timestamp_nonneg := by decide
  timestamp_lt := by decide
  messageStreamId_inInt := by decide
  one_le_size := by decide
  size_lt := by decide

theorem roundTrips_lateVideo : RoundTrips 3 lateVideo :=
  (roundTrips_iff lateVideo_fields (by decide)).mpr (.inr (le_refl 3)) _ (le_refl 3)

/-- In chunks of two bytes the message is two chunks.  The first byte of the
timestamp in front of the second is returned as the last byte of the message,
and the other bytes are left. -/
theorem not_roundTrips_lateVideo :
    lateVideo.writeTo 2 =
      [0x06, 0xff, 0xff, 0xff, 0x00, 0x00, 0x03, 0x09, 0x01, 0x00, 0x00, 0x00,
        0x00, 0xff, 0xff, 0xff, 0x05, 0x05, 0xc6, 0x00, 0xff, 0xff, 0xff, 0x05] ∧
    ¬ RoundTrips 2 lateVideo := by
  refine ⟨by decide, ?_⟩
  exact not_roundTrips_of_long (v := 0x05) lateVideo_fields (by decide) (le_refl _)
    (show 2 < 3 by decide) (by decide)

end MediasoupDemo.Rtmp
