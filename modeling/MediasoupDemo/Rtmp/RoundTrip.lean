import MediasoupDemo.Rtmp.ChunkStreams

/-!
# Chunked messages survive the wire

Audio and video messages with a timestamp that fits its field.  A sender cuts
every message into chunks and may interleave the chunks of different chunk
streams.  `Interleaving` is such a sequence of chunks, and `wire` its bytes.
The decoder gets every message back, when its last chunk arrives: the messages
are `mediaTraffic`, and `Message.sendable` says that each can be received.
-/

namespace MediasoupDemo.Rtmp

open MediasoupDemo.Runtime Interleave RtmpDecoder Method

/-! ## Messages and interleavings -/

/-- An audio or video message as it is handed to the sender. -/
@[ext]
structure Message where
  messageType : MessageType
  chunkStreamId : Nat
  timestamp : Int
  messageStreamId : Int
  data : List UInt8
  size : Nat
  isMedia : messageType = .audio ∨ messageType = .video
  two_le_chunkStreamId : 2 ≤ chunkStreamId
  chunkStreamId_le : chunkStreamId ≤ 63
  timestamp_nonneg : 0 ≤ timestamp
  timestamp_le : timestamp ≤ 0xFFFFFE
  messageStreamId_inInt : InInt messageStreamId
  one_le_size : 1 ≤ size
  size_le : size ≤ 2 ^ 24 - 1
  size_le_length : size ≤ data.length

instance : DecidableEq Message := fun _ _ => decidable_of_iff _ Message.ext_iff.symm

/-- What the receiver is to get of a message. -/
structure Content where
  messageType : MessageType
  messageStreamId : Int
  timestamp : Int
  body : List UInt8

variable (m : Message)

namespace Message

/-- The packet of the message: a new header with the fields of the message. -/
def packet (m : Message) : ContentData where
  header :=
    { chunkType := .type0Full, chunkStreamId := m.chunkStreamId
      absoluteTimestamp := m.timestamp, messageType := m.messageType
      messageStreamId := m.messageStreamId }
  data := m.data
  size := m.size

/-- The header in front of the chunks. -/
def header (m : Message) : RtmpHeader := m.packet.sentHeader

/-- The bytes of the message. -/
def body (m : Message) : List UInt8 := m.packet.body

def content (m : Message) : Content where
  messageType := m.messageType
  messageStreamId := m.messageStreamId
  timestamp := m.timestamp
  body := m.body

theorem body_length : m.body.length = m.size := by
  have hle := m.size_le_length
  show (m.data.take m.size).length = m.size
  rw [List.length_take]
  omega

/-- The timestamp fits the header, so there is no extended timestamp. -/
theorem header_eq :
    m.header =
      { chunkType := .type0Full, chunkStreamId := m.chunkStreamId
        absoluteTimestamp := m.timestamp, packetLength := m.size, messageType := m.messageType
        messageStreamId := m.messageStreamId } := by
  have hle := m.timestamp_le
  have hsmall : ¬ m.timestamp ≥ 0xffffff := by omega
  simp [header, packet, ContentData.sentHeader, RtmpHeader.stamp, hsmall]

end Message

/-- The content of a packet that the decoder returns. -/
def RtmpPacket.content (packet : RtmpPacket) : Option Content :=
  match packet.body with
  | .content body =>
      some
        { messageType := packet.header.messageType
          messageStreamId := packet.header.messageStreamId
          timestamp := packet.header.absoluteTimestamp, body }
  | _ => none

theorem RtmpPacket.body_of_content {packet : RtmpPacket} {content : Content}
    (h : packet.content = some content) : packet.body = .content content.body := by
  obtain ⟨header, body⟩ := packet
  cases body with
  | content data =>
    cases h
    rfl
  | setChunkSize | abort | acknowledgement | userControl | windowAckSize | setPeerBandwidth
  | command | data => cases h

/-- A chunk on the wire, with the message that it belongs to. -/
structure SentChunk where
  message : Message
  chunk : Chunk
  deriving DecidableEq

def SentChunk.chunkStreamId (x : SentChunk) : Nat := x.message.chunkStreamId

/-- The last chunk of a message has room for all that is left. -/
def SentChunk.isLast (chunkSize : Nat) (x : SentChunk) : Bool :=
  x.chunk.rest.length ≤ chunkSize

def Message.sentChunks (chunkSize : Nat) (m : Message) : List SentChunk :=
  (m.packet.chunks chunkSize).map fun chunk => { message := m, chunk }

/-- The chunks of the messages in any order that keeps the chunks of one chunk
stream in order, one message after another. -/
structure Interleaving (chunkSize : Nat) (messages : List Message) where
  chunks : List SentChunk
  ordered : ∀ id, part SentChunk.chunkStreamId chunks id =
    (part Message.chunkStreamId messages id).flatMap (Message.sentChunks chunkSize)

/-- The bytes of the chunks. -/
def wire (chunkSize : Nat) (chunks : List SentChunk) : List UInt8 :=
  chunks.flatMap fun x => x.chunk.bytes chunkSize

/-- The messages in the order of their last chunks. -/
def completed (chunkSize : Nat) (chunks : List SentChunk) : List Message :=
  (chunks.filter (SentChunk.isLast chunkSize)).map SentChunk.message

/-! ## Messages as traffic -/

/-- Messages on the wire. -/
def mediaTraffic : Traffic Message where
  header := Message.header
  body := Message.body
  value m := .content m.body

theorem Message.sendable (chunkSize : Nat) :
    Sendable chunkSize (mediaTraffic.header m) (mediaTraffic.body m) (mediaTraffic.value m) := by
  have hle := m.timestamp_le
  have hsmall : m.header.absoluteTimestamp < 0xffffff := show m.timestamp < 0xffffff by omega
  have hsize := m.size_le
  have hpos : 0 < m.body.length := by
    rw [m.body_length]
    exact m.one_le_size
  exact
    { chunkStreamId_lt := Nat.lt_succ_of_le m.chunkStreamId_le
      timestamp_nonneg := m.timestamp_nonneg
      timestamp_lt := lt_trans hsmall (by decide)
      messageStreamId_inInt := m.messageStreamId_inInt
      length_pos := hpos
      length_lt := show m.size < 2 ^ 24 by omega
      length_eq := m.body_length
      stamped := fun _ => by rw [show mediaTraffic.header m = m.header from rfl, m.header_eq]
      fits := .inl hsmall
      returned := nofun
      reads := fun _ =>
        reads_content m.isMedia m.body_length (List.ne_nil_of_length_pos hpos) }

/-- A chunk as one of the traffic. -/
def SentChunk.tagged (x : SentChunk) : Message × Chunk := (x.message, x.chunk)

theorem map_tagged_sentChunks (chunkSize : Nat) (m : Message) :
    (m.sentChunks chunkSize).map SentChunk.tagged = mediaTraffic.chunks chunkSize m := by
  rw [Message.sentChunks, List.map_map, Traffic.chunks]
  show List.map _ (chunksFrom m.header chunkSize m.size .type0Full m.body) =
    List.map _ (chunksFrom m.header chunkSize m.body.length .type0Full m.body)
  rw [m.body_length]
  rfl

/-- An interleaving has the parts that the decoder follows. -/
theorem part_map_tagged {chunkSize : Nat} {messages : List Message}
    (w : Interleaving chunkSize messages) (id : Nat) :
    part mediaTraffic.chunkKey (w.chunks.map SentChunk.tagged) id =
      (part mediaTraffic.chunkStreamId messages id).flatMap (mediaTraffic.chunks chunkSize) := by
  have hpart : part mediaTraffic.chunkKey (w.chunks.map SentChunk.tagged) id =
      (part SentChunk.chunkStreamId w.chunks id).map SentChunk.tagged := by
    rw [part, part, List.filter_map]
    rfl
  have hchunks : (fun m => (Message.sentChunks chunkSize m).map SentChunk.tagged) =
      mediaTraffic.chunks chunkSize := funext (map_tagged_sentChunks chunkSize)
  rw [hpart, w.ordered, List.map_flatMap, hchunks]
  rfl

theorem ends_map_tagged (chunkSize : Nat) (xs : List SentChunk) :
    Traffic.ends chunkSize (xs.map SentChunk.tagged) = completed chunkSize xs := by
  rw [Traffic.ends, completed, List.filter_map, List.map_map]
  rfl

theorem content_of_isPacketOf {packet : RtmpPacket} {m : Message}
    (h : mediaTraffic.IsPacketOf packet m) : packet.content = some m.content := by
  obtain ⟨chunkType, rfl⟩ := h
  show RtmpPacket.content
    { header := m.header.received chunkType, body := .content m.body } = some m.content
  rw [m.header_eq]
  rfl

/-- Messages that are cut into chunks by `writeTo` and interleaved in any way
are received once each, in the order of their last chunks, with type, stream
id, timestamp and body, and no byte is left.  It does not matter how the bytes
are segmented on the way. -/
theorem readPackets_of_interleaving {chunkSize : Nat} (hpos : 1 ≤ chunkSize)
    (messages : List Message) (w : Interleaving chunkSize messages) (segments : List Nat)
    {calls : Nat} (hcalls : w.chunks.length ≤ calls) :
    (∀ m ∈ messages, m.packet.writeTo chunkSize =
      wire chunkSize (m.sentChunks chunkSize)) ∧
    ∃ packets d,
      (readPackets calls).run (RtmpDecoder.start chunkSize (wire chunkSize w.chunks) segments) =
        .ok packets d ∧
      d.input.bytes = [] ∧
      packets.map RtmpPacket.content =
        (completed chunkSize w.chunks).map (fun m => some m.content) ∧
      (completed chunkSize w.chunks).Perm messages := by
  refine ⟨?_, ?_⟩
  · intro m _
    rw [ContentData.writeTo_eq_chunks hpos m.size_le_length, wire, Message.sentChunks,
      List.flatMap_map]
  · obtain ⟨packets, d, hpackets, hend, hall, hperm⟩ :=
      Traffic.run_readPackets_of_parts hpos (fun m _ => m.sendable chunkSize) (part_map_tagged w)
        segments (show (w.chunks.map SentChunk.tagged).length ≤ calls by simpa using hcalls)
    rw [ends_map_tagged] at hall hperm
    rw [List.flatMap_map] at hpackets
    refine ⟨packets, d, hpackets, hend, ?_, hperm⟩
    rw [← List.forall₂_eq_eq_eq, List.forall₂_map_left_iff, List.forall₂_map_right_iff]
    exact hall.imp fun _ _ => content_of_isPacketOf

/-- An audio message of three bytes and a video message of four. -/
def audioMessage : Message where
  messageType := .audio
  chunkStreamId := 7
  timestamp := 40
  messageStreamId := 1
  data := [0xaf, 0x01, 0x21]
  size := 3
  isMedia := .inl rfl
  two_le_chunkStreamId := by decide
  chunkStreamId_le := by decide
  timestamp_nonneg := by decide
  timestamp_le := by decide
  messageStreamId_inInt := by decide
  one_le_size := by decide
  size_le := by decide
  size_le_length := by decide

@[inherit_doc audioMessage]
def videoMessage : Message where
  messageType := .video
  chunkStreamId := 6
  timestamp := 0xFFFFFE
  messageStreamId := -1
  data := [0x17, 0x01, 0x00, 0x00, 0x99]
  size := 4
  isMedia := .inr rfl
  two_le_chunkStreamId := by decide
  chunkStreamId_le := by decide
  timestamp_nonneg := by decide
  timestamp_le := by decide
  messageStreamId_inInt := by decide
  one_le_size := by decide
  size_le := by decide
  size_le_length := by decide

/-- The two messages in chunks of two bytes, with the audio message inside the
video message. -/
def twoMessages : Interleaving 2 [videoMessage, audioMessage] where
  chunks := (videoMessage.sentChunks 2).take 1 ++ audioMessage.sentChunks 2 ++
    (videoMessage.sentChunks 2).drop 1
  ordered := by
    intro id
    by_cases hvideo : id = 6
    · subst hvideo
      decide
    · by_cases haudio : id = 7
      · subst haudio
        decide
      · have hchunks : ∀ x ∈ (videoMessage.sentChunks 2).take 1 ++ audioMessage.sentChunks 2 ++
            (videoMessage.sentChunks 2).drop 1, x.chunkStreamId = 6 ∨ x.chunkStreamId = 7 := by
          decide
        have hmessages : ∀ m ∈ [videoMessage, audioMessage],
            m.chunkStreamId = 6 ∨ m.chunkStreamId = 7 := by decide
        rw [part_eq_nil, part_eq_nil]
        · rfl
        · intro m hm
          have hid := hmessages m hm
          omega
        · intro x hx
          have hid := hchunks x hx
          omega

theorem readPackets_of_interleaving_two :
    completed 2 twoMessages.chunks = [audioMessage, videoMessage] ∧
    ∃ packets d,
      (readPackets 4).run (RtmpDecoder.start 2 (wire 2 twoMessages.chunks) [1, 1]) =
        .ok packets d ∧
      d.input.bytes = [] ∧
      packets.map RtmpPacket.content = [some audioMessage.content, some videoMessage.content] := by
  obtain ⟨-, packets, d, hrun, hend, hcontents, -⟩ :=
    readPackets_of_interleaving (by decide) [videoMessage, audioMessage] twoMessages [1, 1]
      (show twoMessages.chunks.length ≤ 4 by decide)
  exact ⟨by decide, packets, d, hrun, hend, hcontents⟩

end MediasoupDemo.Rtmp
