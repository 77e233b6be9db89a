import MediasoupDemo.Rtmp.Amf
import MediasoupDemo.Rtmp.Header

/-!
# RTMP packets

A packet is a header and a body.  `readBody` is the method of that name of
every packet class, on the stream that holds the body.  `ContentData` is the
common class of audio and video packets, whose body is plain bytes.

`writeTo` is `RtmpPacket.writeTo` for content packets.  It cuts the body into
pieces of the chunk size and puts a header in front of each, full for the
first and a single byte for the others.  `ContentData.chunks` is the list of
these pieces: a chunk keeps its header and the part of the body that starts
in it.  `writes` are the calls of `OutputStream.write` that write a packet, and
`writeTo_eq_chunks` says that `writeTo` writes the chunks one after another.
-/

namespace MediasoupDemo.Rtmp

open ByteCodec MediasoupDemo.Runtime InputStream

/-! ## Bodies -/

inductive UserControlType where
  | STREAM_BEGIN
  | STREAM_EOF
  | STREAM_DRY
  | SET_BUFFER_LENGTH
  | STREAM_IS_RECORDED
  | PING_REQUEST
  | PONG_REPLY
  | BUFFER_EMPTY
  | BUFFER_READY
  deriving DecidableEq

def UserControlType.getIntValue : UserControlType → Nat
  | STREAM_BEGIN => 0
  | STREAM_EOF => 1
  | STREAM_DRY => 2
  | SET_BUFFER_LENGTH => 3
  | STREAM_IS_RECORDED => 4
  | PING_REQUEST => 6
  | PONG_REPLY => 7
  | BUFFER_EMPTY => 31
  | BUFFER_READY => 32

/-- `UserControl.Type.valueOf`; an unknown number is `null`. -/
def UserControlType.valueOf (intValue : Int) : Option UserControlType :=
  [(0, STREAM_BEGIN), (1, STREAM_EOF), (2, STREAM_DRY), (3, SET_BUFFER_LENGTH),
    (4, STREAM_IS_RECORDED), (6, PING_REQUEST), (7, PONG_REPLY), (31, BUFFER_EMPTY),
    (32, BUFFER_READY)].lookup intValue

/-- `SetPeerBandwidth.LimitType`. -/
inductive LimitType where
  | HARD
  | SOFT
  | DYNAMIC

def LimitType.getIntValue : LimitType → UInt8
  | HARD => 0
  | SOFT => 1
  | DYNAMIC => 2

/-- `LimitType.valueOf`; an unknown number is `null`. -/
def LimitType.valueOf (b : Option UInt8) : Option LimitType :=
  [(some 0, HARD), (some 1, SOFT), (some 2, DYNAMIC)].lookup b

/-- The bodies of the packet classes. -/
inductive PacketBody where
  | setChunkSize (chunkSize : Int)
  | abort (chunkStreamId : Int)
  | acknowledgement (sequenceNumber : Int)
  | userControl (type : Option UserControlType) (eventData : List Int)
  | windowAckSize (acknowledgementWindowSize : Int)
  | setPeerBandwidth (acknowledgementWindowSize : Int) (limitType : Option LimitType)
  | content (data : List UInt8)
  | command (commandName : String) (transactionId : Int) (data : List AmfData)
  | data (type : String) (data : List AmfData)

structure RtmpPacket where
  header : RtmpHeader
  body : PacketBody

/-- The loop of `VariableBodyRtmpPacket.readVariableData`: at least one value.
A value takes at least one byte, so the length of the stream bounds the
turns. -/
def readVariableData (packetLength : Nat) :
    (turns : Nat) → (bytesAlreadyRead : Int) → Method InputStream (List AmfData)
  | 0, _ => pure []
  | turns + 1, bytesAlreadyRead => do
      let dataItem ← readFrom
      let bytesAlreadyRead := int (bytesAlreadyRead + dataItem.getSize)
      if bytesAlreadyRead < packetLength then
        let rest ← readVariableData packetLength turns bytesAlreadyRead
        pure (dataItem :: rest)
      else pure [dataItem]

/-- `readBody` of the class that the message type selects. -/
def readBody (header : RtmpHeader) : Method InputStream PacketBody := do
  match header.messageType with
  | .setChunkSize => pure (.setChunkSize (← readUnsignedInt32))
  | .abort => pure (.abort (← readUnsignedInt32))
  | .acknowledgement => pure (.acknowledgement (← readUnsignedInt32))
  | .windowAcknowledgementSize => pure (.windowAckSize (← readUnsignedInt32))
  | .setPeerBandwidth =>
      let acknowledgementWindowSize ← readUnsignedInt32
      pure (.setPeerBandwidth acknowledgementWindowSize (LimitType.valueOf (← read)))
  | .userControlMessage =>
      let type := UserControlType.valueOf (← readUnsignedInt16)
      let first ← readUnsignedInt32
      if type = some .SET_BUFFER_LENGTH then
        pure (.userControl type [first, ← readUnsignedInt32])
      else pure (.userControl type [first])
  | .audio | .video => pure (.content (← readBytesUntilFull header.packetLength))
  | .commandAmf0 =>
      let _ ← read
      let commandName ← readString
      let _ ← read
      let transactionId := doubleToInt (← readDouble)
      let data ← readVariableData header.packetLength ((← get).bytes.length + 1)
        (sizeOfString commandName false + 9)
      pure (.command commandName transactionId data)
  | .dataAmf0 =>
      let _ ← read
      let type ← readString
      let data ← readVariableData header.packetLength ((← get).bytes.length + 1)
        (sizeOfString type false)
      pure (.data type data)
  | .dataAmf3 | .sharedObjectAmf3 | .commandAmf3 | .sharedObjectAmf0
  | .aggregateMessage =>
      throw (.io ("No packet body implementation for message type: " ++ header.messageType.name))

/-! ## Writing content packets -/

/-- `ContentData`: an audio or video packet that is to be sent.  The body is
the first `size` bytes of the array `data`, which may be longer. -/
structure ContentData where
  header : RtmpHeader
  data : List UInt8
  size : Nat

/-- The bytes that are sent. -/
def ContentData.body (packet : ContentData) : List UInt8 := packet.data.take packet.size

/-- The header after `setPacketLength` and the first `writeTo`. -/
def ContentData.sentHeader (packet : ContentData) : RtmpHeader :=
  ({ packet.header with packetLength := packet.size } : RtmpHeader).stamp .type0Full 0 0

/-- The loop of `RtmpPacket.writeTo`.  With a chunk size of at least one the
length bounds the turns. -/
def writeLoop (header : RtmpHeader) (chunkSize : Nat) (body : List UInt8) :
    (turns pos length : Nat) → List UInt8
  | 0, pos, length => (body.drop pos).take length
  | turns + 1, pos, length =>
      if length > chunkSize then
        (body.drop pos).take chunkSize ++ header.writeTo .type3RelativeSingleByte ++
          writeLoop header chunkSize body turns (pos + chunkSize) (length - chunkSize)
      else (body.drop pos).take length

/-- `RtmpPacket.writeTo` of a content packet. -/
def ContentData.writeTo (chunkSize : Nat) (packet : ContentData) : List UInt8 :=
  packet.sentHeader.writeTo .type0Full ++
    writeLoop packet.sentHeader chunkSize packet.data packet.size 0 packet.size

/-! ## The chunks of a packet -/

/-- A chunk: the header that starts it, and the part of the body from here
on. -/
structure Chunk where
  header : RtmpHeader
  chunkType : ChunkType
  rest : List UInt8
  deriving DecidableEq

/-- The bytes of a chunk: its header and as much of the body as fits. -/
def Chunk.bytes (chunkSize : Nat) (chunk : Chunk) : List UInt8 :=
  chunk.header.writeTo chunk.chunkType ++ chunk.rest.take chunkSize

/-- The chunks from a header on. -/
def chunksFrom (header : RtmpHeader) (chunkSize : Nat) :
    (turns : Nat) → ChunkType → (rest : List UInt8) → List Chunk
  | 0, chunkType, rest => [{ header, chunkType, rest }]
  | turns + 1, chunkType, rest =>
      { header, chunkType, rest } ::
        if rest.length > chunkSize then
          chunksFrom header chunkSize turns .type3RelativeSingleByte (rest.drop chunkSize)
        else []

def ContentData.chunks (chunkSize : Nat) (packet : ContentData) : List Chunk :=
  chunksFrom packet.sentHeader chunkSize packet.size .type0Full packet.body

/-! ## The calls of `write`

`writeTo` calls `OutputStream.write` once for every byte of a header and once for
every piece of a body. -/

/-- A call of `OutputStream.write`, which remembers whether it is the first of a
chunk. -/
structure Write where
  bytes : List UInt8
  startsChunk : Bool
  deriving DecidableEq

/-- The calls of `RtmpHeader.writeTo`: one for every byte. -/
def RtmpHeader.writes (h : RtmpHeader) (chunkType : ChunkType) : List Write :=
  match h.writeTo chunkType with
  | [] => []
  | b :: bytes => ⟨[b], true⟩ :: bytes.map fun b => ⟨[b], false⟩

/-- The calls of the loop of `RtmpPacket.writeTo`. -/
def writesLoop (header : RtmpHeader) (chunkSize : Nat) (body : List UInt8) :
    (turns pos length : Nat) → List Write
  | 0, pos, length => [⟨(body.drop pos).take length, false⟩]
  | turns + 1, pos, length =>
      if length > chunkSize then
        ⟨(body.drop pos).take chunkSize, false⟩ ::
          (header.writes .type3RelativeSingleByte ++
            writesLoop header chunkSize body turns (pos + chunkSize) (length - chunkSize))
      else [⟨(body.drop pos).take length, false⟩]

/-- The calls of `RtmpPacket.writeTo`. -/
def ContentData.writes (chunkSize : Nat) (packet : ContentData) : List Write :=
  packet.sentHeader.writes .type0Full ++
    writesLoop packet.sentHeader chunkSize packet.data packet.size 0 packet.size

theorem RtmpHeader.flatMap_writes (h : RtmpHeader) (chunkType : ChunkType) :
    (h.writes chunkType).flatMap Write.bytes = h.writeTo chunkType := by
  obtain ⟨b, bytes, hbytes⟩ : ∃ b bytes, h.writeTo chunkType = b :: bytes := ⟨_, _, rfl⟩
  rw [RtmpHeader.writes, hbytes]
  simp [List.flatMap_map]

theorem flatMap_writesLoop (header : RtmpHeader) (chunkSize : Nat) (body : List UInt8)
    (turns : Nat) : ∀ pos length,
      (writesLoop header chunkSize body turns pos length).flatMap Write.bytes =
        writeLoop header chunkSize body turns pos length := by
  induction turns with
  | zero =>
    intro pos length
    exact List.append_nil _
  | succ turns ih =>
    intro pos length
    rw [writesLoop, writeLoop]
    by_cases hmore : length > chunkSize
    · rw [if_pos hmore, if_pos hmore, List.flatMap_cons, List.flatMap_append,
        header.flatMap_writes, ih, List.append_assoc]
    · rw [if_neg hmore, if_neg hmore]
      exact List.append_nil _

theorem ContentData.flatMap_writes (chunkSize : Nat) (packet : ContentData) :
    (packet.writes chunkSize).flatMap Write.bytes = packet.writeTo chunkSize := by
  rw [ContentData.writes, ContentData.writeTo, List.flatMap_append, RtmpHeader.flatMap_writes,
    flatMap_writesLoop]

/-- The calls that write one chunk. -/
def Chunk.writes (chunkSize : Nat) (chunk : Chunk) : List Write :=
  chunk.header.writes chunk.chunkType ++ [⟨chunk.rest.take chunkSize, false⟩]

theorem Chunk.flatMap_writes (chunkSize : Nat) (chunk : Chunk) :
    (chunk.writes chunkSize).flatMap Write.bytes = chunk.bytes chunkSize := by
  rw [Chunk.writes, List.flatMap_append, RtmpHeader.flatMap_writes, List.flatMap_singleton]
  rfl

theorem writesLoop_eq_chunks (header : RtmpHeader) {chunkSize : Nat} (hpos : 0 < chunkSize)
    (body : List UInt8) (turns : Nat) :
    ∀ (chunkType : ChunkType) (pos length : Nat), length ≤ turns → pos + length ≤ body.length →
      header.writes chunkType ++ writesLoop header chunkSize body turns pos length =
        (chunksFrom header chunkSize turns chunkType ((body.drop pos).take length)).flatMap
          (Chunk.writes chunkSize) := by
  induction turns with
  | zero =>
    intro chunkType pos length hle _
    have h0 : length = 0 := by omega
    subst h0
    simp [writesLoop, chunksFrom, Chunk.writes]
  | succ turns ih =>
    intro chunkType pos length hle hbody
    have hlen : ((body.drop pos).take length).length = length := by
      rw [List.length_take, List.length_drop]
      omega
    rw [writesLoop, chunksFrom, hlen, List.flatMap_cons, Chunk.writes, List.take_take]
    by_cases hmore : length > chunkSize
    · have hnext := ih .type3RelativeSingleByte (pos + chunkSize) (length - chunkSize)
        (by omega) (by omega)
      have hmin : min chunkSize length = chunkSize := by omega
      rw [if_pos hmore, if_pos hmore, hmin, List.drop_take, List.drop_drop, ← hnext]
      simp only [List.append_assoc, List.cons_append, List.nil_append]
    · have hmin : min chunkSize length = length := by omega
      rw [if_neg hmore, if_neg hmore, hmin, List.flatMap_nil, List.append_nil]

theorem ContentData.writes_eq_chunks {chunkSize : Nat} (hpos : 0 < chunkSize)
    {packet : ContentData} (h : packet.size ≤ packet.data.length) :
    packet.writes chunkSize = (packet.chunks chunkSize).flatMap (Chunk.writes chunkSize) := by
  have hloop := writesLoop_eq_chunks packet.sentHeader hpos packet.data packet.size .type0Full 0
    packet.size (by omega) (by omega)
  rw [List.drop_zero] at hloop
  exact hloop

theorem ContentData.writeTo_eq_chunks {chunkSize : Nat} (hpos : 0 < chunkSize)
    {packet : ContentData} (h : packet.size ≤ packet.data.length) :
    packet.writeTo chunkSize = (packet.chunks chunkSize).flatMap (Chunk.bytes chunkSize) := by
  rw [← ContentData.flatMap_writes, ContentData.writes_eq_chunks hpos h, List.flatMap_assoc]
  exact List.flatMap_congr fun chunk _ => chunk.flatMap_writes chunkSize

end MediasoupDemo.Rtmp
