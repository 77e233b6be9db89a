import MediasoupDemo.Runtime.InputStream

/-!
# RTMP chunk headers

Every chunk starts with a basic header byte: two bits of `ChunkType` and six
bits of chunk stream id.  A full header (type 0) carries the timestamp, the
length and the type of the message, and its stream id; the other types take
what they leave out from the previous header on the same chunk stream.

`readHeader` is `RtmpHeader.readHeaderImpl` and `RtmpHeader.writeTo` its
counterpart.  The last section reads back what is written for the two types
that `RtmpPacket.writeTo` uses, type 0 for the first chunk of a message and
type 3 for the others.
-/

namespace MediasoupDemo.Rtmp

open ByteCodec MediasoupDemo.Runtime InputStream

/-- `RtmpHeader.MessageType`. -/
inductive MessageType where
  | setChunkSize
  | abort
  | acknowledgement
  | userControlMessage
  | windowAcknowledgementSize
  | setPeerBandwidth
  | audio
  | video
  | dataAmf3
  | sharedObjectAmf3
  | commandAmf3
  | dataAmf0
  | commandAmf0
  | sharedObjectAmf0
  | aggregateMessage
  deriving DecidableEq

namespace MessageType

def getValue : MessageType → UInt8
  | setChunkSize => 0x01
  | abort => 0x02
  | acknowledgement => 0x03
  | userControlMessage => 0x04
  | windowAcknowledgementSize => 0x05
  | setPeerBandwidth => 0x06
  | audio => 0x08
  | video => 0x09
  | dataAmf3 => 0x0f
  | sharedObjectAmf3 => 0x10
  | commandAmf3 => 0x11
  | dataAmf0 => 0x12
  | commandAmf0 => 0x14
  | sharedObjectAmf0 => 0x13
  | aggregateMessage => 0x16

def name : MessageType → String
  | setChunkSize => "SET_CHUNK_SIZE"
  | abort => "ABORT"
  | acknowledgement => "ACKNOWLEDGEMENT"
  | userControlMessage => "USER_CONTROL_MESSAGE"
  | windowAcknowledgementSize => "WINDOW_ACKNOWLEDGEMENT_SIZE"
  | setPeerBandwidth => "SET_PEER_BANDWIDTH"
  | audio => "AUDIO"
  | video => "VIDEO"
  | dataAmf3 => "DATA_AMF3"
  | sharedObjectAmf3 => "SHARED_OBJECT_AMF3"
  | commandAmf3 => "COMMAND_AMF3"
  | dataAmf0 => "DATA_AMF0"
  | commandAmf0 => "COMMAND_AMF0"
  | sharedObjectAmf0 => "SHARED_OBJECT_AMF0"
  | aggregateMessage => "AGGREGATE_MESSAGE"

def values : List MessageType :=
  [setChunkSize, abort, acknowledgement, userControlMessage, windowAcknowledgementSize,
    setPeerBandwidth, audio, video, dataAmf3, sharedObjectAmf3, commandAmf3, dataAmf0,
    commandAmf0, sharedObjectAmf0, aggregateMessage]

end MessageType

def toHexString (b : UInt8) : String :=
  let hexes := "0123456789ABCDEF".toList
  String.ofList [hexes.getD (b.toNat / 16) '0', hexes.getD (b.toNat % 16) '0']

def MessageType.valueOf (messageTypeId : UInt8) : Except JavaException MessageType :=
  match values.find? (fun t => t.getValue == messageTypeId) with
  | some messageType => pure messageType
  | none => throw (.illegalArgument ("Unknown message type byte: " ++ toHexString messageTypeId))

theorem MessageType.valueOf_getValue (messageType : MessageType) :
    MessageType.valueOf messageType.getValue = .ok messageType := by
  cases messageType <;> rfl

/-- `RtmpHeader.ChunkType`. -/
inductive ChunkType where
  | type0Full
  | type1RelativeLarge
  | type2RelativeTimestampOnly
  | type3RelativeSingleByte
  deriving DecidableEq

namespace ChunkType

def getValue : ChunkType → UInt8
  | type0Full => 0x00
  | type1RelativeLarge => 0x01
  | type2RelativeTimestampOnly => 0x02
  | type3RelativeSingleByte => 0x03

/-- `valueOf` of the two top bits of a byte. -/
def ofBasicHeader (b : UInt8) : ChunkType :=
  if b >>> 6 = 0x00 then type0Full
  else if b >>> 6 = 0x01 then type1RelativeLarge
  else if b >>> 6 = 0x02 then type2RelativeTimestampOnly
  else type3RelativeSingleByte

end ChunkType

structure RtmpHeader where
  chunkType : ChunkType
  chunkStreamId : Nat
  absoluteTimestamp : Int := 0
  timestampDelta : Int := -1
  packetLength : Nat := 0
  messageType : MessageType
  messageStreamId : Int := 0
  extendedTimestamp : Int := 0
  deriving DecidableEq

/-! ## Reading a header -/

/-- The extended timestamp behind a full 24-bit field. -/
def readExtendedTimestamp (timestamp : Int) : Method InputStream Int :=
  if timestamp ≥ 0xffffff then readUnsignedInt32 else pure 0

/-- A header takes its fields from the previous one, which may be missing. -/
def previousHeader (prevHeader : Option RtmpHeader) : Method InputStream RtmpHeader :=
  match prevHeader with
  | some prevHeader => pure prevHeader
  | none => throw .nullPointer

/-- The type 0 branch of `readHeaderImpl`. -/
def readFullHeader (chunkStreamId : Nat) : Method InputStream RtmpHeader := do
  let absoluteTimestamp ← readUnsignedInt24
  let packetLength ← readUnsignedInt24
  let messageType ← MonadExcept.ofExcept (MessageType.valueOf (← readByte))
  let messageStreamId := int (leNat (← readBytesUntilFull 4))
  let extendedTimestamp ← readExtendedTimestamp absoluteTimestamp
  pure
    { chunkType := .type0Full, chunkStreamId
      absoluteTimestamp := if extendedTimestamp ≠ 0 then extendedTimestamp else absoluteTimestamp
      timestampDelta := 0, packetLength := packetLength.toNat, messageType, messageStreamId
      extendedTimestamp }

/-- The type 1 branch of `readHeaderImpl`.  It is the only relative type that
checks for a previous header. -/
def readLargeHeader (chunkStreamId : Nat) (prevHeader : Option RtmpHeader) :
    Method InputStream RtmpHeader := do
  let timestampDelta ← readUnsignedInt24
  let packetLength ← readUnsignedInt24
  let messageType ← MonadExcept.ofExcept (MessageType.valueOf (← readByte))
  let extendedTimestamp ← readExtendedTimestamp timestampDelta
  let messageStreamId := (prevHeader.map RtmpHeader.messageStreamId).getD 0
  let relative := int ((prevHeader.map RtmpHeader.absoluteTimestamp).getD 0 + timestampDelta)
  pure
    { chunkType := .type1RelativeLarge, chunkStreamId
      absoluteTimestamp := if extendedTimestamp ≠ 0 then extendedTimestamp else relative
      timestampDelta, packetLength := packetLength.toNat, messageType, messageStreamId
      extendedTimestamp }

/-- The type 2 branch of `readHeaderImpl`. -/
def readTimestampHeader (chunkStreamId : Nat) (prevHeader : Option RtmpHeader) :
    Method InputStream RtmpHeader := do
  let timestampDelta ← readUnsignedInt24
  let extendedTimestamp ← readExtendedTimestamp timestampDelta
  let prevHeader ← previousHeader prevHeader
  let relative := int (prevHeader.absoluteTimestamp + timestampDelta)
  pure
    { chunkType := .type2RelativeTimestampOnly, chunkStreamId
      absoluteTimestamp := if extendedTimestamp ≠ 0 then extendedTimestamp else relative
      timestampDelta, packetLength := prevHeader.packetLength
      messageType := prevHeader.messageType, messageStreamId := prevHeader.messageStreamId
      extendedTimestamp }

/-- The type 3 branch of `readHeaderImpl`. -/
def readSingleByteHeader (chunkStreamId : Nat) (prevHeader : Option RtmpHeader) :
    Method InputStream RtmpHeader := do
  let prevHeader ← previousHeader prevHeader
  let extendedTimestamp ← readExtendedTimestamp prevHeader.timestampDelta
  let timestampDelta := if extendedTimestamp ≠ 0 then 0xffffff else prevHeader.timestampDelta
  let relative := int (prevHeader.absoluteTimestamp + timestampDelta)
  pure
    { chunkType := .type3RelativeSingleByte, chunkStreamId
      absoluteTimestamp := if extendedTimestamp ≠ 0 then extendedTimestamp else relative
      timestampDelta, packetLength := prevHeader.packetLength
      messageType := prevHeader.messageType, messageStreamId := prevHeader.messageStreamId
      extendedTimestamp }

/-- `RtmpHeader.readHeader`, with the previous header of each chunk stream. -/
def readHeader (prevHeaderRx : Nat → Option RtmpHeader) : Method InputStream RtmpHeader := do
  match ← read with
  | none => throw (.eof "Unexpected EOF while reading RTMP packet basic header")
  | some basicHeaderByte =>
      let chunkStreamId := (basicHeaderByte &&& 0x3f).toNat
      match ChunkType.ofBasicHeader basicHeaderByte with
      | .type0Full => readFullHeader chunkStreamId
      | .type1RelativeLarge => readLargeHeader chunkStreamId (prevHeaderRx chunkStreamId)
      | .type2RelativeTimestampOnly =>
          readTimestampHeader chunkStreamId (prevHeaderRx chunkStreamId)
      | .type3RelativeSingleByte =>
          readSingleByteHeader chunkStreamId (prevHeaderRx chunkStreamId)

/-! ## Writing a header -/

def writeUnsignedInt24 (value : Int) : List UInt8 := beBytes 3 (value % 2 ^ 32).toNat

def writeUnsignedInt32 (value : Int) : List UInt8 := beBytes 4 (value % 2 ^ 32).toNat

def writeUnsignedInt32LittleEndian (value : Int) : List UInt8 :=
  leBytes 4 (value % 2 ^ 32).toNat

/-- The basic header byte. -/
def basicHeader (chunkType : ChunkType) (chunkStreamId : Nat) : UInt8 :=
  chunkType.getValue <<< 6 ||| UInt8.ofNat chunkStreamId

namespace RtmpHeader

/-- The timestamp field: a timestamp that does not fit is announced by all
ones. -/
def timestampField (absoluteTimestamp timestamp : Int) : List UInt8 :=
  writeUnsignedInt24 (if absoluteTimestamp ≥ 0xffffff then 0xffffff else timestamp)

/-- The timestamp that follows when it does not fit the field. -/
def extendedField (absoluteTimestamp : Int) : List UInt8 :=
  if absoluteTimestamp ≥ 0xffffff then writeUnsignedInt32 absoluteTimestamp else []

/-- The header with the timestamp that `writeTo` gives it.  The relative types
add the time since the last write on the chunk stream to the timestamp of the
previous header. -/
def stamp (h : RtmpHeader) (chunkType : ChunkType) (prevTimestampTx delta : Int) : RtmpHeader :=
  match chunkType with
  | .type0Full =>
      { h with
        extendedTimestamp :=
          if h.absoluteTimestamp ≥ 0xffffff then h.absoluteTimestamp else h.extendedTimestamp }
  | .type1RelativeLarge | .type2RelativeTimestampOnly =>
      let absoluteTimestamp := int (prevTimestampTx + delta)
      { h with
        timestampDelta := delta, absoluteTimestamp
        extendedTimestamp :=
          if absoluteTimestamp ≥ 0xffffff then absoluteTimestamp else h.extendedTimestamp }
  | .type3RelativeSingleByte => h

/-- `RtmpHeader.writeTo` on a header that has been stamped. -/
def writeTo (h : RtmpHeader) (chunkType : ChunkType) : List UInt8 :=
  basicHeader chunkType h.chunkStreamId ::
    match chunkType with
    | .type0Full =>
        timestampField h.absoluteTimestamp h.absoluteTimestamp ++
          writeUnsignedInt24 h.packetLength ++ [h.messageType.getValue] ++
          writeUnsignedInt32LittleEndian h.messageStreamId ++ extendedField h.absoluteTimestamp
    | .type1RelativeLarge =>
        timestampField h.absoluteTimestamp h.timestampDelta ++
          writeUnsignedInt24 h.packetLength ++ [h.messageType.getValue] ++
          extendedField h.absoluteTimestamp
    | .type2RelativeTimestampOnly =>
        timestampField h.absoluteTimestamp h.timestampDelta ++ extendedField h.absoluteTimestamp
    | .type3RelativeSingleByte =>
        if h.extendedTimestamp > 0 then writeUnsignedInt32 h.extendedTimestamp else []

end RtmpHeader

/-! ## Reading a written header back -/

open Method

variable {chunkStreamId : Nat} {h : RtmpHeader} {value : Int}

theorem basicHeader_and (chunkType : ChunkType) (h : chunkStreamId < 64) :
    (basicHeader chunkType chunkStreamId &&& 0x3f).toNat = chunkStreamId := by
  cases chunkType <;> (revert chunkStreamId; decide)

theorem ofBasicHeader_basicHeader (chunkType : ChunkType) (h : chunkStreamId < 64) :
    ChunkType.ofBasicHeader (basicHeader chunkType chunkStreamId) = chunkType := by
  cases chunkType <;> (revert chunkStreamId; decide)

/-- The basic header byte selects the branch that reads the rest. -/
theorem run_readHeader_basicHeader (prevHeaderRx : Nat → Option RtmpHeader) (chunkType : ChunkType)
    (h : chunkStreamId < 64) (rest : List UInt8) (segments : Segments) :
    (readHeader prevHeaderRx).run ⟨basicHeader chunkType chunkStreamId :: rest, segments⟩ =
      (match chunkType with
        | .type0Full => readFullHeader chunkStreamId
        | .type1RelativeLarge => readLargeHeader chunkStreamId (prevHeaderRx chunkStreamId)
        | .type2RelativeTimestampOnly =>
            readTimestampHeader chunkStreamId (prevHeaderRx chunkStreamId)
        | .type3RelativeSingleByte =>
            readSingleByteHeader chunkStreamId (prevHeaderRx chunkStreamId)).run
        ⟨rest, segments⟩ := by
  rw [readHeader, run_bind_ok (run_read _ rest segments)]
  simp only [basicHeader_and chunkType h, ofBasicHeader_basicHeader chunkType h]

/-- A number that fits is read back from its 24-bit field. -/
theorem run_readUnsignedInt24_write (h0 : 0 ≤ value) (h1 : value < 2 ^ 24) (rest : List UInt8)
    (segments : Segments) :
    readUnsignedInt24.run ⟨writeUnsignedInt24 value ++ rest, segments⟩ =
      .ok value ⟨rest, segments⟩ := by
  have hmod : value % 2 ^ 32 = value := by omega
  have hback : beNat (writeUnsignedInt24 value) = value.toNat := by
    rw [writeUnsignedInt24, hmod]
    apply beNat_beBytes_of_lt
    omega
  have hlen : (writeUnsignedInt24 value).length = 3 := beBytes_length 3 _
  rw [run_readUnsignedInt24 hlen, hback]
  have hcast : (value.toNat : Int) = value := by omega
  rw [hcast]

theorem run_messageStreamId_write (h : InInt value) (rest : List UInt8) (segments : Segments) :
    ∃ segments' front, segments'.Later segments ∧
      (readBytesUntilFull 4).run ⟨writeUnsignedInt32LittleEndian value ++ rest, segments⟩ =
        .ok front ⟨rest, segments'⟩ ∧ int (leNat front) = value := by
  have hlen : (writeUnsignedInt32LittleEndian value).length = 4 := leBytes_length 4 _
  have hne : writeUnsignedInt32LittleEndian value ≠ [] := by
    apply List.ne_nil_of_length_pos
    rw [hlen]
    decide
  obtain ⟨segments', hlater, hrun⟩ := run_readBytesUntilFull hne rest segments
  rw [hlen] at hrun
  refine ⟨segments', _, hlater, hrun, ?_⟩
  have hback : leNat (writeUnsignedInt32LittleEndian value) = (value % 2 ^ 32).toNat := by
    apply leNat_leBytes_of_lt
    omega
  have hcast : ((value % 2 ^ 32).toNat : Int) = value % 2 ^ 32 := by omega
  rw [hback, hcast, int_emod h]

/-- The header that the decoder makes of a written one. -/
def RtmpHeader.received (h : RtmpHeader) (chunkType : ChunkType) : RtmpHeader :=
  { h with
    chunkType, timestampDelta := 0
    extendedTimestamp := if h.absoluteTimestamp ≥ 0xffffff then h.absoluteTimestamp else 0 }

/-- Any `int` is read back from its field. -/
theorem run_readUnsignedInt32_write (h : InInt value) (rest : List UInt8) (segments : Segments) :
    readUnsignedInt32.run ⟨writeUnsignedInt32 value ++ rest, segments⟩ =
      .ok value ⟨rest, segments⟩ := by
  have hback : beNat (writeUnsignedInt32 value) = (value % 2 ^ 32).toNat := by
    apply beNat_beBytes_of_lt
    omega
  have hlen : (writeUnsignedInt32 value).length = 4 := beBytes_length 4 _
  have hread := run_readBytes (writeUnsignedInt32 value) rest segments
  have hcast : ((value % 2 ^ 32).toNat : Int) = value % 2 ^ 32 := by omega
  rw [hlen] at hread
  rw [readUnsignedInt32, run_bind_ok hread, hback, hcast, int_emod h]
  rfl

/-- The extended timestamp follows when the field is full. -/
theorem run_readExtendedTimestamp_write {timestamp : Int} (h0 : 0 ≤ timestamp)
    (h1 : timestamp < 2 ^ 31) (rest : List UInt8) (segments : Segments) :
    (readExtendedTimestamp (if timestamp ≥ 0xffffff then 0xffffff else timestamp)).run
        ⟨RtmpHeader.extendedField timestamp ++ rest, segments⟩ =
      .ok (if timestamp ≥ 0xffffff then timestamp else 0) ⟨rest, segments⟩ := by
  unfold readExtendedTimestamp RtmpHeader.extendedField
  by_cases hlarge : timestamp ≥ 0xffffff
  · rw [if_pos hlarge, if_pos hlarge, if_pos (by decide), if_pos hlarge]
    exact run_readUnsignedInt32_write ⟨by omega, h1⟩ rest segments
  · rw [if_neg hlarge, if_neg hlarge, if_neg hlarge, if_neg hlarge]
    rfl

theorem run_readHeader_full (hid : h.chunkStreamId < 64) (h0 : 0 ≤ h.absoluteTimestamp)
    (h1 : h.absoluteTimestamp < 2 ^ 31) (hlen : h.packetLength < 2 ^ 24)
    (hstream : InInt h.messageStreamId) (prevHeaderRx : Nat → Option RtmpHeader) (rest : List UInt8)
    (segments : Segments) :
    ∃ segments', segments'.Later segments ∧
      (readHeader prevHeaderRx).run ⟨h.writeTo .type0Full ++ rest, segments⟩ =
        .ok (h.received .type0Full) ⟨rest, segments'⟩ := by
  have hbytes : h.writeTo .type0Full ++ rest =
      basicHeader .type0Full h.chunkStreamId ::
        (RtmpHeader.timestampField h.absoluteTimestamp h.absoluteTimestamp ++
          (writeUnsignedInt24 h.packetLength ++ (h.messageType.getValue ::
            (writeUnsignedInt32LittleEndian h.messageStreamId ++
              (RtmpHeader.extendedField h.absoluteTimestamp ++ rest))))) := by
    simp [RtmpHeader.writeTo]
  obtain ⟨segments', front, hlater, hread, hfront⟩ := run_messageStreamId_write hstream
    (RtmpHeader.extendedField h.absoluteTimestamp ++ rest) segments
  have hfield : readUnsignedInt24.run
      ⟨RtmpHeader.timestampField h.absoluteTimestamp h.absoluteTimestamp ++
        (writeUnsignedInt24 h.packetLength ++ (h.messageType.getValue ::
          (writeUnsignedInt32LittleEndian h.messageStreamId ++
            (RtmpHeader.extendedField h.absoluteTimestamp ++ rest)))), segments⟩ =
      .ok (if h.absoluteTimestamp ≥ 0xffffff then 0xffffff else h.absoluteTimestamp)
        ⟨writeUnsignedInt24 h.packetLength ++ (h.messageType.getValue ::
          (writeUnsignedInt32LittleEndian h.messageStreamId ++
            (RtmpHeader.extendedField h.absoluteTimestamp ++ rest))), segments⟩ := by
    apply run_readUnsignedInt24_write
    · split <;> omega
    · split <;> omega
  refine ⟨segments', hlater, ?_⟩
  rw [hbytes, run_readHeader_basicHeader prevHeaderRx .type0Full hid]
  show (readFullHeader h.chunkStreamId).run _ = _
  rw [readFullHeader, run_bind_ok hfield,
    run_bind_ok (run_readUnsignedInt24_write (by omega) (by omega) _ _),
    run_bind_ok (run_readByte _ _ _), run_ofExcept_bind (MessageType.valueOf_getValue _),
    run_bind_ok hread, run_bind_ok (run_readExtendedTimestamp_write h0 h1 rest segments'), hfront,
    run_pure]
  by_cases hlarge : h.absoluteTimestamp ≥ 0xffffff
  · have hne : h.absoluteTimestamp ≠ 0 := by omega
    simp [RtmpHeader.received, hlarge, hne]
  · simp [RtmpHeader.received, hlarge]

theorem writeUnsignedInt32_int (value : Int) :
    writeUnsignedInt32 (int value) = writeUnsignedInt32 value := by
  have hmod : int value % 2 ^ 32 = value % 2 ^ 32 := Int.bmod_emod
  rw [writeUnsignedInt32, writeUnsignedInt32, hmod]

namespace RtmpHeader

/-- The bytes in front of a further chunk of a message.  An extended timestamp delta is
repeated. -/
def single (h : RtmpHeader) : List UInt8 :=
  basicHeader .type3RelativeSingleByte h.chunkStreamId ::
    if h.timestampDelta ≥ 0xffffff then writeUnsignedInt32 h.extendedTimestamp else []

/-- The extended timestamp that the decoder reads there. -/
def repeatedTimestamp (h : RtmpHeader) : Int :=
  if h.timestampDelta ≥ 0xffffff then int h.extendedTimestamp else 0

/-- The header that the decoder makes of these bytes and the previous header. -/
def next (h : RtmpHeader) : RtmpHeader :=
  { h with
    chunkType := .type3RelativeSingleByte
    timestampDelta := if h.repeatedTimestamp ≠ 0 then 0xffffff else h.timestampDelta
    absoluteTimestamp :=
      if h.repeatedTimestamp ≠ 0 then h.repeatedTimestamp
      else int (h.absoluteTimestamp +
        if h.repeatedTimestamp ≠ 0 then 0xffffff else h.timestampDelta)
    extendedTimestamp := h.repeatedTimestamp }

theorem repeatedTimestamp_of_lt (hdelta : h.timestampDelta < 0xffffff) :
    h.repeatedTimestamp = 0 := if_neg (by omega)

theorem single_of_lt (hdelta : h.timestampDelta < 0xffffff) :
    h.single = [basicHeader .type3RelativeSingleByte h.chunkStreamId] := by
  rw [single, if_neg (by omega)]

theorem run_readExtendedTimestamp_single (h : RtmpHeader) (rest : List UInt8)
    (segments : Segments) :
    (readExtendedTimestamp h.timestampDelta).run
        ⟨(if h.timestampDelta ≥ 0xffffff then writeUnsignedInt32 h.extendedTimestamp else []) ++
          rest, segments⟩ =
      .ok h.repeatedTimestamp ⟨rest, segments⟩ := by
  rw [readExtendedTimestamp, repeatedTimestamp]
  by_cases hdelta : h.timestampDelta ≥ 0xffffff
  · rw [if_pos hdelta, if_pos hdelta, if_pos hdelta, ← writeUnsignedInt32_int]
    exact run_readUnsignedInt32_write (inInt_int _) rest segments
  · rw [if_neg hdelta, if_neg hdelta, if_neg hdelta]
    rfl

end RtmpHeader

theorem run_readHeader_next (hid : h.chunkStreamId < 64)
    {prevHeaderRx : Nat → Option RtmpHeader} (hprev : prevHeaderRx h.chunkStreamId = some h)
    (rest : List UInt8) (segments : Segments) :
    (readHeader prevHeaderRx).run ⟨h.single ++ rest, segments⟩ = .ok h.next ⟨rest, segments⟩ := by
  rw [RtmpHeader.single, List.cons_append,
    run_readHeader_basicHeader prevHeaderRx .type3RelativeSingleByte hid]
  show (readSingleByteHeader _ _).run _ = _
  rw [hprev, readSingleByteHeader, previousHeader, run_bind_ok (run_pure _ _),
    run_bind_ok (h.run_readExtendedTimestamp_single rest segments), run_pure]
  rfl

/-- The header that the decoder makes of a single byte and the previous header. -/
def RtmpHeader.repeated (h : RtmpHeader) : RtmpHeader :=
  { h.received .type3RelativeSingleByte with extendedTimestamp := 0 }

/-- A single byte header repeats the previous header of its chunk stream.  That
one has no timestamp delta, so no extended timestamp is read. -/
theorem run_readHeader_repeated (hid : h.chunkStreamId < 64) (hstamp : InInt h.absoluteTimestamp)
    {prevHeaderRx : Nat → Option RtmpHeader} {chunkType : ChunkType}
    (hprev : prevHeaderRx h.chunkStreamId = some (h.received chunkType)) (rest : List UInt8)
    (segments : Segments) :
    (readHeader prevHeaderRx).run
        ⟨basicHeader .type3RelativeSingleByte h.chunkStreamId :: rest, segments⟩ =
      .ok h.repeated ⟨rest, segments⟩ := by
  have hrun := run_readHeader_next (h := h.received chunkType) hid hprev rest segments
  have hnext : (h.received chunkType).next = h.repeated := by
    simp [RtmpHeader.next, RtmpHeader.repeatedTimestamp, RtmpHeader.repeated, RtmpHeader.received,
      int_eq_self hstamp]
  rw [hnext] at hrun
  exact hrun

/-- A single byte header is read back if its timestamp fits the field. -/
theorem run_readHeader_single (hid : h.chunkStreamId < 64) (hstamp : InInt h.absoluteTimestamp)
    (hsmall : h.absoluteTimestamp < 0xffffff) (hext : h.extendedTimestamp ≤ 0)
    {prevHeaderRx : Nat → Option RtmpHeader} {chunkType : ChunkType}
    (hprev : prevHeaderRx h.chunkStreamId = some (h.received chunkType)) (rest : List UInt8)
    (segments : Segments) :
    (readHeader prevHeaderRx).run
        ⟨h.writeTo .type3RelativeSingleByte ++ rest, segments⟩ =
      .ok (h.received .type3RelativeSingleByte) ⟨rest, segments⟩ := by
  have hbytes : h.writeTo .type3RelativeSingleByte ++ rest =
      basicHeader .type3RelativeSingleByte h.chunkStreamId :: rest := by
    have hnone : ¬ h.extendedTimestamp > 0 := by omega
    simp [RtmpHeader.writeTo, hnone]
  have hsame : h.repeated = h.received .type3RelativeSingleByte := by
    have hlarge : ¬ h.absoluteTimestamp ≥ 0xffffff := by omega
    rw [RtmpHeader.repeated, RtmpHeader.received, if_neg hlarge]
  rw [hbytes, run_readHeader_repeated hid hstamp hprev, hsame]

end MediasoupDemo.Rtmp
