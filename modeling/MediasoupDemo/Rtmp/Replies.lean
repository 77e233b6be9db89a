import MediasoupDemo.Rtmp.AmfTree
import MediasoupDemo.Rtmp.ExtendedTimestamp
import MediasoupDemo.Rtmp.Messages

/-!
# The packets of the two sending threads

While a stream is published, two threads send packets through
`RtmpConnection.sendRtmpPacket`.  The worker of the muxer sends audio and video
packets.  The thread that receives from the server answers it: a pong to a
ping, the window size after a new bandwidth, the `publish` command after
`createStream`, and the metadata after `NetStream.Publish.Start`.

`Outgoing` is such a packet.  `Outgoing.packet` is what `RtmpPacket.writeTo`
uses of it, the header, the array and the length; and `Outgoing.sendable` says
under which conditions the decoder gets it back.
-/

namespace MediasoupDemo.Rtmp

open MediasoupDemo.Runtime InputStream Method

/-! ## Bodies -/

/-- `VariableBodyRtmpPacket.writeVariableData`.  Without data a `null` is
written. -/
def writeVariableData (data : List AmfTree) : List UInt8 :=
  if data.isEmpty then AmfTree.null.writeTo else data.flatMap AmfTree.writeTo

/-- `Command.writeBody`. -/
def writeCommand (commandName : String) (transactionId : Int) (data : List AmfTree) :
    List UInt8 :=
  writeString commandName false ++ ((AmfTree.number (doubleOfInt transactionId)).writeTo ++
    writeVariableData data)

/-- `Data.writeBody`. -/
def writeData (type : String) (data : List AmfTree) : List UInt8 :=
  writeString type false ++ writeVariableData data

/-- What the receiving thread answers. -/
inductive Reply where
  | pong (eventData : Int)
  | windowAckSize (acknowledgementWindowSize : Int)
  | publish (currentStreamId : Int) (streamName publishType : String)
  | metaData (currentStreamId videoWidth videoHeight : Int)

/-- The data of the command that `fmlePublish` sends. -/
def publishData (streamName publishType : String) : List AmfTree :=
  [.null, .string streamName, .string publishType]

/-- The properties that `onMetaData` sends. -/
def metaDataProperties (videoWidth videoHeight : Int) : List (String × AmfTree) :=
  [("duration", .number (doubleOfInt 0)), ("width", .number (doubleOfInt videoWidth)),
    ("height", .number (doubleOfInt videoHeight)), ("videodatarate", .number (doubleOfInt 0)),
    ("framerate", .number (doubleOfInt 0)), ("audiodatarate", .number (doubleOfInt 0)),
    ("audiosamplerate", .number (doubleOfInt 44100)),
    ("audiosamplesize", .number (doubleOfInt 16)), ("stereo", .boolean true),
    ("filesize", .number (doubleOfInt 0))]

/-- The data of the message that `onMetaData` sends. -/
def metaDataItems (videoWidth videoHeight : Int) : List AmfTree :=
  [.string "onMetaData", .map (metaDataProperties videoWidth videoHeight)]

namespace Reply

/-- The packet as the receiver is to get it. -/
def body : Reply → PacketBody
  | pong eventData => .userControl (some .PONG_REPLY) [eventData]
  | windowAckSize acknowledgementWindowSize => .windowAckSize acknowledgementWindowSize
  | publish _ streamName publishType =>
      .command "publish" 0 ((publishData streamName publishType).map AmfTree.toData)
  | metaData _ videoWidth videoHeight =>
      .data "@setDataFrame" ((metaDataItems videoWidth videoHeight).map AmfTree.toData)

def writeBody : Reply → List UInt8
  | pong eventData => writeUserControl .PONG_REPLY [eventData]
  | windowAckSize acknowledgementWindowSize => writeUnsignedInt32 acknowledgementWindowSize
  | publish _ streamName publishType =>
      writeCommand "publish" 0 (publishData streamName publishType)
  | metaData _ videoWidth videoHeight =>
      writeData "@setDataFrame" (metaDataItems videoWidth videoHeight)

/-- The header: control messages on chunk stream 2, data over the connection on
3, commands over the stream on 5.  The chunk type of a header is not used when
it is written. -/
def header : Reply → RtmpHeader
  | pong _ => { chunkType := .type0Full, chunkStreamId := 2, messageType := .userControlMessage }
  | windowAckSize _ =>
      { chunkType := .type0Full, chunkStreamId := 2, messageType := .windowAcknowledgementSize }
  | publish currentStreamId _ _ =>
      { chunkType := .type0Full, chunkStreamId := 5, messageType := .commandAmf0
        messageStreamId := currentStreamId }
  | metaData currentStreamId _ _ =>
      { chunkType := .type0Full, chunkStreamId := 3, messageType := .dataAmf0
        messageStreamId := currentStreamId }

end Reply

/-! ## Packets -/

/-- The two threads. -/
inductive Sender where
  | worker
  | receiver
  deriving DecidableEq

/-- A packet that is handed to `sendRtmpPacket`: audio and video with the
timestamp of the frame, a reply with the time since the session began. -/
inductive Outgoing where
  | audio (currentStreamId : Int) (data : List UInt8) (size : Nat) (dts : Int)
  | video (currentStreamId : Int) (data : List UInt8) (size : Nat) (dts : Int)
  | reply (timestamp : Int) (answer : Reply)

namespace Outgoing

/-- The thread that sends the packet. -/
def sender : Outgoing → Sender
  | audio .. | video .. => .worker
  | reply .. => .receiver

/-- The header, the array and the length that `RtmpPacket.writeTo` uses. -/
def packet : Outgoing → ContentData
  | audio currentStreamId data size dts => mediaPacket .audio 7 dts currentStreamId data size
  | video currentStreamId data size dts => mediaPacket .video 6 dts currentStreamId data size
  | reply timestamp answer =>
      { header := { answer.header with absoluteTimestamp := timestamp }
        data := answer.writeBody, size := answer.writeBody.length }

/-- The body as the receiver is to get it. -/
def value : Outgoing → PacketBody
  | audio _ data size _ | video _ data size _ => .content (data.take size)
  | reply _ answer => answer.body

end Outgoing

/-- The packets on the wire. -/
def outgoingTraffic : Traffic Outgoing where
  header p := p.packet.sentHeader
  body p := p.packet.body
  value := Outgoing.value

/-- The chunk size that is sent with; `setTxChunkSize` is not called. -/
def txChunkSize : Nat := 128

/-! ## Bodies are read back -/

/-- A reply whose numbers fit an `int` and whose texts and numbers are written
without loss.  The publish type is the last value of its command, and an empty
string at the end of a stored body is not read. -/
def Reply.Lossless : Reply → Prop
  | .pong eventData => InInt eventData
  | .windowAckSize acknowledgementWindowSize => InInt acknowledgementWindowSize
  | .publish currentStreamId streamName publishType =>
      InInt currentStreamId ∧ Ascii streamName ∧ Ascii publishType ∧ publishType ≠ ""
  | .metaData currentStreamId videoWidth videoHeight =>
      InInt currentStreamId ∧ videoWidth.natAbs < 2 ^ 21 ∧ videoHeight.natAbs < 2 ^ 21

variable {header : RtmpHeader} {reply : Reply}

def Reply.message : Reply → WireMessage
  | .pong eventData => .userControl .PONG_REPLY [eventData]
  | .windowAckSize acknowledgementWindowSize => .windowAckSize acknowledgementWindowSize
  | .publish _ streamName publishType =>
      .command (asciiBytes "publish") (doubleOfInt 0)
        ((publishData streamName publishType).map AmfTree.wire)
  | .metaData _ videoWidth videoHeight =>
      .data (asciiBytes "@setDataFrame") ((metaDataItems videoWidth videoHeight).map AmfTree.wire)

theorem writeVariableData_eq {data : List AmfTree} (h : data ≠ []) :
    writeVariableData data = AmfWire.itemBytes (data.map AmfTree.wire) := by
  rw [AmfTree.itemBytes_wire, writeVariableData, if_neg (by simpa using h)]

theorem Reply.bytes_message (reply : Reply) : reply.message.bytes = reply.writeBody := by
  cases reply with
  | pong eventData => rfl
  | windowAckSize acknowledgementWindowSize => rfl
  | publish currentStreamId streamName publishType =>
    rw [writeBody, writeCommand, AmfTree.writeString_eq,
      writeVariableData_eq (by simp [publishData])]
    rfl
  | metaData currentStreamId videoWidth videoHeight =>
    rw [writeBody, writeData, AmfTree.writeString_eq,
      writeVariableData_eq (by simp [metaDataItems])]
    rfl

theorem map_fst_metaDataProperties (videoWidth videoHeight : Int) :
    (metaDataProperties videoWidth videoHeight).map Prod.fst =
      ["duration", "width", "height", "videodatarate", "framerate", "audiodatarate",
        "audiosamplerate", "audiosamplesize", "stereo", "filesize"] := rfl

/-- The metadata takes two chunks. -/
theorem length_metaData (currentStreamId videoWidth videoHeight : Int) :
    (Reply.metaData currentStreamId videoWidth videoHeight).writeBody.length = 238 := by
  show (writeString "@setDataFrame" false ++
    (writeString "onMetaData" false ++
      ((AmfTree.map (metaDataProperties videoWidth videoHeight)).writeTo ++ []))).length = 238
  simp only [metaDataProperties, AmfTree.writeTo, AmfTree.writeProperties, List.length_append,
    List.length_cons, length_writeString, length_writeUnsignedInt32, length_writeDouble]
  rfl

/-- The metadata of a picture with sides of at most 21 bits is written without
loss. -/
theorem lossless_metaDataItems {videoWidth videoHeight : Int} (hwidth : videoWidth.natAbs < 2 ^ 21)
    (hheight : videoHeight.natAbs < 2 ^ 21) :
    ∀ item ∈ metaDataItems videoWidth videoHeight, item.Lossless := by
  have hnumber : ∀ value : Int, value.natAbs < 2 ^ 21 →
      (AmfTree.number (doubleOfInt value)).Lossless := fun _ => widened_doubleOfInt
  have hproperties : AmfTree.LosslessProperties (metaDataProperties videoWidth videoHeight) :=
    ⟨by decide, hnumber 0 (by decide), by decide, hnumber _ hwidth, by decide, hnumber _ hheight,
      by decide, hnumber 0 (by decide), by decide, hnumber 0 (by decide), by decide,
      hnumber 0 (by decide), by decide, hnumber 44100 (by decide), by decide,
      hnumber 16 (by decide), by decide, trivial, by decide, hnumber 0 (by decide), trivial⟩
  intro item hitem
  simp only [metaDataItems, List.mem_cons, List.not_mem_nil, or_false] at hitem
  rcases hitem with rfl | rfl
  · show Ascii "onMetaData"
    decide
  · refine ⟨hproperties, ?_⟩
    rw [map_fst_metaDataProperties]
    decide

theorem lossless_publishData {streamName publishType : String} (hname : Ascii streamName)
    (htype : Ascii publishType) : ∀ item ∈ publishData streamName publishType, item.Lossless := by
  intro item hitem
  simp only [publishData, List.mem_cons, List.not_mem_nil, or_false] at hitem
  rcases hitem with rfl | rfl | rfl
  · trivial
  · exact hname
  · exact htype

theorem Reply.value_message (h : reply.Lossless) : reply.message.value = reply.body := by
  cases reply with
  | pong eventData => rfl
  | windowAckSize acknowledgementWindowSize => rfl
  | publish currentStreamId streamName publishType =>
    have hdata := AmfTree.itemData_wire (lossless_publishData h.2.1 h.2.2.1)
    rw [message, WireMessage.value, hdata, widened_doubleOfInt (by decide)]
    rfl
  | metaData currentStreamId videoWidth videoHeight =>
    rw [message, WireMessage.value, AmfTree.itemData_wire (lossless_metaDataItems h.2.1 h.2.2)]
    rfl

theorem Reply.wellFormed_message (h : reply.Lossless) : reply.message.WellFormed := by
  cases reply with
  | pong eventData => exact ⟨rfl, List.forall_mem_singleton.mpr h⟩
  | windowAckSize acknowledgementWindowSize => exact h
  | publish currentStreamId streamName publishType =>
    exact ⟨by decide, AmfTree.wellFormedItems_wire (lossless_publishData h.2.1 h.2.2.1)⟩
  | metaData currentStreamId videoWidth videoHeight =>
    exact ⟨by decide, AmfTree.wellFormedItems_wire (lossless_metaDataItems h.2.1 h.2.2)⟩

theorem Reply.endsEmpty_message (h : reply.Lossless) : reply.message.endsEmpty = false := by
  cases reply with
  | publish currentStreamId streamName publishType =>
    show (asciiBytes publishType).isEmpty = false
    rw [List.isEmpty_eq_false_iff]
    intro hnil
    apply h.2.2.2
    rw [← asciiString_asciiBytes h.2.2.1.1, hnil]
    rfl
  | pong | windowAckSize | metaData => rfl

theorem Reply.reads (h : reply.Lossless)
    (htype : header.messageType = reply.header.messageType) (hint : header.packetLength < 2 ^ 31)
    (hlength : reply.writeBody.length = header.packetLength) :
    Reads (txChunkSize < header.packetLength) (readBody header) reply.writeBody reply.body := by
  have hmarked : reply.message.marked = true → txChunkSize < header.packetLength := by
    intro hmarked
    cases reply with
    | metaData currentStreamId videoWidth videoHeight =>
      rw [← hlength, length_metaData]
      decide
    | pong | windowAckSize | publish => cases hmarked
  have hcomplete : reply.message.Complete := by
    cases reply <;> first | trivial | exact List.cons_ne_nil _ _
  have hread := readsIff_message (wellFormed_message h) hcomplete
    (htype.trans (by cases reply <;> rfl)) (by rw [bytes_message, hlength]) hint hmarked
  rw [bytes_message, value_message h] at hread
  exact hread.before.reads (endsEmpty_message h)

/-! ## Packets are read back -/

/-- A packet that the decoder gets back. -/
def Outgoing.Readable : Outgoing → Prop
  | .audio currentStreamId data size dts =>
      MediaFields .audio 7 dts currentStreamId size ∧ size ≤ data.length ∧
        (dts < 0xffffff ∨ size ≤ txChunkSize)
  | .video currentStreamId data size dts =>
      MediaFields .video 6 dts currentStreamId size ∧ size ≤ data.length ∧
        (dts < 0xffffff ∨ size ≤ txChunkSize)
  | .reply timestamp answer =>
      answer.Lossless ∧ 0 ≤ timestamp ∧ timestamp < 2 ^ 31 ∧
        (timestamp < 0xffffff ∨ answer.writeBody.length ≤ txChunkSize)

theorem Reply.length_writeBody_pos (reply : Reply) : 0 < reply.writeBody.length := by
  cases reply <;> exact Nat.succ_pos _

theorem Reply.length_writeBody_lt (h : reply.Lossless) :
    reply.writeBody.length < 2 ^ 24 := by
  cases reply with
  | pong eventData => exact show 6 < 2 ^ 24 by decide
  | windowAckSize size => exact show 4 < 2 ^ 24 by decide
  | publish currentStreamId streamName publishType =>
    have hstream := h.2.1.2
    have htype := h.2.2.1.2
    show (writeString "publish" false ++ ((AmfTree.number (doubleOfInt 0)).writeTo ++
      (AmfTree.null.writeTo ++ (writeString streamName false ++
        (writeString publishType false ++ []))))).length < 2 ^ 24
    simp only [AmfTree.writeTo, List.length_append, List.length_cons, length_writeString,
      length_writeDouble, sizeOfString, List.length_nil, Bool.false_eq_true, if_false]
    have hname : "publish".length = 7 := rfl
    omega
  | metaData currentStreamId videoWidth videoHeight =>
    rw [length_metaData]
    decide

theorem Reply.chunkStreamId_lt (reply : Reply) : reply.header.chunkStreamId < 64 := by
  cases reply with
  | pong eventData => exact show 2 < 64 by decide
  | windowAckSize size => exact show 2 < 64 by decide
  | publish currentStreamId streamName publishType => exact show 5 < 64 by decide
  | metaData currentStreamId videoWidth videoHeight => exact show 3 < 64 by decide

/-- The conditions under which a packet is received. -/
theorem Outgoing.sendable {p : Outgoing} (h : p.Readable) :
    Sendable txChunkSize (outgoingTraffic.header p) (outgoingTraffic.body p)
      (outgoingTraffic.value p) := by
  cases p with
  | audio currentStreamId data size dts => exact sendable_mediaPacket h.1 h.2.1 h.2.2
  | video currentStreamId data size dts => exact sendable_mediaPacket h.1 h.2.1 h.2.2
  | reply timestamp answer =>
    obtain ⟨hlossless, hnonneg, hlt, hfits⟩ := h
    have hbody : outgoingTraffic.body (.reply timestamp answer) = answer.writeBody :=
      List.take_length
    have hstream : InInt answer.header.messageStreamId := by
      cases answer with
      | pong eventData => exact show InInt 0 by decide
      | windowAckSize size => exact show InInt 0 by decide
      | publish currentStreamId streamName publishType => exact hlossless.1
      | metaData currentStreamId videoWidth videoHeight => exact hlossless.1
    rw [hbody]
    exact
      { chunkStreamId_lt := answer.chunkStreamId_lt
        timestamp_nonneg := hnonneg
        timestamp_lt := hlt
        messageStreamId_inInt := hstream
        length_pos := answer.length_writeBody_pos
        length_lt := Reply.length_writeBody_lt hlossless
        length_eq := rfl
        stamped := fun hsmall => by
          cases answer <;> exact if_neg (not_le.mpr hsmall)
        fits := hfits
        returned := by cases answer <;> nofun
        reads := fun chunkType => Reply.reads hlossless rfl
          ((Reply.length_writeBody_lt hlossless).trans (by decide)) rfl }

end MediasoupDemo.Rtmp
