import MediasoupDemo.Rtmp.Messages
import MediasoupDemo.Rtmp.Segmentation

/-!
# Messages in one chunk and in several

A message that fits one chunk is read from the socket, and the readers have to stop at its
end by themselves.  A longer one is collected first and read from a buffer that ends with
it.  A message is delivered if both give the packet that was sent and leave the input behind
the message.

Some messages are delivered in one of the two ways only: one with an end marker in several
chunks, and one that ends with an empty string in one chunk.  A command or a data message
without values is delivered in neither.
-/

namespace MediasoupDemo.Rtmp

open MediasoupDemo.Runtime InputStream RtmpDecoder Method

/-- The decoder is about to read a message whose header is in the bytes `front`. -/
structure Announced (d : RtmpDecoder) (chunkSize : Nat) (front : List UInt8) (h : RtmpHeader)
    (message : WireMessage) : Prop where
  wellFormed : message.WellFormed
  rxChunkSize : d.rtmpSessionInfo.rxChunkSize = chunkSize
  chunkSize_pos : 0 < chunkSize
  reads : Reads False (readHeader d.prevHeaders) front h
  idle : (d.getChunkStreamInfo h.chunkStreamId).baos = []
  chunkStreamId_lt : h.chunkStreamId < 64
  messageType_eq : h.messageType = message.messageType
  length_eq : message.bytes.length = h.packetLength
  /-- the length field of a header has three bytes -/
  length_lt : h.packetLength < 2 ^ 24

/-- The decoder with the chunks of the message in front of other bytes. -/
def receiving (d : RtmpDecoder) (chunkSize : Nat) (front : List UInt8) (h : RtmpHeader)
    (message : WireMessage) (more : List UInt8) (segments : Segments) : RtmpDecoder :=
  { d with
    input := ⟨front ++ (messageChunks h.single chunkSize message.bytes ++ more), segments⟩ }

/-- The message is returned, and the input is left behind its last byte. -/
def Delivered (d : RtmpDecoder) (chunkSize : Nat) (front : List UInt8) (h : RtmpHeader)
    (message : WireMessage) (value : PacketBody) : Prop :=
  ∀ more sizes, ∃ header d',
    (readPackets (chunkCount chunkSize message.bytes.length)).run
        (receiving d chunkSize front h message more (.network sizes)) =
      .ok [{ header, body := value }] d' ∧
    h.SameMessage header ∧ d'.input.bytes = more

/-- The message is complete, and neither its end marker nor an empty end is in the way. -/
def WireMessage.Deliverable (message : WireMessage) (chunkSize : Nat) : Prop :=
  message.Complete ∧
    if message.bytes.length ≤ chunkSize then message.marked = false
    else message.endsEmpty = false

theorem WireMessage.value_ne_setChunkSize (message : WireMessage) (size : Int) :
    message.value ≠ .setChunkSize size := by
  intro h
  cases message <;> cases h

mutual

theorem AmfWire.marked_toData (w : AmfWire) : w.toData.marked = w.marked := by
  match w with
  | .array items =>
    rw [toData, AmfData.marked, itemsMarked_itemData items, marked]
  | .number _ | .boolean _ | .string _ | .object _ | .null | .undefined | .map _ _ =>
    rw [toData, AmfData.marked, marked]

theorem AmfWire.itemsMarked_itemData (items : List AmfWire) :
    AmfData.itemsMarked (itemData items) = itemsMarked items := by
  match items with
  | [] => rw [itemData, AmfData.itemsMarked, itemsMarked]
  | item :: items =>
    rw [itemData, AmfData.itemsMarked, itemsMarked, marked_toData item,
      itemsMarked_itemData items]

end

theorem WireMessage.marked_value (message : WireMessage) :
    message.value.marked = message.marked := by
  cases message with
  | command commandName transactionId values => exact AmfWire.itemsMarked_itemData values
  | data type values => exact AmfWire.itemsMarked_itemData values
  | abort | acknowledgement | userControl | windowAckSize | setPeerBandwidth | audio | video => rfl
  | bareCommand => exact AmfWire.itemsMarked_itemData []

section

variable {d : RtmpDecoder} {chunkSize : Nat} {front : List UInt8} {h : RtmpHeader}
  {message : WireMessage} (ha : Announced d chunkSize front h message)
include ha

theorem Announced.length_lt_int : h.packetLength < 2 ^ 31 :=
  ha.length_lt.trans (by decide)

/-- The segments can be chosen such that any given ones are left behind the header. -/
theorem Announced.steered (rest : List UInt8) (sizes' : List Nat) :
    ∃ sizes, (readHeader d.prevHeaders).run
      ⟨front ++ rest, .network sizes⟩ = .ok h ⟨rest, .network sizes'⟩ := by
  obtain ⟨rest', hrest, hsplits⟩ := plain_readers.readHeader _ _ _ _ (ha.reads.run_stored rest)
  cases hrest
  exact hsplits.steered sizes'

/-- A complete message is delivered if nothing is in the way. -/
theorem delivered_of_deliverable (hd : message.Deliverable chunkSize) :
    Delivered d chunkSize front h message message.value := by
  obtain ⟨hcomplete, hway⟩ := hd
  have hlength := ha.length_eq
  have hreads : ReadsBefore (chunkSize < h.packetLength) (message.endsEmpty = false) (readBody h)
      message.bytes message.value := by
    refine (readsIff_message ha.wellFormed hcomplete ha.messageType_eq hlength ha.length_lt_int
      fun hmarked => ?_).before
    by_contra hsmall
    rw [if_pos (by omega), hmarked] at hway
    cases hway
  have hbody := readable_of_readsBefore hreads fun hlong => by
    rw [if_neg (by omega)] at hway
    exact hway
  intro more sizes
  obtain ⟨segments, hlater, hheader⟩ := ha.reads
    (messageChunks h.single chunkSize message.bytes ++ more) (.network sizes) False.elim
  cases segments with
  | array => exact hlater.elim
  | network sizes₁ =>
    obtain ⟨sizes', hrun⟩ := @run_readPackets_readable chunkSize ha.chunkSize_pos
      (receiving d chunkSize front h message more (.network sizes)) h message.bytes more sizes₁
      message.value ha.rxChunkSize hheader ha.idle hlength ha.chunkStreamId_lt hbody
      message.value_ne_setChunkSize
    exact ⟨_, _, hrun, sameMessage_iterate_next h _, rfl⟩

variable {value : PacketBody} (hdelivered : Delivered d chunkSize front h message value)
include hdelivered

/-- A message in one chunk does not fail, whatever follows it and however it comes. -/
theorem Delivered.not_fails_whole (hsmall : message.bytes.length ≤ chunkSize) (more : List UInt8)
    (sizes : List Nat) : ¬ Fails (readBody h) ⟨message.bytes ++ more, .network sizes⟩ := by
  rintro ⟨e, s, hbody⟩
  obtain ⟨sizes₀, hheader⟩ := ha.steered
    (messageChunks h.single chunkSize message.bytes ++ more) sizes
  obtain ⟨header, d', hrun, -, -⟩ := hdelivered more sizes₀
  have hwhole := @run_readPackets_whole chunkSize
    (receiving d chunkSize front h message more (.network sizes₀)) h message.bytes more
    (.network sizes) ha.rxChunkSize hheader ha.idle ha.length_eq hsmall
  have hinput : (onInput (readBody h)).run _ = .error e _ := run_onInput_error
    (d := ({ receiving d chunkSize front h message more (.network sizes₀) with
        input := ⟨message.bytes ++ more, .network sizes⟩ } : RtmpDecoder).setChunkStreamInfo
      h.chunkStreamId ⟨some h, []⟩) hbody
  rw [run_bind_error (run_bind_error hinput _)] at hwhole
  rw [chunkCount_of_le ha.chunkSize_pos hsmall, hwhole] at hrun
  cases hrun

theorem Delivered.not_fails_stored (hlong : chunkSize < message.bytes.length) :
    ¬ Fails (readBody h) ⟨message.bytes, .array⟩ := by
  rintro ⟨e, s, hbody⟩
  obtain ⟨sizes₀, hheader⟩ := ha.steered (messageChunks h.single chunkSize message.bytes ++ []) []
  obtain ⟨header, d', hrun, -, -⟩ := hdelivered [] sizes₀
  obtain ⟨segments', -, hparts⟩ := @run_readPackets_parts chunkSize
    (receiving d chunkSize front h message [] (.network sizes₀)) h message.bytes [] (.network [])
    ha.rxChunkSize hheader ha.idle ha.length_eq ha.chunkSize_pos hlong ha.chunkStreamId_lt
  have hstream : (h.last chunkSize).chunkStreamId = h.chunkStreamId :=
    (sameMessage_iterate_next h _).chunkStreamId_eq
  have hlast : (readBody (h.last chunkSize)).run ⟨message.bytes, .array⟩ = .error e s := by
    rw [RtmpHeader.last, readBody_iterate_next, hbody]
  rw [← hstream, run_receiveStored_error (getChunkStreamInfo_set _ _ _) hlast] at hparts
  cases hrun.symm.trans hparts

theorem Delivered.complete : message.Complete := by
  by_contra hcomplete
  have hfails := fails_of_not_complete ha.wellFormed hcomplete ha.messageType_eq
  by_cases hsmall : message.bytes.length ≤ chunkSize
  · have hend := hfails (.network [])
    rw [← List.append_nil message.bytes] at hend
    exact hdelivered.not_fails_whole ha hsmall [] [] hend
  · exact hdelivered.not_fails_stored ha (by omega) (hfails .array)

theorem Delivered.not_marked (hsmall : message.bytes.length ≤ chunkSize) :
    message.marked = false := by
  by_contra hmarked
  rw [Bool.not_eq_false, ← message.marked_value] at hmarked
  -- From an array the message is read, with a byte behind it.
  obtain ⟨segments', hlater, hrun⟩ := (@readsIff_message message True h ha.wellFormed
    (hdelivered.complete ha) ha.messageType_eq ha.length_eq ha.length_lt_int
    fun _ => trivial).before [0x00] .array (fun _ => trivial) fun _ => .inr (List.cons_ne_nil _ _)
  obtain ⟨rest, -, hsplits⟩ := segmented_readBody h _ _ _ hrun
  obtain ⟨sizes, e, s, hbroken⟩ := hsplits.broken hmarked
  exact hdelivered.not_fails_whole ha hsmall [0x00] sizes ⟨e, s, hbroken⟩

theorem deliverable_of_delivered : message.Deliverable chunkSize := by
  refine ⟨hdelivered.complete ha, ?_⟩
  by_cases hsmall : message.bytes.length ≤ chunkSize
  · rw [if_pos hsmall]
    exact hdelivered.not_marked ha hsmall
  · rw [if_neg hsmall]
    by_contra hend
    have hreads := @readsIff_message message True h ha.wellFormed (hdelivered.complete ha)
      ha.messageType_eq ha.length_eq ha.length_lt_int fun _ => trivial
    exact hdelivered.not_fails_stored ha (by omega) (hreads.fails hend)

end

/-- A message is delivered, in one chunk or in several, just when it is complete and has no end
marker if it came in one chunk, or no empty end if it came in several. -/
theorem delivered_iff {d : RtmpDecoder} {chunkSize : Nat} {front : List UInt8} {h : RtmpHeader}
    {message : WireMessage} (ha : Announced d chunkSize front h message) (value : PacketBody) :
    Delivered d chunkSize front h message value ↔
      message.Deliverable chunkSize ∧ value = message.value := by
  constructor
  · intro hdelivered
    have hd := deliverable_of_delivered ha hdelivered
    refine ⟨hd, ?_⟩
    obtain ⟨header, d₁, hrun, -, -⟩ := hdelivered [] []
    obtain ⟨header', d₂, hrun', -, -⟩ := delivered_of_deliverable ha hd [] []
    cases hrun.symm.trans hrun'
    rfl
  · rintro ⟨hd, rfl⟩
    exact delivered_of_deliverable ha hd

/-- The header of a user control event of six bytes. -/
def pingHeader : RtmpHeader :=
  { chunkType := .type0Full, chunkStreamId := 2, timestampDelta := 0, packetLength := 6
    messageType := .userControlMessage }

/-- A ping request is delivered in one chunk and in two. -/
theorem delivered_pingRequest :
    Delivered (RtmpDecoder.start 128 [] []) 128 (pingHeader.writeTo .type0Full) pingHeader
        (.userControl .PING_REQUEST [1000]) (.userControl (some .PING_REQUEST) [1000]) ∧
      Delivered (RtmpDecoder.start 4 [] []) 4 (pingHeader.writeTo .type0Full) pingHeader
        (.userControl .PING_REQUEST [1000]) (.userControl (some .PING_REQUEST) [1000]) := by
  have hwell : (WireMessage.userControl .PING_REQUEST [1000]).WellFormed :=
    ⟨rfl, by simp [InInt]⟩
  have hannounced : ∀ {chunkSize : Nat}, 0 < chunkSize →
      Announced (RtmpDecoder.start chunkSize [] []) chunkSize (pingHeader.writeTo .type0Full)
        pingHeader (.userControl .PING_REQUEST [1000]) := by
    intro chunkSize hpos
    refine ⟨hwell, rfl, hpos, ?_, rfl, by decide, rfl, rfl, by decide⟩
    intro more segments _
    exact run_readHeader_full (by decide) (by decide) (by decide) (by decide) (by decide) _ more
      segments
  exact ⟨(delivered_iff (hannounced (by decide)) _).mpr ⟨⟨trivial, rfl⟩, rfl⟩,
    (delivered_iff (hannounced (by decide)) _).mpr ⟨⟨trivial, rfl⟩, rfl⟩⟩

/-- The data message `a` without values, and the command `a` with an empty string, in one chunk and
in three. -/
theorem not_delivered_noValues_emptyString :
    thrown (readPackets 1) (RtmpDecoder.start 128
        [0x03, 0x00, 0x00, 0x00, 0x00, 0x00, 0x04, 0x12, 0x00, 0x00, 0x00, 0x00,
          0x02, 0x00, 0x01, 0x61] []) = some .nullPointer ∧
      thrown (readPackets 1) (RtmpDecoder.start 128
        [0x03, 0x00, 0x00, 0x00, 0x00, 0x00, 0x10, 0x14, 0x00, 0x00, 0x00, 0x00,
          0x02, 0x00, 0x01, 0x61, 0x00, 0x00, 0x00, 0x00, 0x00, 0x00, 0x00, 0x00, 0x00,
          0x02, 0x00, 0x00] []) = none ∧
      thrown (readPackets 3) (RtmpDecoder.start 6
        [0x03, 0x00, 0x00, 0x00, 0x00, 0x00, 0x10, 0x14, 0x00, 0x00, 0x00, 0x00,
          0x02, 0x00, 0x01, 0x61, 0x00, 0x00, 0xc3, 0x00, 0x00, 0x00, 0x00, 0x00, 0x00,
          0xc3, 0x00, 0x02, 0x00, 0x00] []) =
        some (.io "Unexpected EOF reached before read buffer was filled") := by
  decide +kernel

end MediasoupDemo.Rtmp
