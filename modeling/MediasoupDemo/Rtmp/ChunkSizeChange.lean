import MediasoupDemo.Rtmp.AmfWire
import MediasoupDemo.Rtmp.Continuation
import MediasoupDemo.Rtmp.Sizes

/-!
# A new chunk size inside a message

A server may change its chunk size while a message is being sent: a `SetChunkSize`
message comes on the control stream between two chunks of the message, and the rest
of the message is cut by the new size.

`readPacket` decides by the length of the message and by the chunk size of the moment
whether a chunk belongs to a message that is collected.  If the whole message would fit
a chunk of the new size, it reads the next chunk as a message of its own and forgets
what it has stored.  `StillReturned` fails in this case, because a packet determines
the number of bytes that it was read from (`length_eq_size`), and in no other.
-/

namespace MediasoupDemo.Rtmp

open MediasoupDemo.Runtime InputStream RtmpDecoder Method

/-- The decoder has stored a part of a message and waits for the rest. -/
structure Collecting (d : RtmpDecoder) (chunkSize : Nat) (h : RtmpHeader)
    (stored rest : List UInt8) : Prop where
  rxChunkSize : d.rtmpSessionInfo.rxChunkSize = chunkSize
  chunkSize_pos : 0 < chunkSize
  longer : chunkSize < h.packetLength
  stream : d.getChunkStreamInfo h.chunkStreamId = ⟨some h, stored⟩
  chunkStreamId_lt : h.chunkStreamId < 64
  stored_ne_nil : stored ≠ []
  rest_ne_nil : rest ≠ []
  length_eq : stored.length + rest.length = h.packetLength
  /-- the length field of a header has three bytes -/
  length_lt : h.packetLength < 2 ^ 24

/-- The bytes `control` are the header of a `SetChunkSize` message on the control stream, which
has no message of its own under way. -/
structure AnnouncesChunkSize (d : RtmpDecoder) (control : List UInt8) (header : RtmpHeader) :
    Prop where
  reads : Reads False (readHeader d.prevHeaders) control header
  chunkStreamId_eq : header.chunkStreamId = 2
  messageType_eq : header.messageType = .setChunkSize
  packetLength_eq : header.packetLength = 4
  idle : (d.getChunkStreamInfo 2).baos = []

/-- The input: the new chunk size, and the rest of the message in chunks of that size. -/
def resized (chunkSize newSize : Nat) (control : List UInt8) (announcing h : RtmpHeader)
    (rest more : List UInt8) : List UInt8 :=
  control ++ (messageChunks announcing.single chunkSize (writeUnsignedInt32 newSize) ++
    (continuation h.single newSize rest.length rest ++ more))

/-- The message is returned, and the input is left behind its last byte. -/
def StillReturned (d : RtmpDecoder) (chunkSize newSize : Nat) (control : List UInt8)
    (announcing h : RtmpHeader) (rest : List UInt8) (value : PacketBody) : Prop :=
  ∀ more sizes, ∃ header d',
    (readPackets (chunkCount chunkSize 4 + chunkCount newSize rest.length)).run
        { d with
          input := ⟨resized chunkSize newSize control announcing h rest more, .network sizes⟩ } =
      .ok [{ header, body := value }] d' ∧
    h.SameMessage header ∧ d'.input.bytes = more

section

variable {d : RtmpDecoder} {chunkSize newSize : Nat} {control : List UInt8}
  {h announcing : RtmpHeader} {stored rest : List UInt8}
  (hcollecting : Collecting d chunkSize h stored rest)
  (hannounces : AnnouncesChunkSize d control announcing) (hother : h.chunkStreamId ≠ 2)
  (hnew : newSize < 2 ^ 31)
include hcollecting hannounces hother hnew

/-- The calls that read the `SetChunkSize` message return no packet and leave the message that is
collected alone. -/
theorem run_readPackets_announced (left : List UInt8) (sizes : List Nat) :
    ∃ d₁ sizes', (readPackets (chunkCount chunkSize 4)).run
        { d with
          input := ⟨control ++ (messageChunks announcing.single chunkSize
            (writeUnsignedInt32 newSize) ++ left), .network sizes⟩ } = .ok [] d₁ ∧
      d₁.input = ⟨left, .network sizes'⟩ ∧ d₁.rtmpSessionInfo.rxChunkSize = newSize ∧
      d₁.getChunkStreamInfo h.chunkStreamId = ⟨some h, stored⟩ := by
  have hlength : (writeUnsignedInt32 (newSize : Int)).length = 4 := length_writeUnsignedInt32 _
  obtain ⟨segments, hlater, hheader⟩ := hannounces.reads
    (messageChunks announcing.single chunkSize (writeUnsignedInt32 newSize) ++ left)
    (.network sizes) False.elim
  cases segments with
  | array => exact hlater.elim
  | network sizes₁ =>
    have hbody : Readable chunkSize announcing (writeUnsignedInt32 newSize)
        (.setChunkSize newSize) := by
      apply readable_of_reads
      rw [readBody, hannounces.messageType_eq]
      exact (reads_readUnsignedInt32 ⟨by omega, by omega⟩).map PacketBody.setChunkSize
    obtain ⟨sizes', hrun⟩ := run_readPackets_finish
      (d := ⟨d.rtmpSessionInfo, ⟨control ++ _, .network sizes⟩⟩)
      hcollecting.chunkSize_pos hcollecting.rxChunkSize hheader
      (by rw [hannounces.chunkStreamId_eq]; exact hannounces.idle)
      (by rw [hlength, hannounces.packetLength_eq])
      (by rw [hannounces.chunkStreamId_eq]; decide) hbody
    rw [hlength, run_finishCall_setChunkSize, hannounces.chunkStreamId_eq] at hrun
    refine ⟨_, sizes', hrun, rfl, rfl, ?_⟩
    have hkept := getChunkStreamInfo_set_of_ne d hother
      ⟨some (announcing.last chunkSize), []⟩
    exact hkept.trans hcollecting.stream

variable (hone : 1 ≤ newSize)
include hone

/-- With a new size of at least the length of the message, the next chunk is read as a message of
its own. -/
theorem run_readPackets_overtaken (hlarge : h.packetLength ≤ newSize) (more : List UInt8)
    (sizes : List Nat) :
    ∃ d₁ sizes', d₁.input = ⟨rest ++ more, .network sizes'⟩ ∧
      (readPackets (chunkCount chunkSize 4 + chunkCount newSize rest.length)).run
          { d with
            input := ⟨resized chunkSize newSize control announcing h rest more, .network sizes⟩ } =
        ((onInput (readBody h.next) >>= finishPacket h.next) >>= fun packet =>
          pure packet.toList).run d₁ := by
  obtain ⟨d₁, sizes₁, hannounced, hin, hrx, hstream⟩ := run_readPackets_announced hcollecting
    hannounces hother hnew (continuation h.single newSize rest.length rest ++ more) sizes
  have hlength := hcollecting.length_eq
  obtain ⟨turns, hturns⟩ : ∃ turns, rest.length = turns + 1 :=
    ⟨rest.length - 1, by have hpos := List.length_pos_iff.mpr hcollecting.rest_ne_nil; omega⟩
  have hpiece : continuation h.single newSize rest.length rest ++ more =
      h.single ++ (rest ++ more) := by
    rw [hturns, continuation_of_ne_nil _ _ _ hcollecting.rest_ne_nil,
      List.take_of_length_le (by omega), List.drop_of_length_le (by omega), continuation_nil,
      List.append_nil, List.append_assoc]
  rw [hpiece] at hin
  have hcall := run_readPacket_next hcollecting.chunkStreamId_lt hstream hin
  have hsome : d₁.input.bytes ≠ [] := by
    rw [hin]
    exact single_append_ne_nil h _
  have hle : (h.packetLength : Int) ≤ d₁.rtmpSessionInfo.rxChunkSize := by omega
  have hcount : chunkCount newSize rest.length = 1 := chunkCount_of_le hone (by omega)
  have hall := run_readPackets_of_nil _ (chunkCount newSize rest.length) hannounced
  rw [hcount, run_readPackets_one hsome] at hall
  rw [hcount]
  exact ⟨_, sizes₁, rfl,
    hall.trans (run_bind_congr (hcall.trans (run_readChunk_of_le hle)) _)⟩

variable {value : PacketBody} (hreads : Reads True (readBody h) (stored ++ rest) value)
include hreads

/-- With a new size below the length of the message, the message is collected to its end. -/
theorem run_readPackets_resized (hsmall : newSize < h.packetLength) (more : List UInt8)
    (sizes : List Nat) :
    ∃ last d', h.SameMessage last ∧ d'.input.bytes = more ∧
      (readPackets (chunkCount chunkSize 4 + chunkCount newSize rest.length)).run
          { d with
            input := ⟨resized chunkSize newSize control announcing h rest more, .network sizes⟩ } =
        (finishCall last value).run d' := by
  obtain ⟨d₁, sizes₁, hannounced, hin, hrx, hstream⟩ := run_readPackets_announced hcollecting
    hannounces hother hnew (continuation h.single newSize rest.length rest ++ more) sizes
  obtain ⟨segments', -, hrest⟩ := run_readPackets_continuation (by omega)
    hcollecting.rest_ne_nil hcollecting.chunkStreamId_lt hrx hsmall hstream hcollecting.length_eq
    hin
  have hsame := sameMessage_iterate_next h (chunkCount newSize rest.length)
  have hbody := hreads.run_stored []
  rw [← readBody_iterate_next h (chunkCount newSize rest.length), List.append_nil] at hbody
  rw [← hsame.chunkStreamId_eq, run_receiveStored (getChunkStreamInfo_set _ _ _) hbody,
    setChunkStreamInfo_set] at hrest
  exact ⟨_, _, hsame, rfl, (run_readPackets_of_nil _ _ hannounced).trans hrest⟩

/-- A message that is interrupted by a new chunk size is still returned just when it is longer than
a chunk of the new size.  A message that is itself a chunk size is never returned. -/
theorem stillReturned_iff :
    StillReturned d chunkSize newSize control announcing h rest value ↔
      newSize < h.packetLength ∧ ∀ size, value ≠ .setChunkSize size := by
  constructor
  · intro hreturned
    by_cases hsmall : newSize < h.packetLength
    · refine ⟨hsmall, ?_⟩
      rintro size rfl
      obtain ⟨header, d', hrun, -, -⟩ := hreturned [] []
      obtain ⟨last, d'', -, -, hall⟩ := run_readPackets_resized hcollecting hannounces hother hnew
        hone hreads hsmall [] []
      rw [hall, run_finishCall_setChunkSize] at hrun
      cases hrun
    · -- A byte behind the message shows that only the last chunk was read.
      obtain ⟨header, d', hrun, -, hleft⟩ := hreturned [0x00] []
      obtain ⟨d₁, sizes', hin, hall⟩ := run_readPackets_overtaken hcollecting hannounces hother hnew
        hone (by omega) [0x00] []
      rw [hall] at hrun
      obtain ⟨packet, d₂, hpacket, hpure⟩ := run_bind_eq_ok hrun
      obtain ⟨body, d₃, hbody, hfinish⟩ := run_bind_eq_ok hpacket
      obtain ⟨input, hread, rfl⟩ := onInput_eq_ok hbody
      obtain ⟨hinput, -, hvalue⟩ := finishPacket_eq_ok hfinish
      cases packet with
      | none => cases hpure
      | some packet =>
        cases hpure
        rw [← hvalue _ rfl, hin] at hread
        rw [hinput] at hleft
        have hsizes : int (stored ++ rest).length = int rest.length :=
          (length_eq_size (hreads.run_stored [0x00]) rfl).trans (length_eq_size hread hleft).symm
        have hstored := List.length_pos_iff.mpr hcollecting.stored_ne_nil
        have hlength := hcollecting.length_eq
        have hlt := hcollecting.length_lt
        rw [List.length_append, int_eq_iff] at hsizes
        omega
  · rintro ⟨hsmall, hreturned⟩ more sizes
    obtain ⟨last, d', hsame, hleft, hall⟩ := run_readPackets_resized hcollecting hannounces hother
      hnew hone hreads hsmall more sizes
    refine ⟨last, d', ?_, hsame, hleft⟩
    rw [hall, run_finishCall hreturned]

end

/-- A decoder that has stored two of the three bytes. -/
def collectingVideo : RtmpDecoder where
  rtmpSessionInfo :=
    { rxChunkSize := 2
      chunkChannels := Function.update (fun _ => {}) 6 ⟨some shortVideo, [0x17, 0x01]⟩ }
  input := ⟨[], .network []⟩

/-- The header of a `SetChunkSize` message. -/
def chunkSizeHeader : RtmpHeader :=
  { chunkType := .type0Full, chunkStreamId := 2, timestampDelta := 0, packetLength := 4
    messageType := .setChunkSize }

/-- The last byte of a video packet after the chunk size has changed from two to one. -/
theorem stillReturned_oneByteChunks :
    StillReturned collectingVideo 2 1 (chunkSizeHeader.writeTo .type0Full) chunkSizeHeader
      shortVideo [0x00] (.content [0x17, 0x01, 0x00]) := by
  have hcollecting : Collecting collectingVideo 2 shortVideo [0x17, 0x01] [0x00] :=
    ⟨rfl, by decide, by decide, rfl, by decide, by decide, by decide, rfl, by decide⟩
  refine (stillReturned_iff hcollecting ⟨fun more segments _ => run_readHeader_full (by decide)
    (by decide) (by decide) (by decide) (by decide) _ more segments, rfl, rfl, rfl, rfl⟩
    (by decide) (by decide) (by decide)
    (reads_content (.inr rfl) rfl (List.cons_ne_nil _ _))).mpr ⟨by decide, ?_⟩
  exact fun size => PacketBody.noConfusion

/-- After a change of the chunk size from two to 4096 bytes the last byte of a video packet of
three bytes is taken for the start of a packet of three bytes. -/
theorem not_stillReturned_largeChunks :
    thrown (readPackets 4) (RtmpDecoder.start 2
      [0x06, 0x00, 0x00, 0x00, 0x00, 0x00, 0x03, 0x09, 0x01, 0x00, 0x00, 0x00, 0x17, 0x01,
        0x02, 0x00, 0x00, 0x00, 0x00, 0x00, 0x04, 0x01, 0x00, 0x00, 0x00, 0x00, 0x00, 0x00,
        0xc2, 0x10, 0x00,
        0xc6, 0x00] []) =
      some (.io "Unexpected EOF reached before read buffer was filled") := by
  decide +kernel

end MediasoupDemo.Rtmp
