import MediasoupDemo.Rtmp.Continuation

/-!
# Relative timestamps

A message whose header is of type 1 or type 2 carries a timestamp delta.  Its
timestamp is that of the previous message of the chunk stream plus the delta.

`readHeaderImpl` adds the delta for the single byte header of every further chunk of
the message as well, because it takes the previous header of the chunk stream for the
header of another message.  A message in `n` chunks gets the timestamp of the previous
one plus `n` times the delta, and the next message starts from there.
-/

namespace MediasoupDemo.Rtmp

open MediasoupDemo.Runtime InputStream RtmpDecoder Method

/-- A header that is relative to the previous one of its chunk stream. -/
inductive RelativeHeader where
  /-- type 1, with the length and the type of the message -/
  | large (delta packetLength : Nat) (messageType : MessageType)
  /-- type 2 -/
  | timestampOnly (delta : Nat)

namespace RelativeHeader

def delta : RelativeHeader → Nat
  | large delta _ _ | timestampOnly delta => delta

def bytes (chunkStreamId : Nat) : RelativeHeader → List UInt8
  | large delta packetLength messageType =>
      basicHeader .type1RelativeLarge chunkStreamId ::
        (writeUnsignedInt24 delta ++ (writeUnsignedInt24 packetLength ++ [messageType.getValue]))
  | timestampOnly delta =>
      basicHeader .type2RelativeTimestampOnly chunkStreamId :: writeUnsignedInt24 delta

/-- The header that the decoder makes of it. -/
def received (chunkStreamId : Nat) (prev : RtmpHeader) : RelativeHeader → RtmpHeader
  | large delta packetLength messageType =>
      { chunkType := .type1RelativeLarge, chunkStreamId
        absoluteTimestamp := int (prev.absoluteTimestamp + delta), timestampDelta := delta
        packetLength, messageType, messageStreamId := prev.messageStreamId }
  | timestampOnly delta =>
      { chunkType := .type2RelativeTimestampOnly, chunkStreamId
        absoluteTimestamp := int (prev.absoluteTimestamp + delta), timestampDelta := delta
        packetLength := prev.packetLength, messageType := prev.messageType
        messageStreamId := prev.messageStreamId }

/-- The delta is not extended, and the length fits its field. -/
def WellFormed : RelativeHeader → Prop
  | large delta packetLength _ => delta < 0xffffff ∧ packetLength < 2 ^ 24
  | timestampOnly delta => delta < 0xffffff

theorem delta_lt {m : RelativeHeader} (h : m.WellFormed) : m.delta < 0xffffff := by
  cases m with
  | large delta packetLength messageType => exact h.1
  | timestampOnly delta => exact h

variable (m : RelativeHeader)

theorem received_fields (chunkStreamId : Nat) (prev : RtmpHeader) :
    (m.received chunkStreamId prev).chunkStreamId = chunkStreamId ∧
      (m.received chunkStreamId prev).timestampDelta = m.delta ∧
      (m.received chunkStreamId prev).absoluteTimestamp =
        int (prev.absoluteTimestamp + m.delta) := by
  cases m <;> exact ⟨rfl, rfl, rfl⟩

/-- A delta below `0xffffff` is not followed by an extended timestamp. -/
theorem run_readExtendedTimestamp_delta {delta : Nat} (h : delta < 0xffffff) (s : InputStream) :
    (readExtendedTimestamp delta).run s = .ok 0 s := by
  rw [readExtendedTimestamp, if_neg (by omega), run_pure]

theorem run_readHeader {chunkStreamId : Nat} (hid : chunkStreamId < 64) {m : RelativeHeader}
    (h : m.WellFormed) {prevHeaderRx : Nat → Option RtmpHeader} {prev : RtmpHeader}
    (hprev : prevHeaderRx chunkStreamId = some prev) (rest : List UInt8) (segments : Segments) :
    (readHeader prevHeaderRx).run ⟨m.bytes chunkStreamId ++ rest, segments⟩ =
      .ok (m.received chunkStreamId prev) ⟨rest, segments⟩ := by
  cases m with
  | large delta packetLength messageType =>
    obtain ⟨hdelta, hlength⟩ := h
    have hbytes : (large delta packetLength messageType).bytes chunkStreamId ++ rest =
        basicHeader .type1RelativeLarge chunkStreamId ::
          (writeUnsignedInt24 delta ++ (writeUnsignedInt24 packetLength ++
            (messageType.getValue :: rest))) := by
      simp [bytes]
    rw [hbytes, run_readHeader_basicHeader prevHeaderRx .type1RelativeLarge hid]
    show (readLargeHeader _ _).run _ = _
    rw [hprev, readLargeHeader,
      run_bind_ok (run_readUnsignedInt24_write (by omega) (by omega) _ _),
      run_bind_ok (run_readUnsignedInt24_write (by omega) (by omega) _ _),
      run_bind_ok (run_readByte _ _ _), run_ofExcept_bind (MessageType.valueOf_getValue _),
      run_bind_ok (run_readExtendedTimestamp_delta hdelta _), run_pure]
    rfl
  | timestampOnly delta =>
    have hdelta : delta < 0xffffff := h
    have hbytes : (timestampOnly delta).bytes chunkStreamId ++ rest =
        basicHeader .type2RelativeTimestampOnly chunkStreamId ::
          (writeUnsignedInt24 delta ++ rest) := rfl
    rw [hbytes, run_readHeader_basicHeader prevHeaderRx .type2RelativeTimestampOnly hid]
    show (readTimestampHeader _ _).run _ = _
    rw [hprev, readTimestampHeader,
      run_bind_ok (run_readUnsignedInt24_write (by omega) (by omega) _ _),
      run_bind_ok (run_readExtendedTimestamp_delta hdelta _), previousHeader,
      run_bind_ok (run_pure _ _), run_pure]
    rfl

/-- The last chunk of a message in `n` chunks has added the delta `n` times. -/
theorem absoluteTimestamp_last (hm : m.WellFormed) (chunkStreamId chunkSize : Nat)
    (prev : RtmpHeader) :
    int ((m.received chunkStreamId prev).last chunkSize).absoluteTimestamp =
      int (prev.absoluteTimestamp +
        chunkCount chunkSize (m.received chunkStreamId prev).packetLength * m.delta) := by
  obtain ⟨-, hdelta, hstamp⟩ := m.received_fields chunkStreamId prev
  have hlt := m.delta_lt hm
  rw [RtmpHeader.last, RtmpHeader.absoluteTimestamp_iterate_next (by omega), hdelta, hstamp,
    int_add]
  have hcount : chunkCount chunkSize (m.received chunkStreamId prev).packetLength - 1 + 1 =
      chunkCount chunkSize (m.received chunkStreamId prev).packetLength := rfl
  rw [← hcount]
  push_cast
  congr 1
  ring

/-- The timestamp of a header that the decoder has made is an `int`. -/
theorem int_absoluteTimestamp_last (chunkStreamId chunkSize : Nat) (prev : RtmpHeader) :
    int ((m.received chunkStreamId prev).last chunkSize).absoluteTimestamp =
      ((m.received chunkStreamId prev).last chunkSize).absoluteTimestamp := by
  rw [RtmpHeader.last]
  cases chunkCount chunkSize (m.received chunkStreamId prev).packetLength - 1 with
  | zero =>
    show int (m.received chunkStreamId prev).absoluteTimestamp =
      (m.received chunkStreamId prev).absoluteTimestamp
    rw [(m.received_fields chunkStreamId prev).2.2]
    exact Int.bmod_bmod
  | succ n =>
    rw [Function.iterate_succ_apply']
    exact RtmpHeader.int_absoluteTimestamp_next _

end RelativeHeader

section

variable {d : RtmpDecoder} {chunkStreamId chunkSize : Nat} {prev : RtmpHeader}
  (m : RelativeHeader) {body more : List UInt8} {sizes : List Nat} {value : PacketBody}

/-- A message behind a relative header is returned with the sum of the previous timestamp and its
delta, and the next one is computed from that sum, just when the delta that its further chunks add
is a multiple of `2 ^ 32`. -/
theorem timestamp_eq_sum_iff (hm : m.WellFormed) (hid : chunkStreamId < 64)
    (hpos : 0 < chunkSize) (hrx : d.rtmpSessionInfo.rxChunkSize = chunkSize)
    (hprev : d.getChunkStreamInfo chunkStreamId = ⟨some prev, []⟩)
    (hlen : body.length = (m.received chunkStreamId prev).packetLength)
    (hreturned : ∀ size, value ≠ .setChunkSize size)
    (hbody : Readable chunkSize (m.received chunkStreamId prev) body value)
    (hin : d.input = ⟨m.bytes chunkStreamId ++
      (messageChunks [basicHeader .type3RelativeSingleByte chunkStreamId] chunkSize body ++ more),
      .network sizes⟩) :
    ∃ header d', (readPackets (chunkCount chunkSize body.length)).run d =
        .ok [{ header, body := value }] d' ∧
      d'.input.bytes = more ∧
      ((header.absoluteTimestamp = int (prev.absoluteTimestamp + m.delta) ∧
          (d'.getChunkStreamInfo chunkStreamId).prevHeaderRx.map RtmpHeader.absoluteTimestamp =
            some (int (prev.absoluteTimestamp + m.delta))) ↔
        2 ^ 32 ∣ (chunkCount chunkSize body.length - 1) * m.delta) := by
  obtain ⟨hstream, hdelta, -⟩ := m.received_fields chunkStreamId prev
  have hsmall := m.delta_lt hm
  have hheader := @RelativeHeader.run_readHeader chunkStreamId hid m hm
    d.prevHeaders prev (by rw [prevHeaders, hprev])
    (messageChunks [basicHeader .type3RelativeSingleByte chunkStreamId] chunkSize body ++ more)
    (.network sizes)
  rw [← hin, ← hstream, ← RtmpHeader.single_of_lt (by omega), hstream] at hheader
  have hidle : (d.getChunkStreamInfo (m.received chunkStreamId prev).chunkStreamId).baos = [] := by
    rw [hstream, hprev]
  obtain ⟨sizes', hrun⟩ := run_readPackets_readable hpos hrx hheader hidle hlen (by omega) hbody
    hreturned
  refine ⟨_, _, hrun, rfl, ?_⟩
  rw [hstream, getChunkStreamInfo_set, Option.map_some, Option.some_inj, and_self,
    ← m.int_absoluteTimestamp_last, m.absoluteTimestamp_last hm, int_eq_iff, ← hlen]
  have hcount : 1 ≤ chunkCount chunkSize body.length := Nat.le_add_left 1 _
  have hdiff : prev.absoluteTimestamp + (chunkCount chunkSize body.length : Int) * m.delta -
      (prev.absoluteTimestamp + m.delta) =
        (((chunkCount chunkSize body.length - 1) * m.delta : Nat) : Int) := by
    push_cast [hcount]
    ring
  rw [hdiff]
  exact Int.natCast_dvd_natCast (m := 2 ^ 32)

end

/-- A video packet of three bytes, 40 behind the previous one, in one chunk. -/
theorem timestamp_eq_sum_oneChunk :
    ∃ header d', (readPackets 1).run
        { rtmpSessionInfo := { chunkChannels := fun _ => ⟨some shortVideo, []⟩ }
          input := ⟨(RelativeHeader.timestampOnly 40).bytes 6 ++
            (messageChunks [0xc6] 128 [0x17, 0x01, 0x00] ++ []), .network []⟩ } =
        .ok [{ header, body := .content [0x17, 0x01, 0x00] }] d' ∧
      header.absoluteTimestamp = 1040 := by
  have hreadable : Readable 128 ((RelativeHeader.timestampOnly 40).received 6 shortVideo)
      [0x17, 0x01, 0x00] (.content [0x17, 0x01, 0x00]) :=
    readable_of_reads (reads_content (.inr rfl) rfl (List.cons_ne_nil _ _))
  obtain ⟨header, d', hrun, -, hiff⟩ := @timestamp_eq_sum_iff
    { rtmpSessionInfo := { chunkChannels := fun _ => ⟨some shortVideo, []⟩ }
      input := ⟨(RelativeHeader.timestampOnly 40).bytes 6 ++
        (messageChunks [0xc6] 128 [0x17, 0x01, 0x00] ++ []), .network []⟩ } 6 128 shortVideo
    (.timestampOnly 40) _ [] [] _ (show 40 < 0xffffff by decide) (by decide) (by decide) rfl rfl
    rfl (fun _ => PacketBody.noConfusion) hreadable rfl
  exact ⟨header, d', hrun, (hiff.mpr (by decide)).1⟩

/-- In chunks of two bytes the second video packet is 80 behind the first one, although its delta
is 40. -/
theorem timestamp_ne_sum_twoChunks :
    ((readPackets 4).run' (RtmpDecoder.start 2
      [0x06, 0x00, 0x03, 0xe8, 0x00, 0x00, 0x03, 0x09, 0x01, 0x00, 0x00, 0x00, 0x17, 0x01,
        0xc6, 0x00,
        0x86, 0x00, 0x00, 0x28, 0x27, 0x01, 0xc6, 0x00] [])).map
      (List.map fun packet =>
        (packet.header.timestampDelta, packet.header.absoluteTimestamp)) =
      some [(0, 1000), (40, 1080)] := by
  decide +kernel

end MediasoupDemo.Rtmp
