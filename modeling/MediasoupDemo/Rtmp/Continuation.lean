import MediasoupDemo.Rtmp.Decoder
import Mathlib.Algebra.Order.Ring.Int

/-!
# Messages in several chunks

A message that does not fit one chunk is cut into pieces of the chunk size.  The
first piece follows the header of the message, and a single byte goes in front of
every other one, with the extended timestamp if the message has an extended timestamp
delta (`RtmpHeader.single`).

`readPacket` makes a header of that byte: it repeats the previous header of the
chunk stream and adds the timestamp delta of that header once more
(`RtmpHeader.next`).  So the header that a message is returned with is not the one
that was read first.

* `run_readPackets_continuation` runs the decoder over the pieces behind the first
  one: all calls but the last store their piece, and the last one reads the stored
  body under the last header.
* `run_readPackets_whole` and `run_readPackets_parts` run it over a message behind
  its first header, in one chunk and in several.  They say nothing of the body.
* `Readable` is what the body needs in order to be returned, and
  `run_readPackets_readable` the result for a message of either kind.
-/

namespace MediasoupDemo.Rtmp

open MediasoupDemo.Runtime InputStream RtmpDecoder Method

/-! ## The header of a further chunk -/

variable {chunkSize : Nat} (h : RtmpHeader) {value : PacketBody} {body : List UInt8}
  (single : List UInt8)

namespace RtmpHeader

/-- All further chunks of a message start with the same bytes. -/
theorem single_next : h.next.single = h.single := by
  rw [single, single]
  by_cases hdelta : h.timestampDelta ≥ 0xffffff
  · have hnext : h.next.timestampDelta ≥ 0xffffff := by
      rw [next]
      dsimp only
      split <;> omega
    have hstamp : h.next.extendedTimestamp = int h.extendedTimestamp := if_pos hdelta
    rw [if_pos hdelta, if_pos hnext, hstamp, writeUnsignedInt32_int]
    rfl
  · have hnext : h.next.timestampDelta = h.timestampDelta :=
      if_neg (not_not.mpr (repeatedTimestamp_of_lt (by omega)))
    rw [hnext, if_neg hdelta, if_neg hdelta]
    rfl

theorem int_absoluteTimestamp_next : int h.next.absoluteTimestamp = h.next.absoluteTimestamp := by
  have hrepeated : int h.repeatedTimestamp = h.repeatedTimestamp := by
    rw [repeatedTimestamp]
    split
    · exact Int.bmod_bmod
    · rfl
  rw [next]
  dsimp only
  split
  · exact hrepeated
  · exact Int.bmod_bmod

variable {h} (hdelta : h.timestampDelta < 0xffffff)
include hdelta

theorem timestampDelta_iterate_next (n : Nat) :
    (next^[n] h).timestampDelta = h.timestampDelta := by
  induction n with
  | zero => rfl
  | succ n ih =>
    rw [Function.iterate_succ_apply', ← ih]
    exact if_neg (not_not.mpr (repeatedTimestamp_of_lt (by omega)))

theorem absoluteTimestamp_next :
    h.next.absoluteTimestamp = int (h.absoluteTimestamp + h.timestampDelta) := by
  simp [next, repeatedTimestamp_of_lt hdelta]

/-- Every further chunk adds the timestamp delta. -/
theorem absoluteTimestamp_iterate_next (n : Nat) :
    int (next^[n] h).absoluteTimestamp = int (h.absoluteTimestamp + n * h.timestampDelta) := by
  induction n with
  | zero =>
    show int h.absoluteTimestamp = _
    congr 1
    omega
  | succ n ih =>
    have hkept := timestampDelta_iterate_next hdelta n
    rw [Function.iterate_succ_apply', absoluteTimestamp_next (by omega), hkept, ← int_add, ih,
      int_add]
    have hsum : h.absoluteTimestamp + n * h.timestampDelta + h.timestampDelta =
        h.absoluteTimestamp + (n + 1 : Nat) * h.timestampDelta := by
      rw [Nat.cast_add, Int.add_mul, Int.add_assoc]
      simp
    rw [hsum]
    exact Int.bmod_bmod

end RtmpHeader

/-- A header of the same message. -/
structure RtmpHeader.SameMessage (h header : RtmpHeader) : Prop where
  chunkStreamId_eq : header.chunkStreamId = h.chunkStreamId
  packetLength_eq : header.packetLength = h.packetLength
  messageType_eq : header.messageType = h.messageType
  messageStreamId_eq : header.messageStreamId = h.messageStreamId
  /-- The single byte headers add the timestamp delta. -/
  absoluteTimestamp_eq : InInt h.absoluteTimestamp → h.timestampDelta = 0 →
    header.absoluteTimestamp = h.absoluteTimestamp

theorem sameMessage_iterate_next (n : Nat) :
    h.SameMessage (RtmpHeader.next^[n] h) := by
  induction n with
  | zero => exact ⟨rfl, rfl, rfl, rfl, fun _ _ => rfl⟩
  | succ n ih =>
    rw [Function.iterate_succ_apply']
    refine ⟨ih.chunkStreamId_eq, ih.packetLength_eq, ih.messageType_eq, ih.messageStreamId_eq, ?_⟩
    intro hstamp hdelta
    have hkept := RtmpHeader.timestampDelta_iterate_next (h := h) (by omega) n
    rw [RtmpHeader.absoluteTimestamp_next (by omega), ih.absoluteTimestamp_eq hstamp hdelta, hkept,
      hdelta, Int.add_zero, int_eq_self hstamp]

theorem readBody_iterate_next (n : Nat) :
    readBody (RtmpHeader.next^[n] h) = readBody h := by
  have hsame := sameMessage_iterate_next h n
  rw [readBody, readBody, hsame.messageType_eq, hsame.packetLength_eq]

/-! ## The chunks of a message -/

/-- The chunks behind the first one, with the bytes `single` in front of each.  With a chunk size
of at least one the length of the rest bounds the turns. -/
def continuation (single : List UInt8) (chunkSize : Nat) :
    (turns : Nat) → (rest : List UInt8) → List UInt8
  | 0, _ => []
  | turns + 1, rest =>
      if rest.isEmpty then []
      else
        single ++
          (rest.take chunkSize ++ continuation single chunkSize turns (rest.drop chunkSize))

/-- The bytes behind the first header of a message. -/
def messageChunks (single : List UInt8) (chunkSize : Nat) (body : List UInt8) : List UInt8 :=
  body.take chunkSize ++ continuation single chunkSize body.length (body.drop chunkSize)

/-- The number of chunks of a message of this length. -/
def chunkCount (chunkSize length : Nat) : Nat := (length - 1) / chunkSize + 1

theorem chunkCount_of_le {length : Nat} (hpos : 0 < chunkSize) (h : length ≤ chunkSize) :
    chunkCount chunkSize length = 1 := by
  rw [chunkCount, Nat.div_eq_of_lt (by omega)]

theorem chunkCount_of_lt {length : Nat} (hpos : 0 < chunkSize) (h : chunkSize < length) :
    chunkCount chunkSize length = chunkCount chunkSize (length - chunkSize) + 1 := by
  have hsplit : length - 1 = length - chunkSize - 1 + chunkSize := by omega
  rw [chunkCount, hsplit, Nat.add_div_right _ hpos, chunkCount]

theorem continuation_nil (chunkSize turns : Nat) :
    continuation single chunkSize turns [] = [] := by
  cases turns <;> rfl

theorem continuation_of_ne_nil (chunkSize turns : Nat) {rest : List UInt8} (h : rest ≠ []) :
    continuation single chunkSize (turns + 1) rest =
      single ++
        (rest.take chunkSize ++ continuation single chunkSize turns (rest.drop chunkSize)) := by
  rw [continuation, if_neg (by simpa using h)]

theorem messageChunks_of_le (h : body.length ≤ chunkSize) :
    messageChunks single chunkSize body = body := by
  rw [messageChunks, List.take_of_length_le h, List.drop_of_length_le h, continuation_nil,
    List.append_nil]

/-! ## Runs of the decoder -/

/-- The end of a call that has read a body. -/
def finishCall (header : RtmpHeader) (body : PacketBody) :
    Method RtmpDecoder (List RtmpPacket) := do
  let packet ← finishPacket header body
  pure packet.toList

/-- The end of the call that has stored the last piece. -/
def receiveStored (header : RtmpHeader) : Method RtmpDecoder (List RtmpPacket) := do
  let packet ← readStoredBody header >>= finishPacket header
  pure packet.toList

theorem run_finishCall (h : ∀ size, value ≠ .setChunkSize size) (header : RtmpHeader)
    (d : RtmpDecoder) :
    (finishCall header value).run d = .ok [{ header, body := value }] d := by
  rw [finishCall, run_bind_ok (run_finishPacket h header d)]
  rfl

theorem run_finishCall_setChunkSize (header : RtmpHeader) (size : Int) (d : RtmpDecoder) :
    (finishCall header (.setChunkSize size)).run d =
      .ok [] { d with rtmpSessionInfo := { d.rtmpSessionInfo with rxChunkSize := size } } := rfl

section Stored

variable {d : RtmpDecoder} {header : RtmpHeader} {info : ChunkStreamInfo} {left : InputStream}

theorem run_receiveStored (hinfo : d.getChunkStreamInfo header.chunkStreamId = info)
    (hbody : (readBody header).run ⟨info.baos, .array⟩ = .ok value left) :
    (receiveStored header).run d = (finishCall header value).run
      (d.setChunkStreamInfo header.chunkStreamId { info with baos := [] }) :=
  run_bind_congr (run_bind_ok (run_readStoredBody hinfo hbody) (finishPacket header)) _

theorem run_receiveStored_error (hinfo : d.getChunkStreamInfo header.chunkStreamId = info)
    {e : JavaException} (hbody : (readBody header).run ⟨info.baos, .array⟩ = .error e left) :
    (receiveStored header).run d =
      .error e (d.setChunkStreamInfo header.chunkStreamId { info with baos := [] }) := by
  rw [receiveStored, run_bind_error]
  rw [run_bind_error (run_readStoredBody_error hinfo hbody)]

end Stored

theorem run_readPackets_succ {d : RtmpDecoder} (hin : d.input.bytes ≠ []) (calls : Nat) :
    (readPackets (calls + 1)).run d =
      (readPacket >>= fun packet => readPackets calls >>= fun rest =>
        pure (packet.toList ++ rest)).run d := by
  have hne : d.input.bytes.isEmpty = false := by simpa using hin
  rw [readPackets, run_get_bind, hne]
  rfl

/-- A call that returns `null` leaves the rest to the other calls. -/
theorem run_readPackets_of_none {d d' : RtmpDecoder} (hin : d.input.bytes ≠ [])
    (h : readPacket.run d = .ok none d') (calls : Nat) :
    (readPackets (calls + 1)).run d = (readPackets calls).run d' := by
  rw [run_readPackets_succ hin, run_bind_ok h]
  exact congrArg (EStateM.run · d') (bind_pure (readPackets calls))

/-- Calls that return no packet leave the rest to the other calls. -/
theorem run_readPackets_of_nil (calls more : Nat) :
    ∀ {d d' : RtmpDecoder}, (readPackets calls).run d = .ok [] d' →
      (readPackets (calls + more)).run d = (readPackets more).run d' := by
  induction calls with
  | zero =>
    intro d d' h
    cases h
    rw [Nat.zero_add]
  | succ calls ih =>
    intro d d' h
    by_cases hin : d.input.bytes = []
    · have hempty : ∀ n, (readPackets n).run d = .ok [] d := by
        intro n
        cases n with
        | zero => rfl
        | succ n =>
          rw [readPackets, run_get_bind, hin]
          rfl
      rw [hempty] at h
      cases h
      rw [hempty, hempty]
    · rw [run_readPackets_succ hin] at h
      obtain ⟨packet, d₁, hone, hrest⟩ := run_bind_eq_ok h
      obtain ⟨rest, d₂, hcalls, hpure⟩ := run_bind_eq_ok hrest
      cases packet with
      | some packet => cases hpure
      | none =>
        cases hpure
        rw [Nat.add_right_comm, run_readPackets_of_none hin hone, ih hcalls]

theorem run_readPackets_one {d : RtmpDecoder} (hin : d.input.bytes ≠ []) :
    (readPackets 1).run d = (readPacket >>= fun packet => pure packet.toList).run d := by
  rw [run_readPackets_succ hin]
  show (readPacket >>= fun packet => pure (packet.toList ++ [])).run d = _
  simp only [List.append_nil]

theorem single_append_ne_nil (rest : List UInt8) : h.single ++ rest ≠ [] :=
  List.append_ne_nil_of_left_ne_nil (List.cons_ne_nil _ _) _

theorem run_readPacket_next {d : RtmpDecoder} {h : RtmpHeader} (hid : h.chunkStreamId < 64)
    {baos rest : List UInt8} {segments : Segments}
    (hinfo : d.getChunkStreamInfo h.chunkStreamId = ⟨some h, baos⟩)
    (hin : d.input = ⟨h.single ++ rest, segments⟩) :
    readPacket.run d =
      (readChunk h.next).run ({ d with input := ⟨rest, segments⟩ }.setChunkStreamInfo
        h.chunkStreamId ⟨some h.next, baos⟩) := by
  have hprev : d.prevHeaders h.chunkStreamId = some h := by
    rw [prevHeaders, hinfo]
  have hheader := run_readHeader_next hid hprev rest segments
  rw [← hin] at hheader
  have hbuffer : ({ d with input := ⟨rest, segments⟩ } : RtmpDecoder).getChunkStreamInfo
      h.next.chunkStreamId = ⟨some h, baos⟩ := hinfo
  rw [run_readPacket hheader, setPrevHeaderRx, hbuffer]
  rfl

section Message

variable {chunkSize : Nat} (hpos : 0 < chunkSize)
include hpos

/-- The chunks of a message from the one on whose header was read: the last call reads what was
stored. -/
theorem run_readChunk_calls (calls : Nat) :
    ∀ {turns : Nat} {rest baos more : List UInt8} {h : RtmpHeader} {d : RtmpDecoder}
      {segments : Segments}, d.input = ⟨rest.take chunkSize ++
        (continuation h.single chunkSize turns (rest.drop chunkSize) ++ more), segments⟩ →
      rest ≠ [] → (rest.drop chunkSize).length ≤ turns →
      chunkCount chunkSize rest.length = calls + 1 → h.chunkStreamId < 64 →
      d.rtmpSessionInfo.rxChunkSize = chunkSize →
      chunkSize < h.packetLength → baos.length + rest.length = h.packetLength →
      ∃ segments', segments'.Later segments ∧
        (readChunk h >>= fun packet => readPackets calls >>= fun rest =>
            pure (packet.toList ++ rest)).run
            (d.setChunkStreamInfo h.chunkStreamId ⟨some h, baos⟩) =
          (receiveStored (RtmpHeader.next^[calls] h)).run
            ({ d with input := ⟨more, segments'⟩ }.setChunkStreamInfo h.chunkStreamId
              ⟨some (RtmpHeader.next^[calls] h), baos ++ rest⟩) := by
  induction calls with
  | zero =>
    rintro turns rest baos more h ⟨info, input⟩ segments rfl hne _ hcount _ hrx hlong hlen
    have hlast : rest.length ≤ chunkSize := by
      by_contra hmore
      rw [chunkCount_of_lt hpos (by omega)] at hcount
      exact absurd (Nat.succ.inj hcount) (Nat.succ_ne_zero _)
    obtain ⟨segments', hlater, hrun⟩ := @run_readChunk_stored
      (RtmpDecoder.setChunkStreamInfo ⟨info, _⟩ _ _) h chunkSize baos rest _ hrx hpos hlong
      (getChunkStreamInfo_set _ _ _) hlen (List.length_pos_iff.mpr hne) rfl
    refine ⟨segments', hlater, ?_⟩
    rw [List.take_of_length_le hlast, List.drop_of_length_le hlast, continuation_nil,
      List.nil_append] at hrun ⊢
    rw [if_pos hlast, setChunkStreamInfo_input_set] at hrun
    refine (run_bind_congr hrun _).trans ?_
    show ((readStoredBody h >>= finishPacket h) >>= fun packet =>
      pure (packet.toList ++ [])).run _ = _
    simp only [List.append_nil]
    rfl
  | succ calls ih =>
    rintro turns rest baos more h ⟨info, input⟩ segments rfl hne hturns hcount hid hrx hlong hlen
    have hmore : chunkSize < rest.length := by
      by_contra hlast
      rw [chunkCount_of_le hpos (by omega)] at hcount
      omega
    rw [chunkCount_of_lt hpos hmore] at hcount
    have hdrop : (rest.drop chunkSize).length = rest.length - chunkSize := List.length_drop
    have hne' : rest.drop chunkSize ≠ [] := List.ne_nil_of_length_pos (by omega)
    obtain ⟨turns, rfl⟩ : ∃ n, turns = n + 1 := ⟨turns - 1, by omega⟩
    obtain ⟨segments₁, hlater₁, hrun⟩ := @run_readChunk_stored
      (RtmpDecoder.setChunkStreamInfo ⟨info, _⟩ _ _) h chunkSize baos rest _ hrx hpos hlong
      (getChunkStreamInfo_set _ _ _) hlen (by omega) rfl
    rw [continuation_of_ne_nil _ _ _ hne', List.append_assoc, List.append_assoc] at hrun ⊢
    rw [if_neg (by omega), run_pure, setChunkStreamInfo_input_set] at hrun
    obtain ⟨segments', hlater, hrest⟩ := @ih turns (rest.drop chunkSize)
      (baos ++ rest.take chunkSize) more h.next ⟨info, _⟩ segments₁ rfl hne'
      (by rw [List.length_drop]; omega) (by rw [hdrop]; omega) hid hrx hlong (by
        show _ = h.packetLength
        rw [List.length_append, List.length_take, hdrop, ← hlen]
        omega)
    rw [List.append_assoc, List.take_append_drop] at hrest
    refine ⟨segments', hlater.trans hlater₁, ?_⟩
    rw [run_bind_ok hrun, Function.iterate_succ_apply]
    refine (congrArg (EStateM.run · _) (bind_pure (readPackets (calls + 1)))).trans ?_
    refine (run_readPackets_succ (single_append_ne_nil h _) calls).trans ?_
    refine Eq.trans (run_bind_congr ?_ _) hrest
    rw [run_readPacket_next hid (getChunkStreamInfo_set ⟨info, _⟩ _ _) rfl,
      setChunkStreamInfo_input_set, h.single_next]
    rfl

/-- The chunks behind the first one. -/
theorem run_readPackets_continuation {rest baos more : List UInt8} {h : RtmpHeader}
    {d : RtmpDecoder} {segments : Segments} (hne : rest ≠ []) (hid : h.chunkStreamId < 64)
    (hrx : d.rtmpSessionInfo.rxChunkSize = chunkSize)
    (hlong : chunkSize < h.packetLength)
    (hinfo : d.getChunkStreamInfo h.chunkStreamId = ⟨some h, baos⟩)
    (hlen : baos.length + rest.length = h.packetLength)
    (hin : d.input = ⟨continuation h.single chunkSize rest.length rest ++ more, segments⟩) :
    ∃ segments', segments'.Later segments ∧
      (readPackets (chunkCount chunkSize rest.length)).run d =
        (receiveStored (RtmpHeader.next^[chunkCount chunkSize rest.length] h)).run
          ({ d with input := ⟨more, segments'⟩ }.setChunkStreamInfo h.chunkStreamId
            ⟨some (RtmpHeader.next^[chunkCount chunkSize rest.length] h), baos ++ rest⟩) := by
  obtain ⟨turns, hturns⟩ : ∃ n, rest.length = n + 1 :=
    ⟨rest.length - 1, by have hlength := List.length_pos_iff.mpr hne; omega⟩
  rw [hturns, continuation_of_ne_nil _ _ _ hne, List.append_assoc, List.append_assoc] at hin
  have hsome : d.input.bytes ≠ [] := by
    rw [hin]
    exact single_append_ne_nil h _
  obtain ⟨segments', hlater, hrun⟩ := @run_readChunk_calls chunkSize hpos
    ((rest.length - 1) / chunkSize) turns rest baos more h.next { d with input := _ } segments rfl
    hne (by rw [List.length_drop]; omega) rfl hid hrx hlong hlen
  refine ⟨segments', hlater, (run_readPackets_succ hsome _).trans ?_⟩
  rw [h.single_next] at hrun
  exact (run_bind_congr (run_readPacket_next hid hinfo hin) _).trans hrun

end Message

/-! ## A message behind its first header -/

/-- The header of the last chunk of a message. -/
def RtmpHeader.last (h : RtmpHeader) (chunkSize : Nat) : RtmpHeader :=
  RtmpHeader.next^[chunkCount chunkSize h.packetLength - 1] h

theorem RtmpHeader.last_eq_self (hpos : 0 < chunkSize) (hsmall : h.packetLength ≤ chunkSize) :
    h.last chunkSize = h := by
  rw [last, chunkCount_of_le hpos hsmall]
  rfl

section First

variable {chunkSize : Nat} {d : RtmpDecoder} {h : RtmpHeader} {body more : List UInt8}
  {segments : Segments}
  (hrx : d.rtmpSessionInfo.rxChunkSize = chunkSize)
  (hread : (readHeader d.prevHeaders).run d.input =
    .ok h ⟨messageChunks h.single chunkSize body ++ more, segments⟩)
  (hidle : (d.getChunkStreamInfo h.chunkStreamId).baos = [])
  (hlen : body.length = h.packetLength)
include hrx hread hidle hlen

omit hrx hidle hlen in
theorem input_ne_nil_of_readHeader : d.input.bytes ≠ [] := by
  intro hnil
  have hinput : d.input = ⟨[], d.input.segments⟩ := by
    rw [← hnil]
  rw [hinput] at hread
  cases hread

omit hrx hlen in
theorem run_readPacket_first_header :
    readPacket.run d = (readChunk h).run
      ({ d with input := ⟨messageChunks h.single chunkSize body ++ more, segments⟩
        }.setChunkStreamInfo h.chunkStreamId ⟨some h, []⟩) := by
  have hbuffer : ({ d with
      input := ⟨messageChunks h.single chunkSize body ++ more, segments⟩ } :
        RtmpDecoder).getChunkStreamInfo h.chunkStreamId =
      ⟨(d.getChunkStreamInfo h.chunkStreamId).prevHeaderRx, []⟩ := by
    rw [← hidle]
    rfl
  rw [run_readPacket hread, setPrevHeaderRx, hbuffer]

theorem run_readPackets_whole (hsmall : body.length ≤ chunkSize) :
    (readPackets 1).run d =
      ((onInput (readBody h) >>= finishPacket h) >>= fun packet => pure packet.toList).run
        ({ d with input := ⟨body ++ more, segments⟩ }.setChunkStreamInfo h.chunkStreamId
          ⟨some h, []⟩) := by
  rw [run_readPackets_one (input_ne_nil_of_readHeader hread)]
  apply run_bind_congr
  have hcall := run_readPacket_first_header hread hidle
  rw [messageChunks_of_le _ hsmall] at hcall
  have hle : (h.packetLength : Int) ≤ d.rtmpSessionInfo.rxChunkSize := by omega
  exact hcall.trans (run_readChunk_of_le hle)

/-- A message in several chunks is stored first. -/
theorem run_readPackets_parts (hpos : 0 < chunkSize) (hlong : chunkSize < body.length)
    (hid : h.chunkStreamId < 64) :
    ∃ segments', segments'.Later segments ∧
      (readPackets (chunkCount chunkSize body.length)).run d =
        (receiveStored (h.last chunkSize)).run
          ({ d with input := ⟨more, segments'⟩ }.setChunkStreamInfo h.chunkStreamId
            ⟨some (h.last chunkSize), body⟩) := by
  have hcall := run_readPacket_first_header hread hidle
  rw [messageChunks, List.append_assoc] at hcall
  obtain ⟨segments', hlater, hrun⟩ := @run_readChunk_calls chunkSize hpos
    ((body.length - 1) / chunkSize) body.length body [] more h { d with input := _ } segments rfl
    (List.ne_nil_of_length_pos (by omega)) (by rw [List.length_drop]; omega) rfl hid hrx (by omega)
    (by rw [← hlen]; exact Nat.zero_add _)
  rw [List.nil_append] at hrun
  refine ⟨segments', hlater, ?_⟩
  rw [RtmpHeader.last, ← hlen]
  refine (run_readPackets_succ (input_ne_nil_of_readHeader hread) _).trans ?_
  exact (run_bind_congr hcall _).trans hrun

end First

/-! ## Bodies that are read -/

/-- The body of a message is read as a value: from the network if it fits one chunk, whatever
follows it and however it comes, and from the buffer otherwise. -/
def Readable (chunkSize : Nat) (h : RtmpHeader) (body : List UInt8) (value : PacketBody) : Prop :=
  if h.packetLength ≤ chunkSize then
    ∀ more sizes, ∃ sizes', (readBody h).run ⟨body ++ more, .network sizes⟩ =
      .ok value ⟨more, .network sizes'⟩
  else ∃ left, (readBody h).run ⟨body, .array⟩ = .ok value left

/-- A body is readable if its end marker, if it has one, comes from the buffer, and an empty read
at its end does not. -/
theorem readable_of_readsBefore {h : RtmpHeader} {closed : Prop}
    (hreads : ReadsBefore (chunkSize < h.packetLength) closed (readBody h) body value)
    (hclosed : chunkSize < h.packetLength → closed) : Readable chunkSize h body value := by
  rw [Readable]
  by_cases hsmall : h.packetLength ≤ chunkSize
  · rw [if_pos hsmall]
    intro more sizes
    obtain ⟨segments', hlater, hrun⟩ := hreads more (.network sizes) (by omega) fun harray => by
      cases harray
    cases segments' with
    | network sizes' => exact ⟨sizes', hrun⟩
    | array => exact hlater.elim
  · rw [if_neg hsmall]
    have hrun := (hreads.reads (hclosed (by omega))).run_stored []
    rw [List.append_nil] at hrun
    exact ⟨_, hrun⟩

theorem readable_of_reads {h : RtmpHeader}
    (hreads : Reads (chunkSize < h.packetLength) (readBody h) body value) :
    Readable chunkSize h body value :=
  readable_of_readsBefore (@Reads.before _ _ _ True _ _ hreads) fun _ => trivial

section Readable

variable {chunkSize : Nat} (hpos : 0 < chunkSize) {d : RtmpDecoder} {h : RtmpHeader}
  {body more : List UInt8} {sizes : List Nat} {value : PacketBody}
  (hrx : d.rtmpSessionInfo.rxChunkSize = chunkSize)
  (hread : (readHeader d.prevHeaders).run d.input =
    .ok h ⟨messageChunks h.single chunkSize body ++ more, .network sizes⟩)
  (hidle : (d.getChunkStreamInfo h.chunkStreamId).baos = [])
  (hlen : body.length = h.packetLength) (hid : h.chunkStreamId < 64)
  (hbody : Readable chunkSize h body value)
include hpos hrx hread hidle hlen hid hbody

/-- The calls that read a message end with the header of its last chunk. -/
theorem run_readPackets_finish :
    ∃ sizes', (readPackets (chunkCount chunkSize body.length)).run d =
      (finishCall (h.last chunkSize) value).run
        ({ d with input := ⟨more, .network sizes'⟩ }.setChunkStreamInfo h.chunkStreamId
          ⟨some (h.last chunkSize), []⟩) := by
  rw [Readable] at hbody
  by_cases hsmall : body.length ≤ chunkSize
  · rw [if_pos (by omega)] at hbody
    obtain ⟨sizes', hrun⟩ := hbody more sizes
    refine ⟨sizes', ?_⟩
    have hinput : (onInput (readBody h)).run (({ d with
        input := ⟨body ++ more, .network sizes⟩ } : RtmpDecoder).setChunkStreamInfo
          h.chunkStreamId ⟨some h, []⟩) = _ := run_onInput hrun
    rw [h.last_eq_self hpos (by omega), chunkCount_of_le hpos hsmall,
      run_readPackets_whole hrx hread hidle hlen hsmall]
    exact run_bind_congr (run_bind_ok hinput (finishPacket h)) _
  · rw [if_neg (by omega)] at hbody
    obtain ⟨left, hrun⟩ := hbody
    obtain ⟨segments', hlater, hparts⟩ := run_readPackets_parts hrx hread hidle hlen hpos
      (by omega) hid
    cases segments' with
    | array => exact hlater.elim
    | network sizes' =>
      refine ⟨sizes', ?_⟩
      have hstream : (h.last chunkSize).chunkStreamId = h.chunkStreamId :=
        (sameMessage_iterate_next h _).chunkStreamId_eq
      have hlast : (readBody (h.last chunkSize)).run ⟨body, .array⟩ = .ok value left := by
        rw [RtmpHeader.last, readBody_iterate_next, hrun]
      rw [← hstream] at hparts ⊢
      rw [hparts, run_receiveStored (getChunkStreamInfo_set _ _ _) hlast, setChunkStreamInfo_set]

/-- A message whose body is read is returned. -/
theorem run_readPackets_readable (hreturned : ∀ size, value ≠ .setChunkSize size) :
    ∃ sizes', (readPackets (chunkCount chunkSize body.length)).run d =
      .ok [{ header := h.last chunkSize, body := value }]
        ({ d with input := ⟨more, .network sizes'⟩ }.setChunkStreamInfo h.chunkStreamId
          ⟨some (h.last chunkSize), []⟩) := by
  obtain ⟨sizes', hrun⟩ := run_readPackets_finish hpos hrx hread hidle hlen hid hbody
  refine ⟨sizes', ?_⟩
  rw [hrun, run_finishCall hreturned]

end Readable

/-- The header of a video message of three bytes at one second. -/
def shortVideo : RtmpHeader :=
  { chunkType := .type0Full, chunkStreamId := 6, absoluteTimestamp := 1000, timestampDelta := 0
    packetLength := 3, messageType := .video, messageStreamId := 1 }

end MediasoupDemo.Rtmp
