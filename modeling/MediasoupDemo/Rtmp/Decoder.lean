import MediasoupDemo.Rtmp.Packet
import Mathlib.Logic.Function.Basic

/-!
# `RtmpDecoder`: from chunks to packets

The decoder reads one chunk per call of `readPacket`.  A message that fits one
chunk is read from the input.  A longer one is collected in the buffer of its
chunk stream (`storePacketChunk`), the call returns `null`, and the call that
reads the last chunk parses the collected bytes.

Left out of the session are the counters of acknowledged bytes, the send side
and the pending commands, which `readPacket` does not use.
-/

namespace MediasoupDemo.Rtmp

open MediasoupDemo.Runtime InputStream

/-- The receive side of `ChunkStreamInfo`. -/
structure ChunkStreamInfo where
  prevHeaderRx : Option RtmpHeader := none
  baos : List UInt8 := []

/-- The receive side of `RtmpSessionInfo`.  A chunk stream that has not been
used yet is created on demand, so every id has its state. -/
structure RtmpSessionInfo where
  rxChunkSize : Int := 128
  chunkChannels : Nat → ChunkStreamInfo := fun _ => {}

/-- `RtmpDecoder` with the input that it reads. -/
structure RtmpDecoder where
  rtmpSessionInfo : RtmpSessionInfo := {}
  input : InputStream

namespace RtmpDecoder

/-- Run a reader on the input. -/
def onInput {α : Type} (reader : Method InputStream α) : Method RtmpDecoder α :=
  Method.onPart (·.input) (fun d input => { d with input }) reader

def getChunkStreamInfo (d : RtmpDecoder) (chunkStreamId : Nat) : ChunkStreamInfo :=
  d.rtmpSessionInfo.chunkChannels chunkStreamId

/-- The decoder with one chunk stream changed. -/
def setChunkStreamInfo (d : RtmpDecoder) (chunkStreamId : Nat) (info : ChunkStreamInfo) :
    RtmpDecoder :=
  { d with
    rtmpSessionInfo :=
      { d.rtmpSessionInfo with
        chunkChannels := Function.update d.rtmpSessionInfo.chunkChannels chunkStreamId info } }

/-- `ChunkStreamInfo.storePacketChunk`: whether all bytes of the message are
stored now. -/
def storePacketChunk (chunkStreamId : Nat) (chunkSize : Int) : Method RtmpDecoder Bool := do
  let info := (← get).getChunkStreamInfo chunkStreamId
  match info.prevHeaderRx with
  | none => throw .nullPointer
  | some prevHeaderRx =>
      let remainingBytes : Int := prevHeaderRx.packetLength - info.baos.length
      let size := min remainingBytes chunkSize
      if size < 0 then throw .negativeArraySize
      else
        let chunk ← onInput (readBytesUntilFull size.toNat)
        let baos := info.baos ++ chunk
        modify fun d => d.setChunkStreamInfo chunkStreamId { info with baos }
        pure (baos.length == prevHeaderRx.packetLength)

/-- `getStoredPacketInputStream()`, and the parser that reads the packet from
it. -/
def readStoredBody (header : RtmpHeader) : Method RtmpDecoder PacketBody := do
  let d ← get
  let info := d.getChunkStreamInfo header.chunkStreamId
  set (d.setChunkStreamInfo header.chunkStreamId { info with baos := [] })
  match (readBody header).run { bytes := info.baos, segments := .array } with
  | .ok body _ => pure body
  | .error e _ => throw e

/-- The end of `readPacket`: a new chunk size takes effect and is not
returned. -/
def finishPacket (header : RtmpHeader) (body : PacketBody) :
    Method RtmpDecoder (Option RtmpPacket) := do
  match body with
  | .setChunkSize chunkSize =>
      modify fun d =>
        { d with rtmpSessionInfo := { d.rtmpSessionInfo with rxChunkSize := chunkSize } }
      pure none
  | body => pure (some { header, body })

/-- The part of `readPacket` behind the header. -/
def readChunk (header : RtmpHeader) : Method RtmpDecoder (Option RtmpPacket) := do
  let rxChunkSize := (← get).rtmpSessionInfo.rxChunkSize
  if (header.packetLength : Int) > rxChunkSize then
    let complete ← storePacketChunk header.chunkStreamId rxChunkSize
    if complete then
      let body ← readStoredBody header
      finishPacket header body
    else pure none
  else
    let body ← onInput (readBody header)
    finishPacket header body

/-- `setPrevHeaderRx` on the chunk stream of the header. -/
def setPrevHeaderRx (header : RtmpHeader) (d : RtmpDecoder) : RtmpDecoder :=
  d.setChunkStreamInfo header.chunkStreamId
    { d.getChunkStreamInfo header.chunkStreamId with prevHeaderRx := some header }

/-- The previous headers of the chunk streams. -/
def prevHeaders (d : RtmpDecoder) : Nat → Option RtmpHeader :=
  fun chunkStreamId => (d.getChunkStreamInfo chunkStreamId).prevHeaderRx

/-- `RtmpDecoder.readPacket`; `none` is `null`. -/
def readPacket : Method RtmpDecoder (Option RtmpPacket) := do
  let d ← get
  let header ← onInput (readHeader d.prevHeaders)
  modify (setPrevHeaderRx header)
  readChunk header

/-- Call `readPacket` until the input is empty, at most `calls` times, and
collect the packets that it returns. -/
def readPackets : (calls : Nat) → Method RtmpDecoder (List RtmpPacket)
  | 0 => pure []
  | calls + 1 => do
      if (← get).input.bytes.isEmpty then pure []
      else
        let packet ← readPacket
        let rest ← readPackets calls
        pure (packet.toList ++ rest)

/-! ## The steps of `readPacket` -/

open Method

@[simp] theorem getChunkStreamInfo_set (d : RtmpDecoder) (chunkStreamId : Nat)
    (info : ChunkStreamInfo) :
    (d.setChunkStreamInfo chunkStreamId info).getChunkStreamInfo chunkStreamId = info := by
  simp [getChunkStreamInfo, setChunkStreamInfo]

theorem setChunkStreamInfo_set (d : RtmpDecoder) (chunkStreamId : Nat)
    (info info' : ChunkStreamInfo) :
    (d.setChunkStreamInfo chunkStreamId info).setChunkStreamInfo chunkStreamId info' =
      d.setChunkStreamInfo chunkStreamId info' := by
  simp [setChunkStreamInfo]

/-- A chunk stream that is changed before and after the input moves on. -/
theorem setChunkStreamInfo_input_set (d : RtmpDecoder) (chunkStreamId : Nat)
    (info info' : ChunkStreamInfo) (input : InputStream) :
    ({ d.setChunkStreamInfo chunkStreamId info with input } : RtmpDecoder).setChunkStreamInfo
        chunkStreamId info' =
      ({ d with input } : RtmpDecoder).setChunkStreamInfo chunkStreamId info' := by
  simp [setChunkStreamInfo]

variable {d : RtmpDecoder} {header : RtmpHeader} {info : ChunkStreamInfo} {input : InputStream}
  {chunkStreamId : Nat}

theorem setChunkStreamInfo_eq_self (h : d.getChunkStreamInfo chunkStreamId = info) :
    d.setChunkStreamInfo chunkStreamId info = d := by
  subst h
  simp [setChunkStreamInfo, getChunkStreamInfo]

theorem getChunkStreamInfo_set_of_ne (d : RtmpDecoder) {other : Nat} (h : other ≠ chunkStreamId)
    (info : ChunkStreamInfo) :
    (d.setChunkStreamInfo chunkStreamId info).getChunkStreamInfo other =
      d.getChunkStreamInfo other := by
  simp [getChunkStreamInfo, setChunkStreamInfo, h]

theorem run_onInput {α : Type} {reader : Method InputStream α} {a : α}
    (h : reader.run d.input = .ok a input) :
    (onInput reader).run d = .ok a { d with input } := run_onPart h

theorem run_onInput_error {α : Type} {reader : Method InputStream α} {e : JavaException}
    (h : reader.run d.input = .error e input) :
    (onInput reader).run d = .error e { d with input } := run_onPart_error h

theorem run_readPacket
    (h : (readHeader d.prevHeaders).run d.input = .ok header input) :
    readPacket.run d = (readChunk header).run (setPrevHeaderRx header { d with input }) := by
  rw [readPacket, run_get_bind, run_bind_ok (run_onInput h), run_modify_bind]

theorem run_storePacketChunk_eq {baos : List UInt8}
    (hinfo : d.getChunkStreamInfo chunkStreamId = ⟨some header, baos⟩) (chunkSize : Int) :
    (storePacketChunk chunkStreamId chunkSize).run d =
      (if min ((header.packetLength : Int) - baos.length) chunkSize < 0 then
        throw .negativeArraySize
      else do
        let chunk ← onInput (readBytesUntilFull
          (min ((header.packetLength : Int) - baos.length) chunkSize).toNat)
        modify fun d => d.setChunkStreamInfo chunkStreamId ⟨some header, baos ++ chunk⟩
        pure ((baos ++ chunk).length == header.packetLength) : Method RtmpDecoder Bool).run d := by
  rw [storePacketChunk, run_get_bind, hinfo]

/-- `storePacketChunk` takes the next piece of the message from the input. -/
theorem run_storePacketChunk {chunkSize : Nat} {baos rest more : List UInt8}
    (hinfo : d.getChunkStreamInfo chunkStreamId = ⟨some header, baos⟩)
    (hlen : baos.length + rest.length = header.packetLength) (hrest : 0 < rest.length)
    (hpos : 0 < chunkSize) (hin : d.input.bytes = rest.take chunkSize ++ more) :
    ∃ segments, segments.Later d.input.segments ∧
      (storePacketChunk chunkStreamId chunkSize).run d =
        .ok (decide (rest.length ≤ chunkSize))
          ({ d with input := ⟨more, segments⟩ }.setChunkStreamInfo chunkStreamId
            ⟨some header, baos ++ rest.take chunkSize⟩) := by
  have htake : (rest.take chunkSize).length = min rest.length chunkSize := by
    rw [List.length_take]
    omega
  have hsize : (min ((header.packetLength : Int) - baos.length) chunkSize).toNat =
      (rest.take chunkSize).length := by omega
  have hne : rest.take chunkSize ≠ [] := List.ne_nil_of_length_pos (by omega)
  obtain ⟨segments, hlater, hread⟩ := run_readBytesUntilFull hne more d.input.segments
  have hinput : d.input = ⟨rest.take chunkSize ++ more, d.input.segments⟩ := by
    rw [← hin]
  rw [← hinput] at hread
  have hcomplete : ((baos ++ rest.take chunkSize).length == header.packetLength) =
      decide (rest.length ≤ chunkSize) := by
    rw [List.length_append, htake]
    by_cases hle : rest.length ≤ chunkSize
    · rw [decide_eq_true hle, beq_iff_eq]
      omega
    · rw [decide_eq_false hle, beq_eq_false_iff_ne]
      omega
  refine ⟨segments, hlater, ?_⟩
  rw [run_storePacketChunk_eq hinfo, if_neg (by omega), hsize, run_bind_ok (run_onInput hread),
    run_modify_bind, run_pure, hcomplete]

theorem reads_content {whole : Prop}
    (htype : header.messageType = .audio ∨ header.messageType = .video) {body : List UInt8}
    (hlen : body.length = header.packetLength) (hne : body ≠ []) :
    Reads whole (readBody header) body (.content body) := by
  have hread : Reads whole (readBytesUntilFull header.packetLength) body body := by
    rw [← hlen]
    exact reads_readBytesUntilFull hne
  rcases htype with htype | htype
  · rw [readBody, htype]
    exact hread.map _
  · rw [readBody, htype]
    exact hread.map _

theorem run_finishPacket {value : PacketBody} (h : ∀ chunkSize, value ≠ .setChunkSize chunkSize)
    (header : RtmpHeader) (d : RtmpDecoder) :
    (finishPacket header value).run d = .ok (some { header, body := value }) d := by
  cases value with
  | setChunkSize chunkSize => exact absurd rfl (h chunkSize)
  | abort | acknowledgement | userControl | windowAckSize | setPeerBandwidth | content | command
  | data => rfl

theorem run_readChunk_of_le (hsmall : (header.packetLength : Int) ≤ d.rtmpSessionInfo.rxChunkSize) :
    (readChunk header).run d = (onInput (readBody header) >>= finishPacket header).run d := by
  rw [readChunk, run_get_bind]
  dsimp only
  rw [if_neg (by omega)]

theorem run_readChunk_of_gt (hlong : d.rtmpSessionInfo.rxChunkSize < header.packetLength) :
    (readChunk header).run d =
      (storePacketChunk header.chunkStreamId d.rtmpSessionInfo.rxChunkSize >>= fun complete =>
        if complete then readStoredBody header >>= finishPacket header else pure none).run d := by
  rw [readChunk, run_get_bind]
  dsimp only
  rw [if_pos hlong]

theorem run_readStoredBody (hinfo : d.getChunkStreamInfo header.chunkStreamId = info)
    {value : PacketBody} {left : InputStream}
    (hbody : (readBody header).run ⟨info.baos, .array⟩ = .ok value left) :
    (readStoredBody header).run d =
      .ok value (d.setChunkStreamInfo header.chunkStreamId { info with baos := [] }) := by
  rw [readStoredBody, run_get_bind, run_set_bind, hinfo, hbody, run_pure]

theorem run_readStoredBody_error (hinfo : d.getChunkStreamInfo header.chunkStreamId = info)
    {e : JavaException} {left : InputStream}
    (hbody : (readBody header).run ⟨info.baos, .array⟩ = .error e left) :
    (readStoredBody header).run d =
      .error e (d.setChunkStreamInfo header.chunkStreamId { info with baos := [] }) := by
  rw [readStoredBody, run_get_bind, run_set_bind, hinfo, hbody, run_throw]

section Part

variable {d : RtmpDecoder} {header : RtmpHeader} {chunkSize : Nat} {baos rest more : List UInt8}
  (hrx : d.rtmpSessionInfo.rxChunkSize = chunkSize) (hpos : 0 < chunkSize)
  (hlong : chunkSize < header.packetLength)
  (hinfo : d.getChunkStreamInfo header.chunkStreamId = ⟨some header, baos⟩)
  (hlen : baos.length + rest.length = header.packetLength)
include hrx hpos hlong hinfo hlen

/-- A chunk of a longer message is stored.  After the last one the stored body is read. -/
theorem run_readChunk_stored (hrest : 0 < rest.length)
    (hin : d.input.bytes = rest.take chunkSize ++ more) :
    ∃ segments, segments.Later d.input.segments ∧ (readChunk header).run d =
      (if rest.length ≤ chunkSize then readStoredBody header >>= finishPacket header
        else pure none).run
          ({ d with input := ⟨more, segments⟩ }.setChunkStreamInfo header.chunkStreamId
            ⟨some header, baos ++ rest.take chunkSize⟩) := by
  obtain ⟨segments, hlater, hstore⟩ := run_storePacketChunk hinfo hlen hrest hpos hin
  refine ⟨segments, hlater, ?_⟩
  rw [run_readChunk_of_gt (by omega), hrx, run_bind_ok hstore]
  simp only [decide_eq_true_eq]

end Part

section Chunk

variable {d : RtmpDecoder} {header : RtmpHeader} {chunkSize : Nat} {value : PacketBody}
  (hreturned : ∀ chunkSize, value ≠ .setChunkSize chunkSize)
include hreturned

/-- A chunk that holds a whole message returns it. -/
theorem run_readChunk_whole (hrx : d.rtmpSessionInfo.rxChunkSize = chunkSize)
    (hsmall : header.packetLength ≤ chunkSize) {body more : List UInt8}
    (hreads : Reads (chunkSize < header.packetLength) (readBody header) body value)
    (hin : d.input.bytes = body ++ more) :
    ∃ segments, (readChunk header).run d =
      .ok (some { header, body := value }) { d with input := ⟨more, segments⟩ } := by
  obtain ⟨segments, -, hread⟩ := hreads more d.input.segments (by omega)
  have hinput : d.input = ⟨body ++ more, d.input.segments⟩ := by
    rw [← hin]
  rw [← hinput] at hread
  refine ⟨segments, ?_⟩
  rw [run_readChunk_of_le (by omega), run_bind_ok (run_onInput hread), run_finishPacket hreturned]

/-- A chunk of a longer message is stored; the last one returns the message
and empties the buffer. -/
theorem run_readChunk_part (hrx : d.rtmpSessionInfo.rxChunkSize = chunkSize)
    (hpos : 0 < chunkSize) (hlong : chunkSize < header.packetLength)
    {baos rest more : List UInt8}
    (hreads : Reads (chunkSize < header.packetLength) (readBody header) (baos ++ rest) value)
    (hinfo : d.getChunkStreamInfo header.chunkStreamId = ⟨some header, baos⟩)
    (hlen : baos.length + rest.length = header.packetLength) (hrest : 0 < rest.length)
    (hin : d.input.bytes = rest.take chunkSize ++ more) :
    ∃ segments, (readChunk header).run d =
      if rest.length ≤ chunkSize then
        .ok (some { header, body := value })
          ({ d with input := ⟨more, segments⟩ }.setChunkStreamInfo header.chunkStreamId
            ⟨some header, []⟩)
      else
        .ok none
          ({ d with input := ⟨more, segments⟩ }.setChunkStreamInfo header.chunkStreamId
            ⟨some header, baos ++ rest.take chunkSize⟩) := by
  obtain ⟨segments, -, hrun⟩ := run_readChunk_stored hrx hpos hlong hinfo hlen hrest hin
  refine ⟨segments, ?_⟩
  by_cases hlast : rest.length ≤ chunkSize
  · have hbody := hreads.run_stored []
    rw [List.append_nil] at hbody
    rw [if_pos hlast, List.take_of_length_le hlast] at hrun
    rw [if_pos hlast, hrun, run_bind_ok (run_readStoredBody (getChunkStreamInfo_set _ _ _) hbody),
      run_finishPacket hreturned, setChunkStreamInfo_set]
  · rw [if_neg hlast] at hrun
    rw [if_neg hlast, hrun, run_pure]

end Chunk

end RtmpDecoder

/-- The decoder before the first chunk. -/
def RtmpDecoder.start (chunkSize : Nat) (bytes : List UInt8) (segments : List Nat) :
    RtmpDecoder where
  rtmpSessionInfo := { rxChunkSize := chunkSize }
  input := { bytes, segments := .network segments }

end MediasoupDemo.Rtmp
