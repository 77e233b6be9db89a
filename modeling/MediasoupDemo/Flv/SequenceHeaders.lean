import MediasoupDemo.Flv.ParameterSets
import Mathlib.Logic.Function.Basic

/-!
# Sequence headers from reused buffers

`SrsRawH264Stream` keeps the frames of a sequence header as fields and hands
out references to them.  Their buffers are allocated on the first call, and
every later call rewinds them and writes over the old bytes.  `muxFlvTag` reads
them with relative gets, which leaves their positions at the end.

Here these frames are state: `AvcMuxer` holds them, and `muxSequenceHeader` and
`muxFlvTag` are the methods of the class statement by statement.

* `Reusable` is what every call finds: a header frame is unused, or its buffer
  has the capacity of the header and no smaller limit.
* `run_muxSequenceHeader` and `muxSequenceHeader_values` say that the five
  frames hold the values of `Flv.muxSequenceHeader` afterwards, whatever they
  held before, and `run_muxFlvTag` that the tag is that of `Flv.muxFlvTag`.
* `parseVideoTag` reads an AVC video tag and the decoder configuration record
  in it, as a player does.  The bits that the format reserves are skipped.
-/

namespace MediasoupDemo.Flv

open ByteCodec MediasoupDemo.Runtime Method

/-! ## The class -/

/-- The frames that `SrsRawH264Stream` keeps, as references. -/
inductive HeaderFrame where
  | seq_hdr
  | sps_hdr
  | sps_bb
  | pps_hdr
  | pps_bb
  deriving DecidableEq

/-- `SrsRawH264Stream`, with the allocator of the muxer around it. -/
structure AvcMuxer where
  avc : HeaderFrame → SrsFlvFrameBytes := fun _ => {}
  mVideoAllocator : SrsAllocator := .new (128 * 1024)

namespace AvcMuxer

variable (ref : HeaderFrame)

/-- The muxer with one frame changed. -/
def withFrame (frame : SrsFlvFrameBytes) (m : AvcMuxer) : AvcMuxer :=
  { m with avc := Function.update m.avc ref frame }

/-- `if (frame.data == null) { frame.data = ByteBuffer.allocate(size); frame.size = size; }`. -/
def allocateOnce (size : Nat) : Method AvcMuxer Unit := do
  if ((← get).avc ref).data.isNone then
    modify (withFrame ref { data := some (.allocate size), size })

/-- A call on `frame.data` that moves its position or writes to it. -/
def onData (call : ByteBuffer → Except JavaException ByteBuffer) :
    Method AvcMuxer Unit := do
  let frame := (← get).avc ref
  let data ← MonadExcept.ofExcept frame.getData
  let data ← MonadExcept.ofExcept (call data)
  modify (withFrame ref { frame with data := some data })

/-- `frame.data.rewind()`. -/
def rewind : Method AvcMuxer Unit := onData ref fun data => pure data.rewind

/-- `frame.data.put(b)`. -/
def put (b : UInt8) : Method AvcMuxer Unit := onData ref fun data => data.put b

/-- `frame.data.putShort(x)`. -/
def putShort (x : Int) : Method AvcMuxer Unit :=
  onData ref fun data => data.putBytes (Runtime.putShort x)

/-- The part of `muxSequenceHeader` for one parameter set: the count and the
length, and a second buffer over its array. -/
def muxParameterSet (hdr bb : HeaderFrame) (unit : ByteBuffer) : Method AvcMuxer Unit := do
  allocateOnce hdr 3
  rewind hdr
  put hdr 0x01
  putShort hdr unit.array.length
  rewind hdr
  modify (withFrame bb { data := some unit.duplicate, size := unit.array.length })

/-- `muxSequenceHeader`: the references that it adds to `frames`. -/
def muxSequenceHeader (sps pps : ByteBuffer) : Method AvcMuxer (List HeaderFrame) := do
  allocateOnce .seq_hdr 5
  rewind .seq_hdr
  let profile_idc ← MonadExcept.ofExcept (sps.getAt 1)
  let level_idc ← MonadExcept.ofExcept (sps.getAt 3)
  put .seq_hdr 0x01
  put .seq_hdr profile_idc
  put .seq_hdr 0x00
  put .seq_hdr level_idc
  put .seq_hdr 0x03
  rewind .seq_hdr
  muxParameterSet .sps_hdr .sps_bb sps
  muxParameterSet .pps_hdr .pps_bb pps
  pure [.seq_hdr, .sps_hdr, .sps_bb, .pps_hdr, .pps_bb]

/-- The loop of `muxFlvTag` over the frames: a relative get from each. -/
def putFrames : List HeaderFrame → Allocation → Method AvcMuxer Allocation
  | [], allocation => pure allocation
  | ref :: frames, allocation => do
      let frame := (← get).avc ref
      let data ← MonadExcept.ofExcept frame.getData
      let allocation ← MonadExcept.ofExcept (allocation.getFrom data frame.size)
      onData ref fun data => data.skip frame.size.toNat
      putFrames frames allocation

def muxFlvTag (frames : List HeaderFrame) (frame_type : AvcFrame) (avc_packet_type : AvcType)
    (dts pts : Int) : Method AvcMuxer Allocation := do
  let m ← get
  let (allocation, mVideoAllocator) ← MonadExcept.ofExcept
    (m.mVideoAllocator.allocate (tagSize (frames.map m.avc)))
  set { m with mVideoAllocator }
  let allocation ← MonadExcept.ofExcept
    (allocation.putAll (tagHeader frame_type avc_packet_type dts pts))
  putFrames frames allocation

/-- The two calls of `writeH264SpsPps` that build the tag. -/
def sequenceHeader (sps pps : ByteBuffer) (dts pts : Int) : Method AvcMuxer Allocation := do
  let frames ← muxSequenceHeader sps pps
  muxFlvTag frames .KeyFrame .SequenceHeader dts pts

/-- The worker gives a tag back. -/
def release (tag : Allocation) : Method AvcMuxer Unit := do
  let m ← get
  let mVideoAllocator ← MonadExcept.ofExcept (m.mVideoAllocator.release tag)
  set { m with mVideoAllocator }

end AvcMuxer

/-! ## Filling a header -/

/-- A frame that is unused, or whose buffer has this capacity and no smaller
limit.  What it holds and where it stands does not matter. -/
def SrsFlvFrameBytes.Reusable (frame : SrsFlvFrameBytes) (size : Nat) : Prop :=
  frame = {} ∨ ∃ data, frame = { data := some data, size } ∧ data.limit = data.array.length ∧
    data.array.length = size

/-- A header that is being written. -/
def SrsFlvFrameBytes.Filling (frame : SrsFlvFrameBytes) (bytes : List UInt8) (room : Nat) : Prop :=
  ∃ data, frame = { data := some data, size := (bytes.length + room : Nat) } ∧
    data.Holds bytes room

namespace AvcMuxer

variable {m : AvcMuxer} {ref : HeaderFrame} {frame : SrsFlvFrameBytes} {bytes : List UInt8}
  {room : Nat}

@[simp] theorem withFrame_avc_self (m : AvcMuxer) (ref : HeaderFrame) (frame : SrsFlvFrameBytes) :
    (m.withFrame ref frame).avc ref = frame := by
  simp [withFrame]

theorem withFrame_avc_ne {other : HeaderFrame} (h : other ≠ ref) (m : AvcMuxer)
    (frame : SrsFlvFrameBytes) : (m.withFrame ref frame).avc other = m.avc other := by
  simp [withFrame, h]

@[simp] theorem withFrame_withFrame (m : AvcMuxer) (ref : HeaderFrame)
    (frame frame' : SrsFlvFrameBytes) :
    (m.withFrame ref frame).withFrame ref frame' = m.withFrame ref frame' := by
  simp [withFrame]

theorem withFrame_self (m : AvcMuxer) (ref : HeaderFrame) : m.withFrame ref (m.avc ref) = m := by
  simp [withFrame]

variable {sps : List UInt8} {data : ByteBuffer} {size : Int}

theorem run_onData {call : ByteBuffer → Except JavaException ByteBuffer} {data' : ByteBuffer}
    (hcall : call data = .ok data') :
    (onData ref call).run (m.withFrame ref { data := some data, size }) =
      .ok () (m.withFrame ref { data := some data', size }) := by
  have hdata : SrsFlvFrameBytes.getData { data := some data, size } = .ok data := rfl
  rw [onData, run_get_bind, withFrame_avc_self]
  dsimp only
  rw [run_ofExcept_bind hdata, run_ofExcept_bind hcall, run_modify, withFrame_withFrame]

/-- An unused frame gets a new buffer, and a used one keeps its own. -/
theorem run_allocateOnce {size : Nat} (h : (m.avc ref).Reusable size) :
    ∃ data : ByteBuffer, data.limit = data.array.length ∧ data.array.length = size ∧
      (allocateOnce ref size).run m = .ok () (m.withFrame ref { data := some data, size }) := by
  rw [allocateOnce, run_get_bind]
  rcases h with hnew | ⟨data, hused, hlimit, hcapacity⟩
  · refine ⟨.allocate size, rfl, by simp [ByteBuffer.allocate, ByteBuffer.wrap], ?_⟩
    rw [hnew]
    rfl
  · refine ⟨data, hlimit, hcapacity, ?_⟩
    rw [← hused, withFrame_self, hused]
    rfl

theorem run_rewind (m : AvcMuxer) (ref : HeaderFrame) (data : ByteBuffer) (size : Int) :
    (rewind ref).run (m.withFrame ref { data := some data, size }) =
      .ok () (m.withFrame ref { data := some data.rewind, size }) := by
  apply run_onData
  rfl

/-- Bytes are written behind those that are there. -/
theorem run_onData_putBytes {src : List UInt8} (h : frame.Filling bytes (room + src.length))
    (m : AvcMuxer) (ref : HeaderFrame) :
    ∃ frame', frame'.Filling (bytes ++ src) room ∧
      (onData ref fun data => data.putBytes src).run (m.withFrame ref frame) =
        .ok () (m.withFrame ref frame') := by
  obtain ⟨data, rfl, hholds⟩ := h
  rw [Nat.add_comm room] at hholds
  obtain ⟨data', hput, hholds'⟩ := hholds.putBytes
  refine ⟨_, ⟨data', rfl, hholds'⟩, ?_⟩
  have hsize : bytes.length + (room + src.length) = (bytes ++ src).length + room := by
    rw [List.length_append]
    omega
  rw [hsize, run_onData hput]

theorem run_put (h : frame.Filling bytes (room + 1)) (m : AvcMuxer) (ref : HeaderFrame)
    (b : UInt8) :
    ∃ frame', frame'.Filling (bytes ++ [b]) room ∧
      (put ref b).run (m.withFrame ref frame) = .ok () (m.withFrame ref frame') :=
  run_onData_putBytes h m ref

theorem run_putShort (h : frame.Filling bytes (room + 2)) (m : AvcMuxer) (ref : HeaderFrame)
    (x : Int) :
    ∃ frame', frame'.Filling (bytes ++ Runtime.putShort x) room ∧
      (putShort ref x).run (m.withFrame ref frame) = .ok () (m.withFrame ref frame') := by
  rw [← putShort_length x] at h
  exact run_onData_putBytes h m ref

/-- The last statement on a header leaves it to be read from the start. -/
theorem run_rewind_full (h : frame.Filling bytes 0) (m : AvcMuxer) (ref : HeaderFrame) :
    (rewind ref).run (m.withFrame ref frame) = .ok () (m.withFrame ref (frameOf bytes)) := by
  obtain ⟨data, rfl, hholds⟩ := h
  rw [run_rewind, hholds.rewind_eq]
  rfl

/-- The first two statements on a header leave it empty. -/
theorem filling_rewind {size : Nat} (hlimit : data.limit = data.array.length)
    (hcapacity : data.array.length = size) :
    SrsFlvFrameBytes.Filling { data := some data.rewind, size } [] size := by
  have hholds := ByteBuffer.holds_rewind hlimit
  rw [hcapacity] at hholds
  exact ⟨data.rewind, by simp, hholds⟩

/-- One parameter set: both of its frames are as if they were new. -/
theorem run_muxParameterSet {hdr bb : HeaderFrame} (h : (m.avc hdr).Reusable 3)
    (unit : List UInt8) :
    (muxParameterSet hdr bb (.wrap unit)).run m =
      .ok () ((m.withFrame hdr (frameOf (0x01 :: Runtime.putShort unit.length))).withFrame bb
        (frameOf unit)) := by
  obtain ⟨data, hlimit, hcapacity, hallocate⟩ := run_allocateOnce h
  have hfill := filling_rewind hlimit hcapacity
  obtain ⟨frame₁, hfill₁, hcount⟩ := run_put hfill m hdr 0x01
  obtain ⟨frame₂, hfill₂, hlength⟩ := run_putShort hfill₁ m hdr (ByteBuffer.wrap unit).array.length
  rw [muxParameterSet, run_bind_ok hallocate, run_bind_ok (run_rewind m hdr data _),
    run_bind_ok hcount, run_bind_ok hlength, run_bind_ok (run_rewind_full hfill₂ m hdr), run_modify]
  rfl

/-- The five bytes in front of the parameter sets. -/
def versionBytes (sps : List UInt8) : List UInt8 :=
  [0x01, sps.getD 1 0, 0x00, sps.getD 3 0, 0x03]

/-- What the five frames hold after `muxSequenceHeader`. -/
def headerFrames (sps pps : List UInt8) : HeaderFrame → List UInt8
  | .seq_hdr => versionBytes sps
  | .sps_hdr => 0x01 :: Runtime.putShort sps.length
  | .sps_bb => sps
  | .pps_hdr => 0x01 :: Runtime.putShort pps.length
  | .pps_bb => pps

/-- The references that `muxSequenceHeader` adds to `frames`. -/
def headerRefs : List HeaderFrame := [.seq_hdr, .sps_hdr, .sps_bb, .pps_hdr, .pps_bb]

/-- These are the frames of the sequence header as values. -/
theorem muxSequenceHeader_values (hsps : 4 ≤ sps.length) (pps : List UInt8) :
    Flv.muxSequenceHeader (.wrap sps) (.wrap pps) =
      .ok (headerRefs.map fun ref => frameOf (headerFrames sps pps ref)) := by
  rw [Flv.muxSequenceHeader, getAt_wrap_getD (by omega), getAt_wrap_getD (by omega)]
  rfl

/-- The header frames can be used once more. -/
structure Ready (m : AvcMuxer) : Prop where
  seq_hdr : (m.avc .seq_hdr).Reusable 5
  sps_hdr : (m.avc .sps_hdr).Reusable 3
  pps_hdr : (m.avc .pps_hdr).Reusable 3

/-- The frames of a sequence header do not depend on the calls before. -/
theorem run_muxSequenceHeader (h : m.Ready) (hsps : 4 ≤ sps.length) (pps : List UInt8) :
    (muxSequenceHeader (.wrap sps) (.wrap pps)).run m =
      .ok headerRefs { m with avc := fun ref => frameOf (headerFrames sps pps ref) } := by
  obtain ⟨data, hlimit, hcapacity, hallocate⟩ := run_allocateOnce h.seq_hdr
  have hfill := filling_rewind hlimit hcapacity
  obtain ⟨frame₁, hfill₁, hput₁⟩ := run_put hfill m .seq_hdr 0x01
  obtain ⟨frame₂, hfill₂, hput₂⟩ := run_put hfill₁ m .seq_hdr (sps.getD 1 0)
  obtain ⟨frame₃, hfill₃, hput₃⟩ := run_put hfill₂ m .seq_hdr 0x00
  obtain ⟨frame₄, hfill₄, hput₄⟩ := run_put hfill₃ m .seq_hdr (sps.getD 3 0)
  obtain ⟨frame₅, hfill₅, hput₅⟩ := run_put hfill₄ m .seq_hdr 0x03
  let m₁ := m.withFrame .seq_hdr (frameOf (versionBytes sps))
  have hsps₁ : (m₁.avc .sps_hdr).Reusable 3 := h.sps_hdr
  let m₂ := (m₁.withFrame .sps_hdr (frameOf (0x01 :: Runtime.putShort sps.length))).withFrame
    .sps_bb (frameOf sps)
  have hpps₂ : (m₂.avc .pps_hdr).Reusable 3 := h.pps_hdr
  rw [muxSequenceHeader, run_bind_ok hallocate, run_bind_ok (run_rewind m _ data _),
    run_ofExcept_bind (getAt_wrap_getD (by omega)), run_ofExcept_bind (getAt_wrap_getD (by omega)),
    run_bind_ok hput₁, run_bind_ok hput₂, run_bind_ok hput₃, run_bind_ok hput₄, run_bind_ok hput₅,
    run_bind_ok (run_rewind_full hfill₅ m _)]
  show (muxParameterSet _ _ _ >>= _).run m₁ = _
  rw [run_bind_ok (run_muxParameterSet hsps₁ sps)]
  show (muxParameterSet _ _ _ >>= _).run m₂ = _
  rw [run_bind_ok (run_muxParameterSet hpps₂ pps), run_pure]
  have havc : ((m₂.withFrame .pps_hdr (frameOf (0x01 :: Runtime.putShort pps.length))).withFrame
      .pps_bb (frameOf pps)).avc = fun ref => frameOf (headerFrames sps pps ref) := by
    funext ref
    cases ref <;> rfl
  rw [← havc]
  rfl

/-! ## Reading the frames -/

/-- Reading moves a position and nothing else. -/
theorem reusable_of_skip {data' : ByteBuffer} {count capacity : Nat}
    (hskip : data.skip count = .ok data')
    (h : SrsFlvFrameBytes.Reusable { data := some data, size } capacity) :
    SrsFlvFrameBytes.Reusable { data := some data', size } capacity := by
  unfold ByteBuffer.skip at hskip
  split at hskip
  · cases hskip
    rcases h with hnew | ⟨data₀, hused, hlimit, hcapacity⟩
    · simp at hnew
    · cases hused
      exact .inr ⟨_, rfl, hlimit, hcapacity⟩
  · cases hskip

/-- A relative get that returns has moved the position. -/
theorem skip_of_getFrom {a a' : Allocation} (h : a.getFrom data size = .ok a') :
    ∃ data', data.skip size.toNat = .ok data' := by
  unfold Allocation.getFrom at h
  split at h
  · cases h
  · obtain ⟨read, hread, -⟩ := bind_eq_ok h
    unfold ByteBuffer.getBytes at hread
    split at hread
    · rename_i hin
      exact ⟨_, dif_pos hin⟩
    · cases hread

/-- The tag is filled as from frames that are values, and the header frames can
be used again. -/
theorem run_putFrames (refs : List HeaderFrame) :
    ∀ {m : AvcMuxer} {a a' : Allocation}, refs.Nodup →
      Flv.putFrames (refs.map m.avc) a = .ok a' →
      ∃ avc, (putFrames refs a).run m = .ok a' { m with avc } ∧
        ∀ ref size, (m.avc ref).Reusable size → (avc ref).Reusable size := by
  induction refs with
  | nil =>
    intro m a a' _ h
    cases h
    exact ⟨m.avc, rfl, fun _ _ h => h⟩
  | cons ref refs ih =>
    intro m a a' hnodup h
    rw [List.nodup_cons] at hnodup
    rw [List.map_cons, Flv.putFrames] at h
    obtain ⟨data, hdata, h⟩ := bind_eq_ok h
    obtain ⟨a₁, hget, hrest⟩ := bind_eq_ok h
    obtain ⟨data', hskip⟩ := skip_of_getFrom hget
    have hframe : m.avc ref = { data := some data, size := (m.avc ref).size } := by
      unfold SrsFlvFrameBytes.getData at hdata
      split at hdata
      · cases hdata
      · rename_i heq
        cases hdata
        rw [← heq]
    let m₁ := m.withFrame ref { data := some data', size := (m.avc ref).size }
    have hmove : (onData ref fun data => data.skip (m.avc ref).size.toNat).run m = .ok () m₁ := by
      have hself := withFrame_self m ref
      rw [hframe] at hself
      nth_rewrite 2 [← hself]
      exact run_onData hskip
    -- The frames that are left are not the one that was read.
    have hothers : refs.map m₁.avc = refs.map m.avc := by
      apply List.map_congr_left
      intro other hmem
      have hne : other ≠ ref := by
        intro heq
        rw [heq] at hmem
        exact hnodup.1 hmem
      exact withFrame_avc_ne hne m _
    rw [← hothers] at hrest
    obtain ⟨avc, hrun, hkeep⟩ := ih hnodup.2 hrest
    refine ⟨avc, ?_, ?_⟩
    · rw [putFrames, run_get_bind]
      dsimp only
      rw [run_ofExcept_bind hdata, run_ofExcept_bind hget, run_bind_ok hmove, hrun]
      rfl
    · intro other size hother
      apply hkeep
      by_cases heq : other = ref
      · subst heq
        rw [hframe] at hother
        rw [withFrame_avc_self]
        exact reusable_of_skip hskip hother
      · rw [withFrame_avc_ne heq]
        exact hother

theorem run_muxFlvTag {refs : List HeaderFrame} (hnodup : refs.Nodup) {frame_type : AvcFrame}
    {avc_packet_type : AvcType} {dts pts : Int} {tag : Allocation} {allocator : SrsAllocator}
    (h : Flv.muxFlvTag m.mVideoAllocator (refs.map m.avc) frame_type avc_packet_type dts pts =
      .ok (tag, allocator)) :
    ∃ avc, (muxFlvTag refs frame_type avc_packet_type dts pts).run m =
        .ok tag { avc, mVideoAllocator := allocator } ∧
      ∀ ref size, (m.avc ref).Reusable size → (avc ref).Reusable size := by
  rw [Flv.muxFlvTag] at h
  obtain ⟨⟨a₀, allocator₀⟩, hallocate, h⟩ := bind_eq_ok h
  obtain ⟨a₁, hheader, h⟩ := bind_eq_ok h
  obtain ⟨a₂, hframes, h⟩ := bind_eq_ok h
  cases h
  obtain ⟨avc, hrun, hkeep⟩ := @run_putFrames refs { m with mVideoAllocator := allocator } _ _
    hnodup hframes
  refine ⟨avc, ?_, hkeep⟩
  rw [muxFlvTag, run_get_bind, run_ofExcept_bind hallocate]
  dsimp only
  rw [run_set_bind, run_ofExcept_bind hheader, hrun]

/-- What every call finds. -/
structure Invariant (m : AvcMuxer) : Prop where
  ready : m.Ready
  released : m.mVideoAllocator.Released

theorem invariant_new : Invariant {} :=
  ⟨⟨.inl rfl, .inl rfl, .inl rfl⟩, SrsAllocator.released_new _⟩

theorem reusable_frameOf (bytes : List UInt8) : (frameOf bytes).Reusable bytes.length :=
  .inr ⟨.wrap bytes, rfl, rfl, rfl⟩

/-- **One sequence header.**  Whatever was built before, the tag holds the
record of these two parameter sets. -/
theorem run_sequenceHeader (h : m.Invariant) (hsps : 4 ≤ sps.length) (pps : List UInt8)
    (dts pts : Int) :
    ∃ tag m', (sequenceHeader (.wrap sps) (.wrap pps) dts pts).run m = .ok tag m' ∧
      m'.Invariant ∧
      tag.content = tagHeader .KeyFrame .SequenceHeader dts pts ++ configurationRecord sps pps := by
  let m₁ : AvcMuxer := { m with avc := fun ref => frameOf (headerFrames sps pps ref) }
  obtain ⟨frames, contents, hvalues, hstarts, hrecord⟩ := muxSequenceHeader_eq hsps pps
  rw [muxSequenceHeader_values hsps pps] at hvalues
  cases hvalues
  obtain ⟨tag, hmux, hcontent⟩ := muxFlvTag_of_starts h.released hstarts .KeyFrame .SequenceHeader
    dts pts
  obtain ⟨avc, hrun, hkeep⟩ := @run_muxFlvTag m₁ headerRefs (by decide) _ _ _ _ _ _ hmux
  refine ⟨tag, { m with avc }, ?_, ⟨⟨?_, ?_, ?_⟩, h.released⟩, ?_⟩
  · rw [sequenceHeader, run_bind_ok (run_muxSequenceHeader h.ready hsps pps), hrun]
  · exact hkeep .seq_hdr 5 (reusable_frameOf (versionBytes sps))
  · exact hkeep .sps_hdr 3 (reusable_frameOf (0x01 :: Runtime.putShort sps.length))
  · exact hkeep .pps_hdr 3 (reusable_frameOf (0x01 :: Runtime.putShort pps.length))
  · rw [hcontent, hrecord]

end AvcMuxer

/-! ## Parsing the tag -/

/-- `AVCDecoderConfigurationRecord`, as far as every profile has it. -/
structure AvcDecoderConfiguration where
  configurationVersion : UInt8
  profileIndication : UInt8
  profileCompatibility : UInt8
  levelIndication : UInt8
  lengthSize : Nat
  sequenceParameterSets : List (List UInt8)
  pictureParameterSets : List (List UInt8)

/-- An AVC video tag with a decoder configuration. -/
structure AvcHeaderTag where
  frameType : Nat
  codecId : Nat
  packetType : UInt8
  compositionTime : Int
  configuration : AvcDecoderConfiguration

/-- Parameter sets, each behind its length in two bytes, and what follows
them. -/
def parseParameterSets : (count : Nat) → List UInt8 → Option (List (List UInt8) × List UInt8)
  | 0, bytes => some ([], bytes)
  | count + 1, high :: low :: bytes => do
      let length := beNat [high, low]
      guard (length ≤ bytes.length)
      let (sets, rest) ← parseParameterSets count (bytes.drop length)
      some (bytes.take length :: sets, rest)
  | _, _ => none

/-- A decoder configuration record, and what follows it. -/
def parseConfiguration : List UInt8 → Option (AvcDecoderConfiguration × List UInt8)
  | version :: profile :: compatibility :: level :: lengthByte :: countByte :: bytes => do
      let (sequenceParameterSets, bytes) ←
        parseParameterSets (countByte &&& 0x1f).toNat bytes
      match bytes with
      | [] => none
      | count :: bytes => do
          let (pictureParameterSets, rest) ← parseParameterSets count.toNat bytes
          some
            ({ configurationVersion := version, profileIndication := profile
               profileCompatibility := compatibility, levelIndication := level
               lengthSize := (lengthByte &&& 0x03).toNat + 1
               sequenceParameterSets, pictureParameterSets }, rest)
  | _ => none

/-- A video tag of a sequence header, and what follows it. -/
def parseVideoTag : List UInt8 → Option (AvcHeaderTag × List UInt8)
  | first :: packetType :: t₀ :: t₁ :: t₂ :: bytes => do
      let (configuration, rest) ← parseConfiguration bytes
      some
        ({ frameType := (first >>> 4).toNat, codecId := (first &&& 0x0f).toNat, packetType
           compositionTime := (beNat [t₀, t₁, t₂] : Int).bmod (2 ^ 24), configuration }, rest)
  | _ => none

/-- A pair of parameter sets that fit the record, with the times of its tag. -/
structure ParameterSetPair where
  sps : List UInt8
  pps : List UInt8
  dts : Int
  pts : Int
  four_le_sps : 4 ≤ sps.length
  sps_lt : sps.length < 2 ^ 16
  pps_pos : 0 < pps.length
  pps_lt : pps.length < 2 ^ 16

/-- The tag that a player should find for a pair: a key frame of AVC, packet
type 0, lengths of four bytes, this SPS and this PPS. -/
def ParameterSetPair.tag (pair : ParameterSetPair) : AvcHeaderTag where
  frameType := 1
  codecId := 7
  packetType := 0
  compositionTime := (pair.pts - pair.dts).bmod (2 ^ 24)
  configuration :=
    { configurationVersion := 1, profileIndication := pair.sps.getD 1 0
      profileCompatibility := 0, levelIndication := pair.sps.getD 3 0, lengthSize := 4
      sequenceParameterSets := [pair.sps], pictureParameterSets := [pair.pps] }

/-- One parameter set is read back, up to the end of the 16 bits. -/
theorem parseParameterSets_one {unit : List UInt8} (h : unit.length < 2 ^ 16)
    (rest : List UInt8) :
    parseParameterSets 1 (putShort unit.length ++ unit ++ rest) = some ([unit], rest) := by
  obtain ⟨high, low, hbytes⟩ : ∃ high low, putShort unit.length = [high, low] :=
    ⟨_, _, rfl⟩
  have hlength := beNat_putShort h
  rw [hbytes] at hlength
  rw [hbytes]
  simp [parseParameterSets, hlength]

theorem parseConfiguration_configurationRecord (pair : ParameterSetPair) :
    parseConfiguration (configurationRecord pair.sps pair.pps) =
      some (pair.tag.configuration, []) := by
  have hpps := parseParameterSets_one pair.pps_lt []
  rw [List.append_nil] at hpps
  have hsps := parseParameterSets_one pair.sps_lt (0x01 :: putShort pair.pps.length ++ pair.pps)
  have hrecord : configurationRecord pair.sps pair.pps =
      0x01 :: pair.sps.getD 1 0 :: 0x00 :: pair.sps.getD 3 0 :: 0x03 :: 0x01 ::
        (putShort pair.sps.length ++ pair.sps ++
          (0x01 :: putShort pair.pps.length ++ pair.pps)) := by
    simp [configurationRecord]
  have hone : ((0x01 : UInt8) &&& 0x1f).toNat = 1 := rfl
  have hone' : (0x01 : UInt8).toNat = 1 := rfl
  rw [hrecord, parseConfiguration, hone, hsps]
  show (parseParameterSets (0x01 : UInt8).toNat (putShort pair.pps.length ++ pair.pps) >>= _) = _
  rw [hone', hpps]
  rfl

/-- The composition time is read back as far as its three bytes reach. -/
theorem bmod_beNat_compositionTime (x : Int) :
    (beNat (beBytes 3 (int x % 2 ^ 32).toNat) : Int).bmod (2 ^ 24) = x.bmod (2 ^ 24) := by
  have hlow : (((int x % 2 ^ 32).toNat % 256 ^ 3 : Nat) : Int) = x % 2 ^ 24 := by
    unfold int
    rw [Int.bmod_def]
    split <;> omega
  rw [beNat_beBytes, hlow]
  exact Int.emod_bmod x (2 ^ 24)

theorem parseVideoTag_eq (pair : ParameterSetPair) :
    parseVideoTag (tagHeader .KeyFrame .SequenceHeader pair.dts pair.pts ++
      configurationRecord pair.sps pair.pps) = some (pair.tag, []) := by
  obtain ⟨t₀, t₁, t₂, hbytes⟩ : ∃ t₀ t₁ t₂,
      beBytes 3 (int (pair.pts - pair.dts) % 2 ^ 32).toNat = [t₀, t₁, t₂] := ⟨_, _, _, rfl⟩
  have htime := bmod_beNat_compositionTime (pair.pts - pair.dts)
  rw [hbytes] at htime
  rw [tagHeader, hbytes]
  show (parseConfiguration (configurationRecord pair.sps pair.pps) >>= _) = _
  rw [parseConfiguration_configurationRecord]
  show some (({ compositionTime := (beNat [t₀, t₁, t₂] : Int).bmod (2 ^ 24), .. } : AvcHeaderTag),
    []) = _
  rw [htime]
  rfl

/-! ## Any number of sequence headers -/

/-- The calls on one muxer. -/
inductive HeaderCall where
  | sequenceHeader (pair : ParameterSetPair)
  | release (tag : Allocation)

namespace AvcMuxer

/-- The calls one after another, and the tags that they build. -/
def buildAll : List HeaderCall → Method AvcMuxer (List Allocation)
  | [] => pure []
  | .sequenceHeader pair :: calls => do
      let tag ← sequenceHeader (.wrap pair.sps) (.wrap pair.pps) pair.dts pair.pts
      let tags ← buildAll calls
      pure (tag :: tags)
  | .release tag :: calls => do
      release tag
      buildAll calls

/-- The pairs of the sequence headers among the calls. -/
def pairs : List HeaderCall → List ParameterSetPair
  | [] => []
  | .sequenceHeader pair :: calls => pair :: pairs calls
  | .release _ :: calls => pairs calls

theorem run_buildAll (calls : List HeaderCall) :
    ∀ {m : AvcMuxer}, m.Invariant →
      ∃ tags m', (buildAll calls).run m = .ok tags m' ∧
        tags.map (fun tag => parseVideoTag tag.content) =
          (pairs calls).map fun pair => some (pair.tag, []) := by
  induction calls with
  | nil =>
    intro m _
    exact ⟨[], m, rfl, rfl⟩
  | cons call calls ih =>
    intro m h
    cases call with
    | sequenceHeader pair =>
      obtain ⟨tag, m₁, hrun, hinv, hcontent⟩ :=
        run_sequenceHeader h pair.four_le_sps pair.pps pair.dts pair.pts
      obtain ⟨tags, m', hrest, hparse⟩ := ih hinv
      refine ⟨tag :: tags, m', ?_, ?_⟩
      · rw [buildAll, run_bind_ok hrun, run_bind_ok hrest, run_pure]
      · rw [List.map_cons, hcontent, parseVideoTag_eq, hparse]
        rfl
    | release tag =>
      obtain ⟨allocator, hrelease, hreleased⟩ := SrsAllocator.release_of_released h.released tag
      have hinv : Invariant { m with mVideoAllocator := allocator } :=
        ⟨⟨h.ready.seq_hdr, h.ready.sps_hdr, h.ready.pps_hdr⟩, hreleased⟩
      obtain ⟨tags, m', hrest, hparse⟩ := ih hinv
      refine ⟨tags, m', ?_, hparse⟩
      have hrun : (release tag).run m = .ok () { m with mVideoAllocator := allocator } := by
        rw [release, run_get_bind, run_ofExcept_bind hrelease, run_set]
      rw [buildAll, run_bind_ok hrun, hrest]

/-- **Sequence headers.**  On a new muxer, any number of sequence headers are
built, with tags given back at any time in between.  Every tag parses as an AVC
video tag of its own pair of parameter sets, with nothing left over. -/
theorem parse_buildAll (calls : List HeaderCall) :
    ∃ tags m', (buildAll calls).run {} = .ok tags m' ∧
      tags.map (fun tag => parseVideoTag tag.content) =
        (pairs calls).map fun pair => some (pair.tag, []) :=
  run_buildAll calls invariant_new

end AvcMuxer

end MediasoupDemo.Flv
