import MediasoupDemo.Rtmp.Decoder
import Mathlib.Data.List.Infix

/-!
# What the decoder takes from its input

Inversions, for inputs of which nothing is known.  The readers of headers and
bodies are sequences of a few reads, and have every property that these have and
that sequences keep (`Compositional`).  One is that a reader takes some bytes from
the front of its input (`Shrinks`, and `Takes` if it returns).  The lemmas `…_eq_ok`
say what a step of `readPacket` has done if it did not throw.
-/

namespace MediasoupDemo.Runtime.InputStream

open Method

variable {α β : Type}

/-- A property of readers that the reads of a stream have and that sequences keep. -/
structure Compositional (P : ∀ {α : Type}, Method InputStream α → Prop) : Prop where
  pure : ∀ {α : Type} (a : α), P (pure a)
  throw : ∀ {α : Type} (e : JavaException), P (throw e : Method InputStream α)
  bind : ∀ {α β : Type} {x : Method InputStream α} {f : α → Method InputStream β}, P x →
    (∀ a, P (f a)) → P (x >>= f)
  read : P read
  readBytesUntilFull : ∀ size, P (readBytesUntilFull size)

namespace Compositional

variable {P : ∀ {α : Type}, Method InputStream α → Prop} (h : Compositional @P)
include h

theorem ofExcept (x : Except JavaException α) :
    P (MonadExcept.ofExcept x : Method InputStream α) := by
  cases x with
  | error e => exact h.throw e
  | ok a => exact h.pure a

theorem readByte : P readByte := h.bind h.read fun _ => h.pure _

theorem readBytes (n : Nat) : P (readBytes n) := by
  induction n with
  | zero => exact h.pure []
  | succ n ih => exact h.bind h.readByte fun _ => h.bind ih fun _ => h.pure _

theorem readUnsignedInt16 : P readUnsignedInt16 := h.bind (h.readBytes 2) fun _ => h.pure _

theorem readUnsignedInt24 : P readUnsignedInt24 := h.bind (h.readBytes 3) fun _ => h.pure _

theorem readUnsignedInt32 : P readUnsignedInt32 := h.bind (h.readBytes 4) fun _ => h.pure _

end Compositional

/-- A reader that returns leaves an end of its input. -/
def Takes (x : Method InputStream α) : Prop :=
  ∀ s a s', x.run s = .ok a s' → s'.bytes <:+ s.bytes

theorem takes_pure (a : α) : Takes (pure a) := by
  intro s b s' h
  cases h
  exact List.suffix_refl _

theorem takes_throw (e : JavaException) : Takes (throw e : Method InputStream α) := nofun

theorem Takes.bind {x : Method InputStream α} {f : α → Method InputStream β} (hx : Takes x)
    (hf : ∀ a, Takes (f a)) : Takes (x >>= f) := by
  intro s b s'' h
  obtain ⟨a, s', hfirst, hrest⟩ := run_bind_eq_ok h
  exact (hf a s' b s'' hrest).trans (hx s a s' hfirst)

theorem takes_get_bind {f : InputStream → Method InputStream β} (hf : ∀ s, Takes (f s)) :
    Takes (get >>= f) :=
  fun s b s' h => hf s s b s' h

/-- A reader leaves an end of its input, whether it returns or throws. -/
def Shrinks (x : Method InputStream α) : Prop :=
  ∀ bytes, Preserves (fun s => s.bytes <:+ bytes) x

theorem Shrinks.takes {x : Method InputStream α} (h : Shrinks x) : Takes x := by
  intro s a s' hrun
  have hfinal := h s.bytes s (List.suffix_refl _)
  rwa [final, hrun] at hfinal

theorem shrinks_get_bind {f : InputStream → Method InputStream β} (hf : ∀ s, Shrinks (f s)) :
    Shrinks (get >>= f) :=
  fun bytes s => hf s bytes s

theorem shrinks_read : Shrinks read := by
  rintro bytes ⟨data, segments⟩ h
  cases data with
  | nil => exact h
  | cons b data => exact (List.suffix_cons b data).trans h

/-- A bulk read returns what it takes. -/
theorem readSome_eq_ok {want : Nat} {s s' : InputStream} {data : Option (List UInt8)}
    (h : (readSome want).run s = .ok data s') :
    data.getD [] ++ s'.bytes = s.bytes ∧ (data.getD []).length ≤ want ∧
      (data ≠ none → 0 < want → 0 < (data.getD []).length) := by
  rw [readSome, run_get_bind] at h
  split at h
  · cases h
    exact ⟨rfl, Nat.zero_le _, by omega⟩
  · split at h
    · cases h
      exact ⟨rfl, Nat.zero_le _, fun hne => absurd rfl hne⟩
    · next hempty =>
      cases h
      have hlen : 0 < s.bytes.length := by
        rw [List.length_pos_iff]
        simpa using hempty
      refine ⟨List.take_append_drop _ _, ?_, ?_⟩
      · have hmost := s.segments.most_le want
        simp only [Option.getD_some, List.length_take]
        omega
      · intro _ hwant
        have hmost := s.segments.most_pos hwant
        simp only [Option.getD_some, List.length_take]
        omega

theorem shrinks_readSome (want : Nat) : Shrinks (readSome want) := by
  intro bytes
  refine preserves_get_bind fun s h => ?_
  split_ifs
  · exact h
  · exact h
  · exact (List.drop_suffix _ _).trans h

theorem shrinks_readBytesLoop (turns : Nat) : ∀ want, Shrinks (readBytesLoop turns want) := by
  induction turns with
  | zero => exact fun _ _ => preserves_pure _
  | succ turns ih =>
    intro want bytes
    refine (shrinks_readSome want bytes).bind fun data => ?_
    cases data with
    | none => exact preserves_throw _
    | some data =>
      dsimp only
      split_ifs
      · exact (ih _ bytes).bind fun _ => preserves_pure _
      · exact preserves_pure _

/-- `readBytesUntilFull` returns what it takes, and as much as was asked for. -/
theorem readBytesLoop_eq_ok (turns : Nat) :
    ∀ {want : Nat} {s s' : InputStream} {data : List UInt8}, want ≤ turns →
      (readBytesLoop turns want).run s = .ok data s' →
      data ++ s'.bytes = s.bytes ∧ data.length = want := by
  induction turns with
  | zero =>
    intro want s s' data hle h
    cases h
    exact ⟨rfl, by simp only [List.length_nil]; omega⟩
  | succ turns ih =>
    intro want s s' data hle h
    rw [readBytesLoop] at h
    obtain ⟨first, s₁, hfirst, hrest⟩ := run_bind_eq_ok h
    obtain ⟨hsplit, hbound, hsome⟩ := readSome_eq_ok hfirst
    cases first with
    | none => cases hrest
    | some first =>
      simp only [Option.getD_some] at hsplit hbound hsome
      dsimp only at hrest
      by_cases hlt : first.length < want
      · rw [if_pos hlt] at hrest
        -- At least one byte came, so the turns are enough for the rest.
        have hpos := hsome (Option.some_ne_none first) (by omega)
        obtain ⟨rest, s₂, hloop, hpure⟩ := run_bind_eq_ok hrest
        obtain ⟨hsplit', hlen⟩ := ih (by omega) hloop
        cases hpure
        refine ⟨?_, ?_⟩
        · rw [List.append_assoc, hsplit', hsplit]
        · rw [List.length_append, hlen]
          omega
      · rw [if_neg hlt] at hrest
        cases hrest
        exact ⟨hsplit, by omega⟩

theorem readBytesUntilFull_eq_ok {size : Nat} {s s' : InputStream} {data : List UInt8}
    (h : (readBytesUntilFull size).run s = .ok data s') :
    data ++ s'.bytes = s.bytes ∧ data.length = size :=
  readBytesLoop_eq_ok (size + 1) (Nat.le_succ size) h

theorem shrinks_readers : Compositional @Shrinks where
  pure a _ := preserves_pure a
  throw e _ := preserves_throw e
  bind hx hf bytes := (hx bytes).bind fun a => hf a bytes
  read := shrinks_read
  readBytesUntilFull size := shrinks_readBytesLoop (size + 1) size

end MediasoupDemo.Runtime.InputStream

/-! ## Readers of headers and bodies -/

namespace MediasoupDemo.Runtime.InputStream.Compositional

open Rtmp RtmpDecoder Method

variable {P : ∀ {α : Type}, Method InputStream α → Prop} (h : Compositional @P)
include h

theorem readDouble : P readDouble :=
  h.bind (h.readBytes 4) fun _ => h.bind (h.readBytes 4) fun _ => h.pure _

theorem readString : P readString :=
  h.bind h.readUnsignedInt16 fun _ => h.bind (h.readBytesUntilFull _) fun _ => h.pure _

theorem previousHeader (prevHeader : Option RtmpHeader) : P (previousHeader prevHeader) := by
  cases prevHeader with
  | none => exact h.throw _
  | some prevHeader => exact h.pure _

theorem readExtendedTimestamp (timestamp : Int) : P (readExtendedTimestamp timestamp) := by
  unfold Rtmp.readExtendedTimestamp
  split_ifs
  · exact h.readUnsignedInt32
  · exact h.pure _

theorem behindRead (prevHeaderRx : Nat → Option RtmpHeader) :
    ∃ f, Rtmp.readHeader prevHeaderRx = InputStream.read >>= f ∧ ∀ basicHeaderByte,
      P (f basicHeaderByte) := by
  refine ⟨_, rfl, fun basicHeaderByte => ?_⟩
  cases basicHeaderByte with
  | none => exact h.throw _
  | some basicHeaderByte =>
    dsimp only
    cases ChunkType.ofBasicHeader basicHeaderByte with
    | type0Full =>
      exact h.bind h.readUnsignedInt24 fun _ => h.bind h.readUnsignedInt24 fun _ =>
        h.bind h.readByte fun _ => h.bind (h.ofExcept _) fun _ =>
          h.bind (h.readBytesUntilFull 4) fun _ => h.bind (h.readExtendedTimestamp _) fun _ =>
            h.pure _
    | type1RelativeLarge =>
      exact h.bind h.readUnsignedInt24 fun _ => h.bind h.readUnsignedInt24 fun _ =>
        h.bind h.readByte fun _ => h.bind (h.ofExcept _) fun _ =>
          h.bind (h.readExtendedTimestamp _) fun _ => h.pure _
    | type2RelativeTimestampOnly =>
      exact h.bind h.readUnsignedInt24 fun _ => h.bind (h.readExtendedTimestamp _) fun _ =>
        h.bind (h.previousHeader _) fun _ => h.pure _
    | type3RelativeSingleByte =>
      exact h.bind (h.previousHeader _) fun _ => h.bind (h.readExtendedTimestamp _) fun _ =>
        h.pure _

theorem readHeader (prevHeaderRx : Nat → Option RtmpHeader) : P (readHeader prevHeaderRx) := by
  obtain ⟨f, heq, hf⟩ := h.behindRead prevHeaderRx
  rw [heq]
  exact h.bind h.read hf

variable (hget : ∀ {α : Type} {f : InputStream → Method InputStream α}, (∀ s, P (f s)) →
  P (get >>= f)) (hmarker : P readEndMarker)
include hmarker

/-- The readers of values, for every depth. -/
theorem readAmf_all (depth : Nat) :
    P (readAmf depth) ∧ (∀ properties size, P (readProperties depth properties size)) ∧
      ∀ left size, P (readItems depth left size) := by
  induction depth with
  | zero =>
    refine ⟨h.throw _, fun _ _ => h.throw _, fun left size => ?_⟩
    cases left with
    | zero => exact h.pure _
    | succ left => exact h.throw _
  | succ depth ih =>
    obtain ⟨hamf, hproperties, hitems⟩ := ih
    refine ⟨?_, ?_, ?_⟩
    · apply readAmf_succ_of (P := P)
      case behindByte => exact fun f hf => h.bind h.readByte hf
      case number => exact h.bind h.readDouble fun _ => h.pure _
      case boolean => exact h.bind h.read fun _ => h.pure _
      case string => exact h.bind h.readString fun _ => h.pure _
      case object => exact h.bind (hproperties [] 1) fun _ => h.pure _
      case null | undefined => exact h.pure _
      case map =>
        exact h.bind h.readUnsignedInt32 fun _ => h.bind (hproperties [] 1) fun _ => h.pure _
      case array =>
        refine h.bind h.readUnsignedInt32 fun length => ?_
        split_ifs
        · exact h.bind (h.throw _) fun _ => h.bind (hitems _ _) fun _ => h.pure _
        · exact h.bind (hitems _ _) fun _ => h.pure _
      case unknown => exact h.throw _
    · intro properties size
      rw [readProperties]
      refine h.bind hmarker fun marked => ?_
      cases marked with
      | true => exact h.pure _
      | false => exact h.bind h.readString fun _ => h.bind hamf fun _ => hproperties _ _
    · intro left size
      cases left with
      | zero =>
        rw [readItems]
        exact h.pure _
      | succ left =>
        rw [readItems]
        exact h.bind hamf fun _ => h.bind (hitems _ _) fun _ => h.pure _

include hget

theorem readVariableData (packetLength turns : Nat) :
    ∀ bytesAlreadyRead, P (readVariableData packetLength turns bytesAlreadyRead) := by
  induction turns with
  | zero => exact fun _ => h.pure _
  | succ turns ih =>
    intro bytesAlreadyRead
    rw [Rtmp.readVariableData]
    refine h.bind (hget fun _ => (h.readAmf_all hmarker _).1) fun dataItem => ?_
    dsimp only
    split_ifs
    · exact h.bind (ih _) fun _ => h.pure _
    · exact h.pure _

theorem readBody (header : RtmpHeader) : P (readBody header) := by
  unfold Rtmp.readBody
  cases header.messageType with
  | setChunkSize | abort | acknowledgement | windowAcknowledgementSize =>
    exact h.bind h.readUnsignedInt32 fun _ => h.pure _
  | setPeerBandwidth =>
    exact h.bind h.readUnsignedInt32 fun _ => h.bind h.read fun _ => h.pure _
  | userControlMessage =>
    refine h.bind h.readUnsignedInt16 fun type => h.bind h.readUnsignedInt32 fun first => ?_
    split_ifs
    · exact h.bind h.readUnsignedInt32 fun _ => h.pure _
    · exact h.pure _
  | audio | video => exact h.bind (h.readBytesUntilFull _) fun _ => h.pure _
  | commandAmf0 =>
    exact h.bind h.read fun _ => h.bind h.readString fun _ => h.bind h.read fun _ =>
      h.bind h.readDouble fun _ => hget fun _ =>
        h.bind (h.readVariableData hget hmarker _ _ _) fun _ => h.pure _
  | dataAmf0 =>
    exact h.bind h.read fun _ => h.bind h.readString fun _ => hget fun _ =>
      h.bind (h.readVariableData hget hmarker _ _ _) fun _ => h.pure _
  | dataAmf3 | sharedObjectAmf3 | commandAmf3 | sharedObjectAmf0 | aggregateMessage =>
    exact h.throw _

end MediasoupDemo.Runtime.InputStream.Compositional

namespace MediasoupDemo.Rtmp

open MediasoupDemo.Runtime InputStream RtmpDecoder Method

/-! ## What the readers take -/

/-- `reset()` puts back what was read since `mark`. -/
theorem shrinks_readEndMarker : Shrinks readEndMarker := by
  intro bytes
  refine preserves_get_bind fun s h => ?_
  refine final_bind_of (P := fun s : InputStream => s.bytes <:+ bytes)
    (shrinks_readSome 3 bytes s h) fun marker => ?_
  dsimp only
  split_ifs
  · exact preserves_pure _
  · exact fun _ _ => h

theorem shrinks_readBody (header : RtmpHeader) : Shrinks (readBody header) :=
  shrinks_readers.readBody shrinks_get_bind shrinks_readEndMarker header

/-- The reader returns no content. -/
def NoContent (x : Method InputStream PacketBody) : Prop :=
  ∀ s s' data, x.run s ≠ .ok (.content data) s'

theorem noContent_bind {α : Type} {x : Method InputStream α}
    {f : α → Method InputStream PacketBody} (hf : ∀ a, NoContent (f a)) : NoContent (x >>= f) := by
  intro s s' data h
  obtain ⟨a, s₁, -, hrest⟩ := run_bind_eq_ok h
  exact hf a s₁ s' data hrest

theorem noContent_pure {body : PacketBody} (h : ∀ data, body ≠ .content data) :
    NoContent (pure body) := by
  intro s s' data hrun
  cases hrun
  exact h data rfl

theorem noContent_readBody (haudio : header.messageType ≠ .audio)
    (hvideo : header.messageType ≠ .video) : NoContent (readBody header) := by
  unfold readBody
  cases htype : header.messageType with
  | audio => exact absurd htype haudio
  | video => exact absurd htype hvideo
  | setChunkSize | abort | acknowledgement | windowAcknowledgementSize | setPeerBandwidth
  | commandAmf0 | dataAmf0 =>
    repeat refine noContent_bind fun _ => ?_
    exact noContent_pure nofun
  | userControlMessage =>
    refine noContent_bind fun type => noContent_bind fun first => ?_
    split_ifs
    · exact noContent_bind fun _ => noContent_pure nofun
    · exact noContent_pure nofun
  | dataAmf3 | sharedObjectAmf3 | commandAmf3 | sharedObjectAmf0 | aggregateMessage => exact nofun

/-- Only audio and video packets have content, and it is what was taken. -/
theorem readBody_eq_content {s s' : InputStream} {data : List UInt8}
    (h : (readBody header).run s = .ok (.content data) s') : data ++ s'.bytes = s.bytes := by
  have hmedia : header.messageType = .audio ∨ header.messageType = .video := by
    by_contra hother
    rw [not_or] at hother
    exact noContent_readBody hother.1 hother.2 s s' data h
  have hcontent : ∃ bytes s₁, (readBytesUntilFull header.packetLength).run s = .ok bytes s₁ ∧
      (pure (.content bytes) : Method InputStream PacketBody).run s₁ = .ok (.content data) s' := by
    unfold readBody at h
    rcases hmedia with htype | htype
    · rw [htype] at h
      exact run_bind_eq_ok h
    · rw [htype] at h
      exact run_bind_eq_ok h
  obtain ⟨bytes, s₁, hread, hpure⟩ := hcontent
  cases hpure
  exact (readBytesUntilFull_eq_ok hread).1

/-! ## One chunk -/

namespace RtmpDecoder

/-- The bytes that are stored for every chunk stream. -/
def buffers (d : RtmpDecoder) (chunkStreamId : Nat) : List UInt8 :=
  (d.getChunkStreamInfo chunkStreamId).baos

theorem buffers_set (d : RtmpDecoder) (chunkStreamId : Nat) (info : ChunkStreamInfo) :
    (d.setChunkStreamInfo chunkStreamId info).buffers =
      Function.update d.buffers chunkStreamId info.baos := by
  funext other
  by_cases h : other = chunkStreamId
  · subst h
    rw [buffers, getChunkStreamInfo_set, Function.update_self]
  · rw [buffers, getChunkStreamInfo_set_of_ne d h, Function.update_of_ne h]
    rfl

variable {d d' : RtmpDecoder}

theorem onInput_eq_ok {α : Type} {reader : Method InputStream α} {a : α}
    (h : (onInput reader).run d = .ok a d') :
    ∃ input, reader.run d.input = .ok a input ∧ d' = { d with input } :=
  onPart_eq_ok h

variable {packet : Option RtmpPacket}

/-- The end of `readPacket` touches neither the input nor the buffers. -/
theorem finishPacket_eq_ok {body : PacketBody}
    (h : (finishPacket header body).run d = .ok packet d') :
    d'.input = d.input ∧ d'.buffers = d.buffers ∧ ∀ p, packet = some p → p.body = body := by
  by_cases hsize : ∃ chunkSize, body = .setChunkSize chunkSize
  · obtain ⟨chunkSize, rfl⟩ := hsize
    cases h
    exact ⟨rfl, rfl, fun p hp => absurd hp (Option.some_ne_none p).symm⟩
  · rw [run_finishPacket fun chunkSize heq => hsize ⟨chunkSize, heq⟩] at h
    cases h
    refine ⟨rfl, rfl, ?_⟩
    intro p hp
    cases hp
    rfl

theorem storePacketChunk_eq_ok {chunkStreamId : Nat} {chunkSize : Int}
    {complete : Bool} (h : (storePacketChunk chunkStreamId chunkSize).run d = .ok complete d') :
    ∃ prevHeaderRx data input,
      (d.getChunkStreamInfo chunkStreamId).prevHeaderRx = some prevHeaderRx ∧
      data ++ input.bytes = d.input.bytes ∧
      data.length = (min ((prevHeaderRx.packetLength : Int) -
        (d.buffers chunkStreamId).length) chunkSize).toNat ∧
      complete = ((d.buffers chunkStreamId ++ data).length == prevHeaderRx.packetLength) ∧
      d' = ({ d with input } : RtmpDecoder).setChunkStreamInfo chunkStreamId
        ⟨some prevHeaderRx, d.buffers chunkStreamId ++ data⟩ := by
  rw [storePacketChunk, run_get_bind] at h
  dsimp only at h
  cases hprev : (d.getChunkStreamInfo chunkStreamId).prevHeaderRx with
  | none =>
    rw [hprev] at h
    cases h
  | some prevHeaderRx =>
    rw [hprev] at h
    dsimp only at h
    split at h
    · cases h
    · obtain ⟨data, d₁, hinput, hrest⟩ := run_bind_eq_ok h
      obtain ⟨input, hread, rfl⟩ := onInput_eq_ok hinput
      obtain ⟨hsplit, hlen⟩ := readBytesUntilFull_eq_ok hread
      cases hrest
      exact ⟨prevHeaderRx, data, input, rfl, hsplit, hlen, rfl, rfl⟩

theorem readStoredBody_eq_ok {body : PacketBody} (h : (readStoredBody header).run d = .ok body d') :
    d'.input = d.input ∧ d'.buffers = Function.update d.buffers header.chunkStreamId [] ∧
      ∃ rest, (readBody header).run
          { bytes := d.buffers header.chunkStreamId, segments := .array } = .ok body rest := by
  rw [readStoredBody, run_get_bind, run_set_bind] at h
  cases hread : (readBody header).run
      { bytes := d.buffers header.chunkStreamId, segments := .array } with
  | ok value rest =>
    have hbody : (readBody header).run
        { bytes := (d.getChunkStreamInfo header.chunkStreamId).baos, segments := .array } =
          .ok value rest := hread
    rw [hbody] at h
    cases h
    refine ⟨rfl, ?_, rest, rfl⟩
    rw [buffers_set]
  | error e rest =>
    have hbody : (readBody header).run
        { bytes := (d.getChunkStreamInfo header.chunkStreamId).baos, segments := .array } =
          .error e rest := hread
    rw [hbody] at h
    cases h

theorem readPacket_eq_ok (h : readPacket.run d = .ok packet d') :
    ∃ header input,
      (readHeader d.prevHeaders).run d.input = .ok header input ∧
      (readChunk header).run (setPrevHeaderRx header { d with input }) = .ok packet d' := by
  rw [readPacket, run_get_bind] at h
  obtain ⟨header, d₁, hinput, hrest⟩ := run_bind_eq_ok h
  obtain ⟨input, hread, rfl⟩ := onInput_eq_ok hinput
  exact ⟨header, input, hread, hrest⟩

/-- A call that reads the header of a longer message moves bytes from the input to the buffer. -/
theorem readPacket_eq_ok_of_long {header : RtmpHeader} {input : InputStream}
    (hread : (readHeader d.prevHeaders).run d.input = .ok header input)
    (hlong : d.rtmpSessionInfo.rxChunkSize < header.packetLength)
    (h : readPacket.run d = .ok packet d') :
    ∃ data input', data ++ input'.bytes = input.bytes ∧
      data.length = (min ((header.packetLength : Int) -
        (d.buffers header.chunkStreamId).length) d.rtmpSessionInfo.rxChunkSize).toNat ∧
      (if (d.buffers header.chunkStreamId ++ data).length == header.packetLength then
          readStoredBody header >>= finishPacket header
        else pure none : Method RtmpDecoder (Option RtmpPacket)).run
        (({ d with input := input' } : RtmpDecoder).setChunkStreamInfo header.chunkStreamId
          ⟨some header, d.buffers header.chunkStreamId ++ data⟩) = .ok packet d' := by
  rw [run_readPacket hread,
    run_readChunk_of_gt (d := setPrevHeaderRx header { d with input }) hlong] at h
  obtain ⟨complete, d₁, hstore, hrest⟩ := run_bind_eq_ok h
  obtain ⟨prevHeaderRx, data, input', hprev, hsplit, hlen, rfl, rfl⟩ :=
    storePacketChunk_eq_ok hstore
  have hinfo : (setPrevHeaderRx header { d with input }).getChunkStreamInfo header.chunkStreamId =
      ⟨some header, d.buffers header.chunkStreamId⟩ := getChunkStreamInfo_set _ _ _
  have hbuffer : (setPrevHeaderRx header { d with input }).buffers header.chunkStreamId =
      d.buffers header.chunkStreamId := (congrArg ChunkStreamInfo.baos hinfo :)
  rw [hinfo] at hprev
  cases hprev
  rw [hbuffer] at hlen hrest
  rw [setPrevHeaderRx, setChunkStreamInfo_input_set] at hrest
  exact ⟨data, input', hsplit, hlen, hrest⟩

/-- The packets of a run: none, or those of the first call and of the others. -/
theorem readPackets_eq_ok {calls : Nat} {packets : List RtmpPacket}
    (h : (readPackets (calls + 1)).run d = .ok packets d') :
    packets = [] ∨ ∃ packet d₁ rest, readPacket.run d = .ok packet d₁ ∧
      (readPackets calls).run d₁ = .ok rest d' ∧ packets = packet.toList ++ rest := by
  rw [readPackets, run_get_bind] at h
  split at h
  · cases h
    exact .inl rfl
  · obtain ⟨packet, d₁, hone, hrest⟩ := run_bind_eq_ok h
    obtain ⟨rest, d₂, hmore, hpure⟩ := run_bind_eq_ok hrest
    cases hpure
    exact .inr ⟨packet, d₁, rest, hone, hmore, rfl⟩

theorem buffers_setPrevHeaderRx (header : RtmpHeader) (d : RtmpDecoder) :
    (setPrevHeaderRx header d).buffers = d.buffers := by
  rw [setPrevHeaderRx, buffers_set]
  exact Function.update_eq_self _ _

end RtmpDecoder

end MediasoupDemo.Rtmp
