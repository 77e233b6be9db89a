import MediasoupDemo.Rtmp.Consumption
import MediasoupDemo.Rtmp.Messages

/-!
# What a call of `readPacket` may throw

The loop that receives packets catches `IOException` and nothing else.  A call is safe
(`SafeCall`) if it throws nothing else, and if it returns a packet only when the input held
the whole chunk.

Four things go wrong.

* A header of type 2 or 3 uses the previous header of its chunk stream without looking
  whether there is one.  A header of type 0 or 1 with an unknown message type, or one that
  ends before it, throws an `IllegalArgumentException` (`HeaderSound`).
* `storePacketChunk` makes an array of a negative size if the chunk size is negative, or if
  more bytes are stored than the message has (`ChunkSound`).
* The end of the stream is read as `0xff`, so a control message that is cut is returned
  (`BodySound`).
* The values of commands and data messages are read without regard to the length of the
  message, and their types without a check.  A message that is well formed and all there is
  read safely (`MessageSound`).

`Sound` is enough for a safe call.  It is exact but for the body of a command or a data message:
what becomes of a malformed one depends on the whole run of the reader of values.
-/

namespace MediasoupDemo.Runtime

/-- `IOException`, or `EOFException` or `SocketException`, which are. -/
def JavaException.Checked : JavaException → Prop
  | .io _ | .eof _ | .socket _ => True
  | .nullPointer | .indexOutOfBounds | .bufferUnderflow | .bufferOverflow | .negativeArraySize
  | .illegalArgument _ | .illegalState _ | .classCast => False

namespace InputStream

open ByteCodec Method

variable {α β : Type}

/-- The reader returns on every stream, and takes `n` bytes as far as they are there. -/
def Drops (x : Method InputStream α) (n : Nat) : Prop :=
  ∀ s, ∃ a, x.run s = .ok a { s with bytes := s.bytes.drop n }

theorem drops_pure (a : α) : Drops (pure a) 0 := fun _ => ⟨a, rfl⟩

theorem Drops.bind {x : Method InputStream α} {f : α → Method InputStream β} {n m : Nat}
    (hx : Drops x n) (hf : ∀ a, Drops (f a) m) : Drops (x >>= f) (n + m) := by
  intro s
  obtain ⟨a, hfirst⟩ := hx s
  obtain ⟨b, hsecond⟩ := hf a { s with bytes := s.bytes.drop n }
  refine ⟨b, ?_⟩
  rw [run_bind_ok hfirst, hsecond, List.drop_drop]

theorem Drops.map {x : Method InputStream α} {n : Nat} (hx : Drops x n) (g : α → β) :
    Drops (x >>= fun a => pure (g a)) n := hx.bind fun a => drops_pure (g a)

theorem drops_read : Drops read 1 := by
  rintro ⟨bytes, segments⟩
  cases bytes with
  | nil => exact ⟨none, rfl⟩
  | cons b bytes => exact ⟨some b, rfl⟩

theorem drops_readBytes (n : Nat) : Drops (readBytes n) n := by
  induction n with
  | zero => exact drops_pure []
  | succ n ih =>
    have hall := (drops_read.map fun b => b.getD 0xff).bind fun b =>
      ih.map fun bytes => b :: bytes
    rw [Nat.add_comm] at hall
    exact hall

theorem drops_readUnsignedInt24 : Drops readUnsignedInt24 3 := (drops_readBytes 3).map _

theorem drops_readUnsignedInt32 : Drops readUnsignedInt32 4 := (drops_readBytes 4).map _

theorem run_readByte_any (s : InputStream) :
    readByte.run s = .ok (s.bytes[0]?.getD 0xff) { s with bytes := s.bytes.drop 1 } := by
  obtain ⟨bytes, segments⟩ := s
  cases bytes <;> rfl

theorem readBytesLoop_checked (turns : Nat) :
    ∀ {want : Nat} {s s' : InputStream} {e : JavaException},
      (readBytesLoop turns want).run s = .error e s' → e.Checked := by
  induction turns with
  | zero =>
    intro want s s' e h
    cases h
  | succ turns ih =>
    intro want s s' e h
    rw [readBytesLoop] at h
    cases hread : (readSome want).run s with
    | error e₁ s₁ =>
      rw [readSome, run_get_bind] at hread
      split_ifs at hread <;> cases hread
    | ok data s₁ =>
      rw [run_bind_ok hread] at h
      cases data with
      | none =>
        cases h
        trivial
      | some data =>
        dsimp only at h
        split_ifs at h
        · cases hrest : (readBytesLoop turns (want - data.length)).run s₁ with
          | error e₂ s₂ =>
            rw [run_bind_error hrest] at h
            cases h
            exact ih hrest
          | ok rest s₂ =>
            rw [run_bind_ok hrest] at h
            cases h
        · cases h

/-- Only an `IOException` is thrown. -/
theorem readBytesUntilFull_checked {size : Nat} {s s' : InputStream} {e : JavaException}
    (h : (readBytesUntilFull size).run s = .error e s') : e.Checked :=
  readBytesLoop_checked (size + 1) h

theorem run_readBytesUntilFull_of_le {size : Nat} {s : InputStream} (hle : size ≤ s.bytes.length)
    (hsize : s.segments = .array → 0 < size) :
    ∃ segments, segments.Later s.segments ∧ (readBytesUntilFull size).run s =
      .ok (s.bytes.take size) ⟨s.bytes.drop size, segments⟩ := by
  obtain ⟨bytes, segments⟩ := s
  by_cases hpos : 0 < size
  · have hlen : (bytes.take size).length = size := by
      rw [List.length_take]
      exact Nat.min_eq_left hle
    have hne : bytes.take size ≠ [] := List.ne_nil_of_length_pos (by omega)
    have hrun := run_readBytesUntilFull hne (bytes.drop size) segments
    rw [List.take_append_drop, hlen] at hrun
    exact hrun
  · have hzero : size = 0 := by omega
    subst hzero
    refine ⟨segments, .refl _, run_readBytesUntilFull_zero fun harray => ?_⟩
    exact absurd (hsize harray) (by omega)

/-- A field of three bytes, read as all ones just when it is that, if it is there. -/
theorem run_readUnsignedInt24_any (s : InputStream) :
    ∃ value : Int, readUnsignedInt24.run s = .ok value { s with bytes := s.bytes.drop 3 } ∧
      (3 ≤ s.bytes.length → (value ≥ 0xffffff ↔ s.bytes.take 3 = [0xff, 0xff, 0xff])) := by
  obtain ⟨value, hrun⟩ := drops_readUnsignedInt24 s
  refine ⟨value, hrun, ?_⟩
  intro hle
  obtain ⟨bytes, segments⟩ := s
  obtain ⟨a, b, c, rest, rfl⟩ : ∃ a b c rest, bytes = a :: b :: c :: rest := by
    match bytes, hle with
    | a :: b :: c :: rest, _ => exact ⟨a, b, c, rest, rfl⟩
  have hfield : readUnsignedInt24.run ⟨[a, b, c] ++ rest, segments⟩ =
      .ok (beNat [a, b, c]) ⟨rest, segments⟩ := run_readUnsignedInt24 rfl rest segments
  have hvalue : value = beNat [a, b, c] := by
    have heq := hrun.symm.trans hfield
    injection heq
  have ha := a.toNat_lt
  have hb := b.toNat_lt
  have hc := c.toNat_lt
  have hnat : beNat [a, b, c] = a.toNat * 65536 + (b.toNat * 256 + c.toNat) := by
    simp [beNat]
  rw [hvalue, hnat]
  show _ ↔ [a, b, c] = [0xff, 0xff, 0xff]
  constructor
  · intro hall
    have ha' : a = 0xff := UInt8.toNat_inj.mp (by show a.toNat = 255; omega)
    have hb' : b = 0xff := UInt8.toNat_inj.mp (by show b.toNat = 255; omega)
    have hc' : c = 0xff := UInt8.toNat_inj.mp (by show c.toNat = 255; omega)
    rw [ha', hb', hc']
  · intro hall
    injection hall with ha' hrest
    injection hrest with hb' hrest
    injection hrest with hc' _
    subst ha' hb' hc'
    decide

end InputStream

end MediasoupDemo.Runtime

namespace MediasoupDemo.Rtmp

open MediasoupDemo.Runtime InputStream RtmpDecoder Method

/-! ## Headers -/

/-- The bytes of an extended timestamp behind a field of the header. -/
def extension (field : List UInt8) : Nat := if field.take 3 = [0xff, 0xff, 0xff] then 4 else 0

/-- The number of bytes of the header that the input starts with. -/
def headerLength (prevHeaderRx : Nat → Option RtmpHeader) : List UInt8 → Nat
  | [] => 1
  | basicHeaderByte :: rest =>
      match ChunkType.ofBasicHeader basicHeaderByte with
      | .type0Full => 12 + extension rest
      | .type1RelativeLarge => 8 + extension rest
      | .type2RelativeTimestampOnly => 4 + extension rest
      | .type3RelativeSingleByte =>
          if (prevHeaderRx (basicHeaderByte &&& 0x3f).toNat).any (·.timestampDelta ≥ 0xffffff)
          then 5
          else 1

/-- A header of type 0 or 1 has a known message type, and one of type 2 or 3 a previous one. -/
def HeaderSound (prevHeaderRx : Nat → Option RtmpHeader) : List UInt8 → Prop
  | [] => True
  | basicHeaderByte :: rest =>
      match ChunkType.ofBasicHeader basicHeaderByte with
      | .type0Full | .type1RelativeLarge =>
          ∃ messageType : MessageType, rest[6]? = some messageType.getValue
      | .type2RelativeTimestampOnly | .type3RelativeSingleByte =>
          prevHeaderRx (basicHeaderByte &&& 0x3f).toNat ≠ none

/-- How the reading of a header of `length` bytes ends. -/
structure HeaderRun (x : Method InputStream RtmpHeader) (s : InputStream) (sound : Prop)
    (length : Nat) : Prop where
  unsound : ¬ sound → ∃ e s', x.run s = .error e s' ∧ ¬ e.Checked
  checked : sound → ∀ e s', x.run s = .error e s' → e.Checked
  /-- nothing is left behind a header that is cut -/
  cut : ∀ h s', x.run s = .ok h s' → s.bytes.length < length → s'.bytes = []
  network : ∀ h s', x.run s = .ok h s' → s.segments ≠ .array → s'.segments ≠ .array

variable {e : JavaException}

section Outcomes

variable {x : Method InputStream RtmpHeader} {s s' : InputStream} {sound : Prop} {length : Nat}

theorem headerRun_error (h : x.run s = .error e s') (hsound : sound ↔ e.Checked) :
    HeaderRun x s sound length where
  unsound hunsound := ⟨e, s', h, fun hchecked => hunsound (hsound.mpr hchecked)⟩
  checked hs e' s'' hrun := by
    cases h.symm.trans hrun
    exact hsound.mp hs
  cut header s'' hrun := by cases h.symm.trans hrun
  network header s'' hrun := by cases h.symm.trans hrun

theorem headerRun_ok {header : RtmpHeader} (h : x.run s = .ok header s') (hsound : sound)
    (hcut : s.bytes.length < length → s'.bytes = [])
    (hnetwork : s.segments ≠ .array → s'.segments ≠ .array) : HeaderRun x s sound length where
  unsound hunsound := absurd hsound hunsound
  checked _ e s'' hrun := by cases h.symm.trans hrun
  cut header' s'' hrun := by
    cases h.symm.trans hrun
    exact hcut
  network header' s'' hrun := by
    cases h.symm.trans hrun
    exact hnetwork

end Outcomes

theorem drops_readExtendedTimestamp (timestamp : Int) :
    Drops (readExtendedTimestamp timestamp) (if timestamp ≥ 0xffffff then 4 else 0) := by
  unfold readExtendedTimestamp
  split_ifs
  · exact drops_readUnsignedInt32
  · exact drops_pure 0

/-- Nothing is left behind a header that is cut, whether it was cut in its timestamp or behind. -/
theorem drop_eq_nil_of_cut {bytes : List UInt8} {timestamp : Int} {k : Nat} (hk : 3 ≤ k)
    (hfield : 3 ≤ bytes.length → (timestamp ≥ 0xffffff ↔ bytes.take 3 = [0xff, 0xff, 0xff]))
    (hcut : bytes.length < k + extension bytes) :
    bytes.drop (k + if timestamp ≥ 0xffffff then 4 else 0) = [] := by
  apply List.drop_eq_nil_of_le
  by_cases hle : 3 ≤ bytes.length
  · rw [extension] at hcut
    simp only [hfield hle]
    exact Nat.le_of_lt hcut
  · omega

/-- A message type is known or refused with an `IllegalArgumentException`. -/
theorem valueOf_cases (b : UInt8) :
    (∃ messageType, b = messageType.getValue ∧ MessageType.valueOf b = .ok messageType) ∨
      (∀ messageType : MessageType, b ≠ messageType.getValue) ∧
        ∃ message, MessageType.valueOf b = .error (.illegalArgument message) := by
  by_cases hknown : ∃ messageType : MessageType, b = messageType.getValue
  · obtain ⟨messageType, rfl⟩ := hknown
    exact .inl ⟨messageType, rfl, messageType.valueOf_getValue⟩
  · refine .inr ⟨fun messageType h => hknown ⟨messageType, h⟩, ?_⟩
    have hfind : MessageType.values.find? (fun t => t.getValue == b) = none := by
      rw [List.find?_eq_none]
      intro t _ ht
      exact hknown ⟨t, (beq_iff_eq.mp ht).symm⟩
    rw [MessageType.valueOf, hfind]
    exact ⟨_, rfl⟩

/-- The end of the stream is read as `0xff`, which is no message type. -/
theorem eq_some_of_getD {byte : Option UInt8} {messageType : MessageType}
    (h : byte.getD 0xff = messageType.getValue) : byte = some messageType.getValue := by
  cases byte with
  | none => cases messageType <;> cases h
  | some b => exact congrArg some h

section Types

variable (chunkStreamId : Nat) (s : InputStream)

/-- What the types 0 and 1 have in common: a timestamp, a length and a message type in front of
the rest. -/
theorem headerRun_typed {rest : Int → Int → MessageType → Method InputStream RtmpHeader} {n : Nat}
    (hchecked : ∀ timestamp length messageType s e s',
      (rest timestamp length messageType).run s = .error e s' → e.Checked)
    (hdrops : ∀ timestamp length messageType s h s',
      (rest timestamp length messageType).run s = .ok h s' →
        s'.bytes = s.bytes.drop (n + if timestamp ≥ 0xffffff then 4 else 0) ∧
          (s.segments ≠ .array → s'.segments ≠ .array)) :
    HeaderRun (do
      let timestamp ← readUnsignedInt24
      let packetLength ← readUnsignedInt24
      let messageType ← MonadExcept.ofExcept (MessageType.valueOf (← readByte))
      rest timestamp packetLength messageType) s
      (∃ messageType : MessageType, s.bytes[6]? = some messageType.getValue)
      (7 + n + extension s.bytes) := by
  obtain ⟨timestamp, hfirst, hfield⟩ := run_readUnsignedInt24_any s
  obtain ⟨length, hsecond⟩ := drops_readUnsignedInt24 { s with bytes := s.bytes.drop 3 }
  have hbyte := run_readByte_any { s with bytes := (s.bytes.drop 3).drop 3 }
  have hindex : ((s.bytes.drop 3).drop 3)[0]? = s.bytes[6]? := by
    rw [List.drop_drop, List.getElem?_drop]
  dsimp only at hbyte
  rw [hindex, List.drop_drop, List.drop_drop] at hbyte
  rw [List.drop_drop] at hsecond
  have hrun : ∀ {β : Type} (f : Int → Int → UInt8 → Method InputStream β),
      (do
        let timestamp ← readUnsignedInt24
        let packetLength ← readUnsignedInt24
        let b ← readByte
        f timestamp packetLength b).run s =
      (f timestamp length (s.bytes[6]?.getD 0xff)).run
        { s with bytes := s.bytes.drop (3 + (3 + 1)) } := by
    intro β f
    rw [run_bind_ok hfirst, run_bind_ok hsecond, run_bind_ok hbyte]
  rcases valueOf_cases (s.bytes[6]?.getD 0xff) with
    ⟨messageType, hvalue, hok⟩ | ⟨hunknown, message, herror⟩
  · have hbehind := (hrun fun timestamp length b =>
      MonadExcept.ofExcept (MessageType.valueOf b) >>= rest timestamp length).trans
      (run_ofExcept_bind hok _ _)
    have hsound : ∃ messageType : MessageType, s.bytes[6]? = some messageType.getValue :=
      ⟨messageType, eq_some_of_getD hvalue⟩
    cases hrest : (rest timestamp length messageType).run
        { s with bytes := s.bytes.drop (3 + (3 + 1)) } with
    | error e s' =>
      exact headerRun_error (hbehind.trans hrest)
        (iff_of_true hsound (hchecked _ _ _ _ _ _ hrest))
    | ok header s' =>
      obtain ⟨hleft, hnetwork⟩ := hdrops _ _ _ _ _ _ hrest
      refine headerRun_ok (hbehind.trans hrest) hsound (fun hcut => ?_) hnetwork
      rw [hleft]
      dsimp only
      rw [List.drop_drop, ← Nat.add_assoc]
      exact drop_eq_nil_of_cut (by omega) hfield hcut
  · have hthrown := (hrun fun timestamp length b =>
      MonadExcept.ofExcept (MessageType.valueOf b) >>= rest timestamp length).trans
      (run_ofExcept_bind_error herror _ _)
    refine headerRun_error hthrown (iff_of_false ?_ not_false)
    rintro ⟨messageType, hsix⟩
    rw [hsix] at hunknown
    exact hunknown messageType rfl

/-- Behind the message type a full header has the message stream id, which is read by a bulk
read. -/
theorem headerRun_full :
    HeaderRun (readFullHeader chunkStreamId) s
      (∃ messageType : MessageType, s.bytes[6]? = some messageType.getValue)
      (11 + extension s.bytes) := by
  apply headerRun_typed s (n := 4)
  · intro timestamp length messageType s e s' h
    cases hstream : (readBytesUntilFull 4).run s with
    | error e₁ s₁ =>
      rw [run_bind_error hstream] at h
      cases h
      exact readBytesUntilFull_checked hstream
    | ok messageStreamId s₁ =>
      obtain ⟨extended, hextended⟩ := drops_readExtendedTimestamp timestamp s₁
      rw [run_bind_ok hstream, run_bind_ok hextended] at h
      cases h
  · intro timestamp length messageType s h s' hrun
    obtain ⟨messageStreamId, s₁, hstream, hrest⟩ := run_bind_eq_ok hrun
    obtain ⟨hsplit, hlength⟩ := readBytesUntilFull_eq_ok hstream
    obtain ⟨segments, hlater, hnetwork⟩ := @run_readBytesUntilFull_of_le 4 s
      (by rw [← hsplit, List.length_append]; omega) fun _ => by decide
    obtain ⟨extended, hextended⟩ := drops_readExtendedTimestamp timestamp s₁
    rw [run_bind_ok hextended] at hrest
    cases hrest
    cases hstream.symm.trans hnetwork
    refine ⟨List.drop_drop, fun hsegments harray => hsegments ?_⟩
    exact hlater.eq_array_of_eq harray

variable (prevHeader : Option RtmpHeader)

theorem headerRun_large :
    HeaderRun (readLargeHeader chunkStreamId prevHeader) s
      (∃ messageType : MessageType, s.bytes[6]? = some messageType.getValue)
      (7 + extension s.bytes) := by
  apply headerRun_typed s (n := 0)
  · intro timestamp length messageType s e s' h
    obtain ⟨extended, hextended⟩ := drops_readExtendedTimestamp timestamp s
    rw [run_bind_ok hextended] at h
    cases h
  · intro timestamp length messageType s h s' hrun
    obtain ⟨extended, hextended⟩ := drops_readExtendedTimestamp timestamp s
    rw [run_bind_ok hextended] at hrun
    cases hrun
    rw [Nat.zero_add]
    exact ⟨rfl, id⟩

theorem headerRun_timestamp :
    HeaderRun (readTimestampHeader chunkStreamId prevHeader) s (prevHeader ≠ none)
      (3 + extension s.bytes) := by
  obtain ⟨timestamp, hfirst, hfield⟩ := run_readUnsignedInt24_any s
  obtain ⟨extended, hextended⟩ := drops_readExtendedTimestamp timestamp
    { s with bytes := s.bytes.drop 3 }
  rw [List.drop_drop] at hextended
  cases prevHeader with
  | none =>
    have hthrown : (readTimestampHeader chunkStreamId none).run s = .error .nullPointer
        { s with bytes := s.bytes.drop (3 + if timestamp ≥ 0xffffff then 4 else 0) } := by
      rw [readTimestampHeader, run_bind_ok hfirst, run_bind_ok hextended]
      rfl
    exact headerRun_error hthrown (iff_of_false (fun hsound => hsound rfl) not_false)
  | some prevHeader =>
    have hread : ∃ header, (readTimestampHeader chunkStreamId (some prevHeader)).run s = .ok header
        { s with bytes := s.bytes.drop (3 + if timestamp ≥ 0xffffff then 4 else 0) } := by
      rw [readTimestampHeader, run_bind_ok hfirst, run_bind_ok hextended]
      exact ⟨_, rfl⟩
    obtain ⟨header, hread⟩ := hread
    exact headerRun_ok hread (Option.some_ne_none prevHeader)
      (drop_eq_nil_of_cut le_rfl hfield) id

theorem headerRun_singleByte :
    HeaderRun (readSingleByteHeader chunkStreamId prevHeader) s (prevHeader ≠ none)
      (if prevHeader.any (·.timestampDelta ≥ 0xffffff) then 4 else 0) := by
  cases prevHeader with
  | none =>
    have hthrown : (readSingleByteHeader chunkStreamId none).run s = .error .nullPointer s := rfl
    exact headerRun_error hthrown (iff_of_false (fun hsound => hsound rfl) not_false)
  | some prevHeader =>
    obtain ⟨extended, hextended⟩ := drops_readExtendedTimestamp prevHeader.timestampDelta s
    have hread : ∃ header, (readSingleByteHeader chunkStreamId (some prevHeader)).run s = .ok header
        { s with
          bytes := s.bytes.drop (if prevHeader.timestampDelta ≥ 0xffffff then 4 else 0) } := by
      rw [readSingleByteHeader, previousHeader, run_bind_ok (run_pure _ _), run_bind_ok hextended]
      exact ⟨_, rfl⟩
    obtain ⟨header, hread⟩ := hread
    refine headerRun_ok hread (Option.some_ne_none prevHeader) (fun hcut => ?_) id
    simp only [Option.any_some, decide_eq_true_eq] at hcut
    exact List.drop_eq_nil_of_le (Nat.le_of_lt hcut)

end Types

/-- The same behind a byte that is there. -/
theorem HeaderRun.cons {x y : Method InputStream RtmpHeader} {b : UInt8} {rest : List UInt8}
    {segments : Segments} {sound : Prop} {length : Nat}
    (h : HeaderRun x ⟨rest, segments⟩ sound length)
    (hrun : y.run ⟨b :: rest, segments⟩ = x.run ⟨rest, segments⟩) :
    HeaderRun y ⟨b :: rest, segments⟩ sound (1 + length) where
  unsound := hrun ▸ h.unsound
  checked := hrun ▸ h.checked
  cut header s' hread hcut := by
    rw [hrun] at hread
    apply h.cut header s' hread
    rw [List.length_cons] at hcut
    show rest.length < length
    omega
  network := hrun ▸ h.network

theorem headerRun_readHeader (prevHeaderRx : Nat → Option RtmpHeader) (b : UInt8)
    (rest : List UInt8) (segments : Segments) :
    HeaderRun (readHeader prevHeaderRx) ⟨b :: rest, segments⟩ (HeaderSound prevHeaderRx (b :: rest))
      (headerLength prevHeaderRx (b :: rest)) := by
  have hrun : (readHeader prevHeaderRx).run ⟨b :: rest, segments⟩ = _ :=
    run_bind_ok (run_read b rest segments) _
  rw [HeaderSound, headerLength]
  cases htype : ChunkType.ofBasicHeader b with
  | type0Full =>
    simp only [htype] at hrun
    have hall := (headerRun_full (b &&& 0x3f).toNat ⟨rest, segments⟩).cons hrun
    rwa [← Nat.add_assoc] at hall
  | type1RelativeLarge =>
    simp only [htype] at hrun
    have hall := (headerRun_large (b &&& 0x3f).toNat ⟨rest, segments⟩ _).cons hrun
    rwa [← Nat.add_assoc] at hall
  | type2RelativeTimestampOnly =>
    simp only [htype] at hrun
    have hall := (headerRun_timestamp (b &&& 0x3f).toNat ⟨rest, segments⟩ _).cons hrun
    rwa [← Nat.add_assoc] at hall
  | type3RelativeSingleByte =>
    simp only [htype] at hrun
    have hall := (headerRun_singleByte (b &&& 0x3f).toNat ⟨rest, segments⟩ _).cons hrun
    have hlength : ∀ p : Bool, (1 + if p = true then 4 else 0) = if p = true then 5 else 1 := by
      decide
    rwa [hlength] at hall

/-! ## Bodies -/

/-- The body is read or an `IOException` is thrown, and what is read is returned only if it was
`whole`.  A new chunk size is not returned. -/
def ReadsSafely (h : RtmpHeader) (s : InputStream) (whole : Prop) : Prop :=
  (∀ e s', (readBody h).run s = .error e s' → e.Checked) ∧
    ∀ body s', (readBody h).run s = .ok body s' → (∀ size, body ≠ .setChunkSize size) → whole

section Bodies

variable {h : RtmpHeader} {s s' : InputStream} {whole : Prop}

theorem readsSafely_of_error (hrun : (readBody h).run s = .error e s') :
    ReadsSafely h s whole ↔ e.Checked := by
  simp [ReadsSafely, hrun]

theorem readsSafely_of_ok {body : PacketBody} (hrun : (readBody h).run s = .ok body s') :
    ReadsSafely h s whole ↔ ((∀ size, body ≠ .setChunkSize size) → whole) := by
  simp [ReadsSafely, hrun]

/-- The reader returns a body on every stream, and it is not a new chunk size. -/
def Returned (x : Method InputStream PacketBody) : Prop :=
  ∀ s, ∃ body s', x.run s = .ok body s' ∧ ∀ size, body ≠ .setChunkSize size

theorem Returned.bind {α : Type} {x : Method InputStream α} {n : Nat}
    {f : α → Method InputStream PacketBody} (hx : Drops x n) (hf : ∀ a, Returned (f a)) :
    Returned (x >>= f) := by
  intro s
  obtain ⟨a, hfirst⟩ := hx s
  rw [run_bind_ok hfirst]
  exact hf a _

theorem readsSafely_content (htype : h.messageType = .audio ∨ h.messageType = .video)
    (hsize : s.segments = .array → 0 < h.packetLength) :
    ReadsSafely h s whole ↔ (h.packetLength ≤ s.bytes.length → whole) := by
  have hbody : readBody h =
      (readBytesUntilFull h.packetLength >>= fun data => pure (PacketBody.content data)) := by
    rcases htype with htype | htype <;> rw [readBody, htype]
  by_cases hle : h.packetLength ≤ s.bytes.length
  · obtain ⟨segments, -, hread⟩ := run_readBytesUntilFull_of_le hle hsize
    have hrun : (readBody h).run s = .ok (.content (s.bytes.take h.packetLength))
        ⟨s.bytes.drop h.packetLength, segments⟩ := by
      rw [hbody, run_bind_ok hread, run_pure]
    rw [readsSafely_of_ok hrun]
    exact ⟨fun hwhole _ => hwhole fun size => PacketBody.noConfusion, fun hwhole _ => hwhole hle⟩
  · cases hread : (readBytesUntilFull h.packetLength).run s with
    | error e s' =>
      have hrun : (readBody h).run s = .error e s' := by
        rw [hbody, run_bind_error hread]
      rw [readsSafely_of_error hrun]
      exact iff_of_true (readBytesUntilFull_checked hread) fun h => absurd h hle
    | ok data s' =>
      -- As many bytes were read as the header counts.
      obtain ⟨hsplit, hlength⟩ := readBytesUntilFull_eq_ok hread
      rw [← hsplit, List.length_append] at hle
      omega

end Bodies

/-! ## Calls -/

namespace RtmpDecoder

/-- The input holds the header that it starts with. -/
def HoldsHeader (d : RtmpDecoder) : Prop :=
  headerLength d.prevHeaders d.input.bytes ≤ d.input.bytes.length

/-- The number of bytes behind a header that belong to its chunk. -/
def payload (d : RtmpDecoder) (h : RtmpHeader) : Nat :=
  if d.rtmpSessionInfo.rxChunkSize < h.packetLength then
    (min ((h.packetLength : Int) - (d.buffers h.chunkStreamId).length)
      d.rtmpSessionInfo.rxChunkSize).toNat
  else h.packetLength

/-- The input does not end inside the header or the body of the chunk that it starts with. -/
def HoldsChunk (d : RtmpDecoder) : Prop :=
  d.HoldsHeader ∧ ∃ h input,
    (readHeader d.prevHeaders).run d.input = .ok h input ∧ d.payload h ≤ input.bytes.length

/-- Nothing but an `IOException` is thrown, and a packet is returned only if the input held the
chunk. -/
@[mk_iff] structure SafeCall (d : RtmpDecoder) : Prop where
  checked : ∀ e d', readPacket.run d = .error e d' → e.Checked
  holdsChunk : ∀ packet d', readPacket.run d = .ok (some packet) d' → d.HoldsChunk

/-- What a chunk behind its header needs, if a body needs `sound`.  A piece of a longer message is
stored, and the body is read when it is complete. -/
def ChunkSound (d : RtmpDecoder) (h : RtmpHeader) (input : InputStream)
    (sound : InputStream → Prop → Prop) : Prop :=
  let stored := d.buffers h.chunkStreamId
  if d.rtmpSessionInfo.rxChunkSize < h.packetLength then
    let piece := input.bytes.take (d.payload h)
    0 ≤ d.rtmpSessionInfo.rxChunkSize ∧ stored.length ≤ h.packetLength ∧
      (stored.length + piece.length = h.packetLength →
        sound ⟨stored ++ piece, .array⟩ d.HoldsHeader)
  else sound input (d.HoldsHeader ∧ h.packetLength ≤ input.bytes.length)

/-- What the input needs, in the state of the decoder, if a body needs `sound`. -/
def Sound (d : RtmpDecoder) (sound : RtmpHeader → InputStream → Prop → Prop) : Prop :=
  HeaderSound d.prevHeaders d.input.bytes ∧
    ∀ h input, (readHeader d.prevHeaders).run d.input = .ok h input →
      d.ChunkSound h input (sound h)

variable {d d' : RtmpDecoder} {h : RtmpHeader} {input : InputStream}

theorem ChunkSound.mono {sound sound' : InputStream → Prop → Prop}
    (hnetwork : input.segments ≠ .array) (hchunk : d.ChunkSound h input sound)
    (hsound : ∀ s whole, (s.segments = .array → 0 < h.packetLength) → sound s whole →
      sound' s whole) : d.ChunkSound h input sound' := by
  rw [ChunkSound] at hchunk ⊢
  dsimp only at hchunk ⊢
  split_ifs at hchunk ⊢
  · exact ⟨hchunk.1, hchunk.2.1, fun hcomplete =>
      hsound _ _ (fun _ => by omega) (hchunk.2.2 hcomplete)⟩
  · exact hsound _ _ (fun harray => absurd harray hnetwork) hchunk

theorem safeCall_of_error (hrun : readPacket.run d = .error e d') : d.SafeCall ↔ e.Checked := by
  simp [safeCall_iff, hrun]

theorem safeCall_of_none (hrun : readPacket.run d = .ok none d') : d.SafeCall := by
  simp [safeCall_iff, hrun]

theorem safeCall_of_some {packet : RtmpPacket} (hrun : readPacket.run d = .ok (some packet) d') :
    d.SafeCall ↔ d.HoldsChunk := by
  simp [safeCall_iff, hrun]

theorem safeCall_iff_readsSafely {s : InputStream} {whole : Prop}
    (hok : ∀ body s', (readBody h).run s = .ok body s' →
      ∃ d₁, readPacket.run d = (finishPacket h body).run d₁)
    (herror : ∀ e s', (readBody h).run s = .error e s' → ∃ d', readPacket.run d = .error e d')
    (hwhole : d.HoldsChunk ↔ whole) : d.SafeCall ↔ ReadsSafely h s whole := by
  cases hbody : (readBody h).run s with
  | error e s' =>
    obtain ⟨d', hrun⟩ := herror e s' hbody
    rw [safeCall_of_error hrun, readsSafely_of_error hbody]
  | ok body s' =>
    obtain ⟨d₁, hrun⟩ := hok body s' hbody
    rw [readsSafely_of_ok hbody]
    by_cases hreturned : ∀ size, body ≠ .setChunkSize size
    · rw [run_finishPacket hreturned] at hrun
      rw [safeCall_of_some hrun, hwhole]
      exact ⟨fun h _ => h, fun h => h hreturned⟩
    · obtain ⟨size, hsetSize⟩ := not_forall_not.mp hreturned
      subst hsetSize
      exact iff_of_true (safeCall_of_none hrun) fun h => absurd h hreturned

theorem holdsChunk_iff (hread : (readHeader d.prevHeaders).run d.input = .ok h input) :
    d.HoldsChunk ↔ d.HoldsHeader ∧ d.payload h ≤ input.bytes.length := by
  constructor
  · rintro ⟨hheader, h', input', hread', hle⟩
    cases hread.symm.trans hread'
    exact ⟨hheader, hle⟩
  · exact fun hholds => ⟨hholds.1, h, input, hread, hholds.2⟩

theorem safeCall_whole (hread : (readHeader d.prevHeaders).run d.input = .ok h input)
    (hsmall : (h.packetLength : Int) ≤ d.rtmpSessionInfo.rxChunkSize) :
    d.SafeCall ↔ ReadsSafely h input (d.HoldsHeader ∧ h.packetLength ≤ input.bytes.length) := by
  have hcall : readPacket.run d = (onInput (readBody h) >>= finishPacket h).run
      (setPrevHeaderRx h { d with input }) :=
    (run_readPacket hread).trans (run_readChunk_of_le hsmall)
  apply safeCall_iff_readsSafely
  · intro body s' hbody
    have hinput : (onInput (readBody h)).run (setPrevHeaderRx h { d with input }) = .ok body _ :=
      run_onInput hbody
    exact ⟨_, hcall.trans (run_bind_ok hinput _)⟩
  · intro e s' hbody
    have hinput : (onInput (readBody h)).run (setPrevHeaderRx h { d with input }) = .error e _ :=
      run_onInput_error hbody
    exact ⟨_, hcall.trans (run_bind_error hinput _)⟩
  · rw [holdsChunk_iff hread, payload, if_neg (not_lt.mpr hsmall)]

section Stored

variable (hread : (readHeader d.prevHeaders).run d.input = .ok h input)
  (hlong : d.rtmpSessionInfo.rxChunkSize < h.packetLength)
include hread hlong

/-- A piece that was stored: the body is read if the message is complete. -/
theorem safeCall_piece {piece : List UInt8} {d₁ : RtmpDecoder}
    (hstore : (storePacketChunk h.chunkStreamId d.rtmpSessionInfo.rxChunkSize).run
        (setPrevHeaderRx h { d with input }) =
      .ok ((d.buffers h.chunkStreamId ++ piece).length == h.packetLength)
        (d₁.setChunkStreamInfo h.chunkStreamId ⟨some h, d.buffers h.chunkStreamId ++ piece⟩))
    (hthere : d.payload h ≤ input.bytes.length) :
    d.SafeCall ↔ ((d.buffers h.chunkStreamId).length + piece.length = h.packetLength →
      ReadsSafely h ⟨d.buffers h.chunkStreamId ++ piece, .array⟩ d.HoldsHeader) := by
  have hcall := (run_readPacket hread).trans (run_readChunk_of_gt hlong)
  rw [List.length_append] at hstore
  by_cases hcomplete : (d.buffers h.chunkStreamId).length + piece.length = h.packetLength
  · rw [beq_iff_eq.mpr hcomplete] at hstore
    have hrest := hcall.trans (run_bind_ok hstore _)
    have hbody : d.SafeCall ↔
        ReadsSafely h ⟨d.buffers h.chunkStreamId ++ piece, .array⟩ d.HoldsHeader := by
      apply safeCall_iff_readsSafely
      · intro body s' hbody
        have hstored := @run_readStoredBody
          (d₁.setChunkStreamInfo h.chunkStreamId ⟨some h, d.buffers h.chunkStreamId ++ piece⟩) h
          _ (getChunkStreamInfo_set _ _ _) body s' hbody
        exact ⟨_, hrest.trans (run_bind_ok hstored _)⟩
      · intro e s' hbody
        have hstored := @run_readStoredBody_error
          (d₁.setChunkStreamInfo h.chunkStreamId ⟨some h, d.buffers h.chunkStreamId ++ piece⟩) h
          _ (getChunkStreamInfo_set _ _ _) e s' hbody
        exact ⟨_, hrest.trans (run_bind_error hstored _)⟩
      · rw [holdsChunk_iff hread]
        exact and_iff_left hthere
    rw [hbody]
    exact ⟨fun h _ => h, fun h => h hcomplete⟩
  · rw [beq_eq_false_iff_ne.mpr hcomplete] at hstore
    have hnone := hcall.trans (run_bind_ok hstore _)
    exact iff_of_true (safeCall_of_none hnone) fun h => absurd h hcomplete

/-- A piece of a longer message. -/
theorem safeCall_stored (hnetwork : input.segments ≠ .array) :
    d.SafeCall ↔ d.ChunkSound h input (ReadsSafely h) := by
  have hpayload : d.payload h = (min ((h.packetLength : Int) -
      (d.buffers h.chunkStreamId).length) d.rtmpSessionInfo.rxChunkSize).toNat := if_pos hlong
  have hinfo : (setPrevHeaderRx h { d with input }).getChunkStreamInfo h.chunkStreamId =
      ⟨some h, d.buffers h.chunkStreamId⟩ := getChunkStreamInfo_set _ _ _
  have hcall := (run_readPacket hread).trans (run_readChunk_of_gt hlong)
  unfold ChunkSound
  dsimp only
  rw [if_pos hlong]
  by_cases hsize : min ((h.packetLength : Int) - (d.buffers h.chunkStreamId).length)
      d.rtmpSessionInfo.rxChunkSize < 0
  · have hstore : (storePacketChunk h.chunkStreamId d.rtmpSessionInfo.rxChunkSize).run
        (setPrevHeaderRx h { d with input }) = .error .negativeArraySize
          (setPrevHeaderRx h { d with input }) := by
      rw [run_storePacketChunk_eq hinfo, if_pos hsize, run_throw]
    rw [safeCall_of_error (hcall.trans (run_bind_error hstore _))]
    refine iff_of_false not_false ?_
    rintro ⟨hnonneg, hstored, -⟩
    omega
  · have hnonneg : 0 ≤ d.rtmpSessionInfo.rxChunkSize := by omega
    have hstored : (d.buffers h.chunkStreamId).length ≤ h.packetLength := by omega
    simp only [hnonneg, hstored, true_and]
    have hstore := run_storePacketChunk_eq hinfo d.rtmpSessionInfo.rxChunkSize
    rw [if_neg hsize, ← hpayload] at hstore
    cases hpiece : (readBytesUntilFull (d.payload h)).run input with
    | error e input' =>
      have herror := hstore.trans (run_bind_error (run_onInput_error hpiece) _)
      rw [safeCall_of_error (hcall.trans (run_bind_error herror _))]
      refine iff_of_true (readBytesUntilFull_checked hpiece) fun hcomplete => ?_
      -- The piece was not there, so it does not complete the message.
      exfalso
      have hshort : ¬ d.payload h ≤ input.bytes.length := by
        intro hle
        obtain ⟨segments, -, hthere⟩ := run_readBytesUntilFull_of_le hle fun harray =>
          absurd harray hnetwork
        cases hpiece.symm.trans hthere
      rw [List.length_take] at hcomplete
      omega
    | ok piece input' =>
      obtain ⟨hsplit, hlength⟩ := readBytesUntilFull_eq_ok hpiece
      have htake : input.bytes.take (d.payload h) = piece := by
        rw [← hsplit, ← hlength, List.take_left]
      have hthere : d.payload h ≤ input.bytes.length := by
        rw [← hsplit, List.length_append]
        omega
      rw [htake]
      exact safeCall_piece hread hlong (hstore.trans (run_bind_ok (run_onInput hpiece) _)) hthere

end Stored

theorem safeCall_iff_chunkSound (hread : (readHeader d.prevHeaders).run d.input = .ok h input)
    (hnetwork : input.segments ≠ .array) : d.SafeCall ↔ d.ChunkSound h input (ReadsSafely h) := by
  by_cases hlong : d.rtmpSessionInfo.rxChunkSize < h.packetLength
  · exact safeCall_stored hread hlong hnetwork
  · rw [ChunkSound]
    dsimp only
    rw [if_neg hlong]
    exact safeCall_whole hread (not_lt.mp hlong)

/-! ## Audio and video -/

/-- A chunk of an audio or video message is read safely wherever the stream ends. -/
theorem safeCall_content {b : UInt8} {rest : List UInt8} {segments : Segments}
    (hin : d.input = ⟨b :: rest, segments⟩)
    (hread : (readHeader d.prevHeaders).run d.input = .ok h input)
    (htype : h.messageType = .audio ∨ h.messageType = .video)
    (hsize : 0 ≤ d.rtmpSessionInfo.rxChunkSize)
    (hnetwork : input.segments ≠ .array)
    (hstored : (d.buffers h.chunkStreamId).length < h.packetLength) : d.SafeCall := by
  have hheader : input.bytes ≠ [] → d.HoldsHeader := by
    intro hne
    rw [HoldsHeader]
    by_contra hcut
    rw [hin] at hread hcut
    exact hne ((headerRun_readHeader d.prevHeaders b rest segments).cut h input hread
      (not_le.mp hcut))
  have hbody : ∀ (s : InputStream) (whole : Prop),
      ReadsSafely h s whole ↔ (h.packetLength ≤ s.bytes.length → whole) :=
    fun s whole => readsSafely_content htype fun _ => by omega
  rw [safeCall_iff_chunkSound hread hnetwork, ChunkSound]
  dsimp only
  split_ifs
  · refine ⟨hsize, Nat.le_of_lt hstored, fun hcomplete => (hbody _ _).mpr fun _ => hheader ?_⟩
    intro hnil
    rw [hnil, List.take_nil, List.length_nil] at hcomplete
    omega
  · refine (hbody _ _).mpr fun hle => ⟨hheader ?_, hle⟩
    exact List.ne_nil_of_length_pos (by omega)

/-- The stream ends behind the header of a chunk of an audio message. -/
theorem safeCall_cutAudio :
    SafeCall ⟨{ chunkChannels := fun id => ⟨some ⟨.type0Full, id, 0, 0, 3, .audio, 1, 0⟩, []⟩ },
      ⟨[0xc4], .network []⟩⟩ :=
  safeCall_content rfl rfl (.inl rfl) (by decide) nofun (by decide)

/-! ## Safe calls -/

end RtmpDecoder

end MediasoupDemo.Rtmp
