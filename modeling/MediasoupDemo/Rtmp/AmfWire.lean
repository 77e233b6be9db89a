import MediasoupDemo.Rtmp.Amf
import MediasoupDemo.Rtmp.Header

/-!
# AMF0 values on the wire

A value as a sender writes it: strings and keys are bytes, of which the decoder
makes characters, and a number is eight bytes, of which the decoder makes a
double.  `AmfWire.bytes` are the bytes of a value, and `AmfWire.toData` is what
`AmfDecoder.readFrom` makes of them.

Two things decide whether it gets there.

* The end marker of an object or a map has to come in one bulk read (`marked`).
* A value whose last read is one of no bytes (`endsEmpty`), an empty string or an
  array that ends with one, cannot be the last one of an array in memory.
-/

namespace MediasoupDemo.Rtmp

open ByteCodec MediasoupDemo.Runtime InputStream Method

/-! ## Numbers and strings -/

def writeUnsignedInt16 (value : Int) : List UInt8 := beBytes 2 (value % 2 ^ 32).toNat

/-- `Util.writeDouble`. -/
def writeDouble (bits : BitVec 64) : List UInt8 := beBytes 8 bits.toNat

/-- What `readDouble` makes of the bytes of a double. -/
def widened (bits : BitVec 64) : BitVec 64 :=
  BitVec.ofNat 64 (bits.toNat / 2 ^ 32) <<< 32 ||| (BitVec.ofNat 32 bits.toNat).signExtend 64

/-- A string behind its length. -/
def stringBytes (value : List UInt8) : List UInt8 := writeUnsignedInt16 value.length ++ value

theorem length_writeUnsignedInt16 (value : Int) : (writeUnsignedInt16 value).length = 2 :=
  beBytes_length 2 _

theorem length_writeUnsignedInt32 (value : Int) : (writeUnsignedInt32 value).length = 4 :=
  beBytes_length 4 _

variable (bits : BitVec 64)

theorem length_writeDouble : (writeDouble bits).length = 8 :=
  beBytes_length 8 _

theorem length_stringBytes (value : List UInt8) :
    (stringBytes value).length = 2 + value.length := by
  rw [stringBytes, List.length_append, length_writeUnsignedInt16]

theorem length_asciiString (bytes : List UInt8) : (asciiString bytes).length = bytes.length := by
  rw [asciiString, String.length_ofList, List.length_map]

theorem beNat_writeUnsignedInt16 {value : Nat} (h : value < 2 ^ 16) :
    beNat (writeUnsignedInt16 value) = value := by
  have hmod : ((value : Int) % 2 ^ 32).toNat = value := by omega
  rw [writeUnsignedInt16, hmod]
  exact beNat_beBytes_of_lt h

section

variable {whole : Prop}

theorem reads_readUnsignedInt16 {value : Nat} (h : value < 2 ^ 16) :
    Reads whole readUnsignedInt16 (writeUnsignedInt16 value) value := by
  have hread : Reads whole (readBytes 2) (writeUnsignedInt16 value) (writeUnsignedInt16 value) :=
    reads_readBytes (length_writeUnsignedInt16 _)
  have hall := hread.map fun bytes => (beNat bytes : Int)
  rw [beNat_writeUnsignedInt16 h] at hall
  exact hall

theorem reads_readUnsignedInt32_bytes {front : List UInt8} (h : front.length = 4) :
    Reads whole readUnsignedInt32 front (int (beNat front)) :=
  (reads_readBytes h).map fun bytes => int (beNat bytes)

theorem reads_readUnsignedInt32 {value : Int} (h : InInt value) :
    Reads whole readUnsignedInt32 (writeUnsignedInt32 value) value :=
  fun more segments _ => ⟨segments, .refl _, run_readUnsignedInt32_write h more segments⟩

theorem readsIff_readString {value : List UInt8} (h : value.length < 2 ^ 16) :
    ReadsIff whole (value ≠ []) readString (stringBytes value) (asciiString value) := by
  have hvalue : ReadsIff whole (value ≠ []) (readBytesUntilFull (value.length : Int).toNat)
      value value := readsIff_readBytesUntilFull value
  exact (reads_readUnsignedInt16 h).bind_readsIff (hvalue.map asciiString)

theorem reads_readDouble_widened :
    Reads whole readDouble (writeDouble bits) (widened bits) := by
  have hsplit : writeDouble bits = beBytes 4 (bits.toNat / 2 ^ 32) ++ beBytes 4 bits.toNat :=
    beBytes_add 4 4 bits.toNat
  have hhigh : beNat (beBytes 4 (bits.toNat / 2 ^ 32)) = bits.toNat / 2 ^ 32 := by
    apply beNat_beBytes_of_lt
    have hlt := bits.isLt
    omega
  have hlow : BitVec.ofNat 32 (beNat (beBytes 4 bits.toNat)) = BitVec.ofNat 32 bits.toNat := by
    apply BitVec.eq_of_toNat_eq
    rw [beNat_beBytes, BitVec.toNat_ofNat, BitVec.toNat_ofNat]
    omega
  have hread : Reads whole (readBytes 4) (beBytes 4 (bits.toNat / 2 ^ 32))
      (beBytes 4 (bits.toNat / 2 ^ 32)) := reads_readBytes (beBytes_length 4 _)
  have hrest : Reads whole (readBytes 4) (beBytes 4 bits.toNat) (beBytes 4 bits.toNat) :=
    reads_readBytes (beBytes_length 4 _)
  have hlast := hrest.map fun low =>
    BitVec.ofNat 64 (beNat (beBytes 4 (bits.toNat / 2 ^ 32))) <<< 32 |||
      (BitVec.ofNat 32 (beNat low)).signExtend 64
  rw [hlow, hhigh] at hlast
  rw [hsplit]
  unfold readDouble
  refine hread.bind ?_
  rw [hhigh]
  exact hlast

/-- The bits that `readDouble` makes: the upper half also gets the top bit of the lower one. -/
theorem getLsbD_widened {i : Nat} (hi : i < 64) :
    (widened bits).getLsbD i =
      if i < 32 then bits.getLsbD i else bits.getLsbD i || bits.getLsbD 31 := by
  have hlow : ∀ j, j < 32 → (BitVec.ofNat 32 bits.toNat).getLsbD j = bits.getLsbD j := by
    intro j hj
    simp [hj]
  have hmsb : (BitVec.ofNat 32 bits.toNat).msb = bits.getLsbD 31 := by
    rw [BitVec.msb_eq_getLsbD_last, hlow _ (by omega)]
  rw [widened, BitVec.getLsbD_or, BitVec.getLsbD_shiftLeft, BitVec.getLsbD_signExtend, hmsb]
  split_ifs with h
  · rw [hlow i h]
    simp [h, hi]
  · have hhigh : (BitVec.ofNat 64 (bits.toNat / 2 ^ 32)).getLsbD (i - 32) = bits.getLsbD i := by
      rw [BitVec.getLsbD_ofNat, Nat.testBit_div_two_pow, Nat.sub_add_cancel (by omega),
        BitVec.testBit_toNat, decide_eq_true (by omega), Bool.true_and]
    rw [hhigh]
    simp [h, hi]

/-- All bits of the upper half are set. -/
def UpperOnes (bits : BitVec 64) : Prop := ∀ i, 32 ≤ i → i < 64 → bits.getLsbD i = true

theorem widened_eq_iff :
    widened bits = bits ↔ bits.getLsbD 31 = false ∨ UpperOnes bits := by
  constructor
  · intro h
    by_cases hbit : bits.getLsbD 31 = false
    · exact .inl hbit
    · refine .inr fun i hle hlt => ?_
      have hi := getLsbD_widened bits hlt
      rw [h, if_neg (by omega), eq_true_of_ne_false hbit, Bool.or_true] at hi
      exact hi
  · intro h
    apply BitVec.eq_of_getLsbD_eq
    intro i hi
    rw [getLsbD_widened bits hi]
    split_ifs with hlow
    · rfl
    · rcases h with hbit | hones
      · rw [hbit, Bool.or_false]
      · rw [hones i (by omega) hi, Bool.true_or]

/-- A double is read back if the lower half of its bits has a clear top bit. -/
theorem widened_eq_self {bits : BitVec 64} (h : bits.toNat % 2 ^ 32 < 2 ^ 31) :
    widened bits = bits := by
  apply (widened_eq_iff bits).mpr
  left
  have hsmall : (bits.toNat % 2 ^ 32).testBit 31 = false := Nat.testBit_lt_two_pow h
  rw [Nat.testBit_mod_two_pow, BitVec.testBit_toNat] at hsmall
  simpa using hsmall

end

/-- The eight bytes of a double are read back as the same bits just if the lower half of the
bits has a clear top bit or the upper half is all ones. -/
theorem reads_writeDouble_iff (bits : BitVec 64) :
    Reads False readDouble (writeDouble bits) bits ↔
      bits.getLsbD 31 = false ∨ UpperOnes bits := by
  rw [← widened_eq_iff]
  have hread := @reads_readDouble_widened bits False
  constructor
  · intro h
    have hsame := (h.run_stored []).symm.trans (hread.run_stored [])
    injection hsame with hbits
    exact hbits.symm
  · intro h
    rw [h] at hread
    exact hread

/-- The bits of 0.1 come back with an upper half of ones, which is no number. -/
theorem not_reads_writeDouble_tenth :
    readDouble.run ⟨writeDouble 0x3fb999999999999a, .array⟩ =
        .ok 0xffffffff9999999a ⟨[], .array⟩ ∧
      ¬ Reads False readDouble (writeDouble 0x3fb999999999999a) 0x3fb999999999999a := by
  have hrun : readDouble.run ⟨writeDouble 0x3fb999999999999a ++ [], .array⟩ =
      .ok 0xffffffff9999999a ⟨[], .array⟩ := by rfl
  refine ⟨hrun, fun h => ?_⟩
  have hsame := (h.run_stored []).symm.trans hrun
  injection hsame with hbits
  exact absurd hbits (by decide)

/-! ## Values -/

/-- An AMF0 value on the wire. -/
inductive AmfWire where
  | number (bits : BitVec 64)
  | boolean (value : UInt8)
  | string (value : List UInt8)
  | object (properties : List (List UInt8 × AmfWire))
  | null
  | undefined
  /-- an ECMA array, with the count in front of its properties -/
  | map (count : Int) (properties : List (List UInt8 × AmfWire))
  | array (items : List AmfWire)

/-- `AmfObject.OBJECT_END_MARKER`. -/
def objectEndMarker : List UInt8 := [0x00, 0x00, 0x09]

namespace AmfWire

mutual

def bytes : AmfWire → List UInt8
  | number bits => 0x00 :: writeDouble bits
  | boolean value => [0x01, value]
  | string value => 0x02 :: stringBytes value
  | object properties => 0x03 :: (propertyBytes properties ++ objectEndMarker)
  | null => [0x05]
  | undefined => [0x06]
  | map count properties =>
      0x08 :: (writeUnsignedInt32 count ++ (propertyBytes properties ++ objectEndMarker))
  | array items => 0x0a :: (writeUnsignedInt32 items.length ++ itemBytes items)

/-- The bytes of the pairs of an object. -/
def propertyBytes : List (List UInt8 × AmfWire) → List UInt8
  | [] => []
  | (key, value) :: properties => stringBytes key ++ (bytes value ++ propertyBytes properties)

/-- The bytes of the items of an array. -/
def itemBytes : List AmfWire → List UInt8
  | [] => []
  | item :: items => bytes item ++ itemBytes items

end

mutual

/-- What the decoder makes of a value. -/
def toData : AmfWire → AmfData
  | number bits => .number (widened bits)
  | boolean value => .boolean (some value == some 0x01)
  | string value => .string (asciiString value)
  | object properties =>
      .object (putProperties [] properties) (int (1 + (propertyBytes properties).length + 3))
  | null => .null
  | undefined => .undefined
  | map _ properties =>
      .map (putProperties [] properties) (int (1 + (propertyBytes properties).length + 3 + 4))
  | array items => .array (itemData items) (int (5 + (itemBytes items).length))

/-- The pairs of an object, put one after another. -/
def putProperties : List (String × AmfData) → List (List UInt8 × AmfWire) →
    List (String × AmfData)
  | before, [] => before
  | before, (key, value) :: properties =>
      putProperties (putProperty before (asciiString key) (toData value)) properties

def itemData : List AmfWire → List AmfData
  | [] => []
  | item :: items => toData item :: itemData items

end

mutual

/-- Strings and keys have a length of two bytes, and arrays one of four. -/
def WellFormed : AmfWire → Prop
  | string value => value.length < 2 ^ 16
  | object properties => WellFormedProperties properties
  | map _ properties => WellFormedProperties properties
  | array items => items.length < 2 ^ 31 ∧ WellFormedItems items
  | number _ | boolean _ | null | undefined => True

def WellFormedProperties : List (List UInt8 × AmfWire) → Prop
  | [] => True
  | (key, value) :: properties =>
      key.length < 2 ^ 16 ∧ WellFormed value ∧ WellFormedProperties properties

def WellFormedItems : List AmfWire → Prop
  | [] => True
  | item :: items => WellFormed item ∧ WellFormedItems items

end

mutual

/-- The value has an end marker. -/
def marked : AmfWire → Bool
  | object _ | map _ _ => true
  | array items => itemsMarked items
  | number _ | boolean _ | string _ | null | undefined => false

def itemsMarked : List AmfWire → Bool
  | [] => false
  | item :: items => marked item || itemsMarked items

end

mutual

/-- The last read of the value is one of no bytes. -/
def endsEmpty : AmfWire → Bool
  | string value => value.isEmpty
  | array items => itemsEndEmpty items
  | number _ | boolean _ | object _ | null | undefined | map _ _ => false

def itemsEndEmpty : List AmfWire → Bool
  | [] => false
  | [item] => endsEmpty item
  | _ :: next :: items => itemsEndEmpty (next :: items)

end

/-! ## Sizes -/

variable (w : AmfWire)

/-- `getSize` counts the bytes of the value in an `int`. -/
theorem getSize_toData : w.toData.getSize = int w.bytes.length := by
  cases w with
  | number bits =>
    rw [toData, AmfData.getSize, bytes, List.length_cons, length_writeDouble]
    rfl
  | boolean value => exact (int_eq_self (by decide : InInt 2)).symm
  | string value =>
    rw [toData, AmfData.getSize, bytes, List.length_cons, length_stringBytes, sizeOfString,
      length_asciiString]
    congr 1
    simp only [Bool.false_eq_true, if_false]
    omega
  | object properties =>
    rw [toData, AmfData.getSize, bytes, List.length_cons, List.length_append, objectEndMarker]
    congr 1
    simp only [List.length_cons, List.length_nil]
    omega
  | null => rfl
  | undefined => rfl
  | map count properties =>
    rw [toData, AmfData.getSize, bytes, List.length_cons, List.length_append, List.length_append,
      length_writeUnsignedInt32, objectEndMarker]
    congr 1
    simp only [List.length_cons, List.length_nil]
    omega
  | array items =>
    rw [toData, AmfData.getSize, bytes, List.length_cons, List.length_append,
      length_writeUnsignedInt32]
    congr 1
    omega

/-- The first byte of a value is its type, and no type is the one of the end marker. -/
theorem bytes_eq_cons : ∃ type rest, w.bytes = type :: rest ∧ type ≠ 0x09 := by
  cases w <;> exact ⟨_, _, rfl, by decide⟩

theorem length_bytes_pos : 0 < w.bytes.length := by
  obtain ⟨type, rest, hbytes, -⟩ := w.bytes_eq_cons
  rw [hbytes]
  exact Nat.succ_pos _

end AmfWire

/-! ## The end marker -/

/-- The end marker is found if it comes in one read. -/
theorem run_readEndMarker_true (more : List UInt8) {segments : Segments}
    (h : segments.most 3 = 3) :
    readEndMarker.run ⟨objectEndMarker ++ more, segments⟩ = .ok true ⟨more, segments.tail⟩ := by
  have hread : (readSome 3).run ⟨objectEndMarker ++ more, segments⟩ =
      .ok (some objectEndMarker) ⟨more, segments.tail⟩ := by
    have hne : objectEndMarker ++ more ≠ [] := List.cons_ne_nil _ _
    rw [run_readSome_of_ne_nil (by decide) hne, h]
    rfl
  rw [readEndMarker, run_get_bind, run_bind_ok hread]
  rfl

/-- It is not found if it comes in pieces. -/
theorem run_readEndMarker_cut (more : List UInt8) {segments : Segments}
    (h : segments.most 3 < 3) :
    readEndMarker.run ⟨objectEndMarker ++ more, segments⟩ =
      .ok false ⟨objectEndMarker ++ more, segments.tail⟩ := by
  have hne : objectEndMarker ++ more ≠ [] := List.cons_ne_nil _ _
  have hother : ¬ (objectEndMarker ++ more).take (segments.most 3) = [0x00, 0x00, 0x09] := by
    intro heq
    have hlength := congrArg List.length heq
    rw [List.length_take] at hlength
    simp only [List.length_cons, List.length_nil] at hlength
    omega
  rw [readEndMarker, run_get_bind, run_bind_ok (run_readSome_of_ne_nil (by decide) hne segments)]
  dsimp only [Option.getD_some]
  rw [if_neg hother]
  rfl

/-- Other bytes are not taken for the end marker, and nothing of them is lost. -/
theorem run_readEndMarker_false {bytes : List UInt8} (hne : bytes ≠ [])
    (h : ¬ objectEndMarker <+: bytes) (segments : Segments) :
    readEndMarker.run ⟨bytes, segments⟩ = .ok false ⟨bytes, segments.tail⟩ := by
  have hread : (readSome 3).run ⟨bytes, segments⟩ = _ :=
    run_readSome_of_ne_nil (by decide) hne segments
  have hother : ¬ bytes.take (segments.most 3) = [0x00, 0x00, 0x09] := by
    intro heq
    apply h
    rw [objectEndMarker, ← heq]
    exact List.take_prefix _ _
  rw [readEndMarker, run_get_bind, run_bind_ok hread]
  dsimp only [Option.getD_some]
  rw [if_neg hother]
  rfl

namespace AmfWire

/-- A pair does not begin like the end marker: its key has a length, or the type of
its value follows. -/
theorem not_marker_property {key : List UInt8} (hkey : key.length < 2 ^ 16) (value : AmfWire)
    (more : List UInt8) : ¬ objectEndMarker <+: stringBytes key ++ (value.bytes ++ more) := by
  obtain ⟨high, low, hfield⟩ : ∃ high low,
      writeUnsignedInt16 key.length = [high, low] := ⟨_, _, rfl⟩
  have hback := beNat_writeUnsignedInt16 hkey
  rw [hfield] at hback
  rw [stringBytes, hfield]
  intro hmarker
  obtain ⟨hhigh, hmarker⟩ := List.cons_prefix_cons.mp hmarker
  obtain ⟨hlow, hmarker⟩ := List.cons_prefix_cons.mp hmarker
  rw [← hhigh, ← hlow] at hback
  have hzero : beNat [0x00, 0x00] = 0 := by decide
  have hnil : key = [] := List.length_eq_zero_iff.mp (hback.symm.trans hzero)
  subst hnil
  obtain ⟨type, rest, hbytes, htype⟩ := value.bytes_eq_cons
  rw [hbytes] at hmarker
  exact htype (List.cons_prefix_cons.mp hmarker).1.symm

/-! ## Reading a value -/

section

variable {whole : Prop}

/-- One turn of the loop of `AmfObject.readFrom`.  The rest of the loop takes at least the end
marker, so the value may end with an empty read. -/
theorem reads_property {depth : Nat} {size : Int} {before : List (String × AmfData)}
    {key : List UInt8} {value : AmfWire} {closed : Prop} {rest : List UInt8}
    {result : List (String × AmfData) × Int}
    (hkey : key.length < 2 ^ 16)
    (hread : ReadsBefore whole closed (readAmf depth) value.bytes value.toData)
    (hloop : Reads whole (readProperties depth
      (putProperty before (asciiString key) value.toData)
      (int (size + sizeOfString (asciiString key) true + value.toData.getSize)))
      (rest ++ objectEndMarker) result) :
    Reads whole (readProperties (depth + 1) before size)
      (stringBytes key ++ (value.bytes ++ (rest ++ objectEndMarker))) result := by
  have hvalue : value.bytes ++ (rest ++ objectEndMarker) ≠ [] :=
    List.append_ne_nil_of_left_ne_nil (List.ne_nil_of_length_pos value.length_bytes_pos) _
  have hend : rest ++ objectEndMarker ≠ [] :=
    List.append_ne_nil_of_right_ne_nil rest (List.cons_ne_nil _ _)
  have hpair : ReadsBefore whole True
      (do
        let key ← readString
        let value ← readAmf depth
        readProperties depth (putProperty before key value)
          (int (size + sizeOfString key true + value.getSize)))
      (stringBytes key ++ (value.bytes ++ (rest ++ objectEndMarker))) result := by
    refine (readsIff_readString hkey).before.bind ?_ fun _ => .inr hvalue
    exact hread.bind hloop.before fun _ => .inr hend
  intro more segments hsegments
  obtain ⟨segments', hlater, hrun⟩ := hpair.reads trivial more segments.tail fun h =>
    (hsegments h).later segments.later_tail
  refine ⟨segments', hlater.trans segments.later_tail, ?_⟩
  have hstart : stringBytes key ++ (value.bytes ++ (rest ++ objectEndMarker)) ++ more ≠ [] := by
    rw [List.append_assoc]
    exact List.append_ne_nil_of_right_ne_nil _ (List.append_ne_nil_of_left_ne_nil hvalue more)
  have hmarker : ¬ objectEndMarker <+:
      stringBytes key ++ (value.bytes ++ (rest ++ objectEndMarker)) ++ more := by
    rw [List.append_assoc, List.append_assoc]
    exact not_marker_property hkey value _
  rw [readProperties, run_bind_ok (run_readEndMarker_false hstart hmarker segments)]
  exact hrun

mutual

theorem readsIff_readAmf (w : AmfWire) (hw : w.WellFormed) (hmarked : w.marked = true → whole)
    (depth : Nat) (hdepth : w.bytes.length ≤ depth) :
    ReadsIff whole (w.endsEmpty = false) (readAmf depth) w.bytes w.toData := by
  have hpos := w.length_bytes_pos
  obtain ⟨depth, rfl⟩ : ∃ n, depth = n + 1 := ⟨depth - 1, by omega⟩
  unfold readAmf
  match w with
  | .number bits =>
    have hbits : Reads whole readDouble (writeDouble bits) (widened bits) :=
      reads_readDouble_widened bits
    exact (reads_readByte 0x00).bind_readsIff ((hbits.map AmfData.number).readsIff rfl)
  | .boolean value =>
    exact (reads_readByte 0x01).bind_readsIff
      (((reads_read value).map fun b => AmfData.boolean (b == some 0x01)).readsIff rfl)
  | .string value =>
    have hvalue : ReadsIff whole (value ≠ []) _ _ _ := (readsIff_readString hw).map AmfData.string
    rw [← List.isEmpty_eq_false_iff] at hvalue
    exact (reads_readByte 0x02).bind_readsIff hvalue
  | .object properties =>
    rw [bytes, List.length_cons, List.length_append, objectEndMarker] at hdepth
    simp only [List.length_cons, List.length_nil] at hdepth
    have hproperties := reads_readProperties properties hw (hmarked rfl) depth [] 1 (by omega)
    have hobject := hproperties.map fun read => AmfData.object read.1 read.2
    dsimp only at hobject
    rw [toData]
    refine (reads_readByte 0x03).bind_readsIff ?_
    exact hobject.readsIff rfl
  | .null => exact (reads_readByte 0x05).bind_readsIff ((reads_pure AmfData.null).readsIff rfl)
  | .undefined =>
    exact (reads_readByte 0x06).bind_readsIff ((reads_pure AmfData.undefined).readsIff rfl)
  | .map count properties =>
    rw [bytes, List.length_cons, List.length_append, List.length_append, objectEndMarker] at hdepth
    simp only [List.length_cons, List.length_nil] at hdepth
    have hproperties := reads_readProperties properties hw (hmarked rfl) depth [] 1 (by omega)
    have hmap := hproperties.map fun read => AmfData.map read.1 (int (read.2 + 4))
    dsimp only at hmap
    rw [int_add] at hmap
    rw [toData]
    refine (reads_readByte 0x08).bind_readsIff
      ((reads_readUnsignedInt32_bytes (length_writeUnsignedInt32 count)).bind_readsIff ?_)
    exact hmap.readsIff rfl
  | .array items =>
    rw [bytes, List.length_cons, List.length_append, length_writeUnsignedInt32] at hdepth
    have hlength : InInt items.length := ⟨by omega, by have hlt := hw.1; omega⟩
    have hitems := readsIff_readItems items hw.2 hmarked depth 5 rfl (by omega)
    have hnonneg : ¬ (items.length : Int) < 0 := by omega
    refine (reads_readByte 0x0a).bind_readsIff ((reads_readUnsignedInt32 hlength).bind_readsIff ?_)
    have harray := hitems.map fun read => AmfData.array read.1 read.2
    dsimp only at harray
    rw [if_neg hnonneg, toData]
    exact harray

/-- The loop of `AmfObject.readFrom` takes the pairs and the end marker. -/
theorem reads_readProperties (properties : List (List UInt8 × AmfWire))
    (hproperties : WellFormedProperties properties) (hwhole : whole) (depth : Nat)
    (before : List (String × AmfData)) (size : Int)
    (hdepth : (propertyBytes properties).length + 1 ≤ depth) :
    Reads whole (readProperties depth before size) (propertyBytes properties ++ objectEndMarker)
      (putProperties before properties, int (size + (propertyBytes properties).length + 3)) := by
  obtain ⟨depth, rfl⟩ : ∃ n, depth = n + 1 := ⟨depth - 1, by omega⟩
  match properties with
  | [] =>
    intro more segments hsegments
    refine ⟨segments.tail, segments.later_tail, ?_⟩
    rw [readProperties]
    show (readEndMarker >>= _).run ⟨objectEndMarker ++ more, segments⟩ = _
    rw [run_bind_ok (run_readEndMarker_true more ((hsegments hwhole).most_eq (by decide))),
      propertyBytes, List.length_nil, Int.natCast_zero, Int.add_zero]
    rfl
  | (key, value) :: properties =>
    obtain ⟨hkey, hvalue, hrest⟩ := hproperties
    have hlen : (propertyBytes ((key, value) :: properties)).length =
        2 + key.length + value.bytes.length + (propertyBytes properties).length := by
      rw [propertyBytes, List.length_append, List.length_append, length_stringBytes]
      omega
    have hpos := value.length_bytes_pos
    have hread := (readsIff_readAmf value hvalue (fun _ => hwhole) depth (by omega)).before
    have hloop := reads_readProperties properties hrest hwhole depth
      (putProperty before (asciiString key) value.toData)
      (int (size + sizeOfString (asciiString key) true + value.toData.getSize)) (by omega)
    have hsize : int (int (size + sizeOfString (asciiString key) true + value.toData.getSize) +
        (propertyBytes properties).length + 3) =
          int (size + (propertyBytes ((key, value) :: properties)).length + 3) := by
      rw [hlen, getSize_toData, int_add_int, sizeOfString, length_asciiString, Int.add_assoc,
        int_add]
      congr 1
      simp only [if_true]
      omega
    rw [hsize] at hloop
    have hbytes : propertyBytes ((key, value) :: properties) ++ objectEndMarker =
        stringBytes key ++ (value.bytes ++ (propertyBytes properties ++ objectEndMarker)) := by
      rw [propertyBytes]
      simp only [List.append_assoc]
    rw [hbytes]
    exact reads_property hkey hread hloop

theorem readsIff_readItems (items : List AmfWire) (hitems : WellFormedItems items)
    (hmarked : itemsMarked items = true → whole) (depth : Nat) (size : Int)
    (hint : int size = size) (hdepth : (itemBytes items).length + 1 ≤ depth) :
    ReadsIff whole (itemsEndEmpty items = false) (readItems depth items.length size)
      (itemBytes items) (itemData items, int (size + (itemBytes items).length)) := by
  obtain ⟨depth, rfl⟩ : ∃ n, depth = n + 1 := ⟨depth - 1, by omega⟩
  match items with
  | [] =>
    have hnone : int (size + (itemBytes []).length) = size := by
      show int (size + 0) = size
      rw [Int.add_zero, hint]
    rw [hnone]
    exact (reads_pure ([], size)).readsIff rfl
  | item :: items =>
    obtain ⟨hitem, hrest⟩ := hitems
    have hpos := item.length_bytes_pos
    rw [itemBytes, List.length_append] at hdepth
    have hread := readsIff_readAmf item hitem
      (fun h => hmarked (by rw [itemsMarked, h]; rfl)) depth (by omega)
    have hloop := readsIff_readItems items hrest
      (fun h => hmarked (by rw [itemsMarked, h, Bool.or_true])) depth
      (int (size + item.toData.getSize)) Int.bmod_bmod (by omega)
    have hsize : int (int (size + item.toData.getSize) + (itemBytes items).length) =
        int (size + (itemBytes (item :: items)).length) := by
      rw [getSize_toData, int_add_int, int_add, itemBytes, List.length_append]
      congr 1
      omega
    rw [hsize] at hloop
    have hall := hloop.map fun read => (item.toData :: read.1, read.2)
    rw [List.length_cons, readItems]
    cases items with
    | nil =>
      -- The closing read of the last item is that of the array.
      have hbytes : itemBytes [item] = item.bytes := List.append_nil _
      have hlast : int (int (size + item.toData.getSize) + (itemBytes []).length) =
          int (size + item.toData.getSize) := by
        show int (int (size + item.toData.getSize) + 0) = _
        rw [int_add, Int.add_zero]
      rw [← hsize, hlast, hbytes]
      cases depth <;> exact hread.bind_pure rfl
    | cons next items =>
      refine hread.bind hall ?_
      exact List.append_ne_nil_of_left_ne_nil (List.ne_nil_of_length_pos next.length_bytes_pos) _

end

theorem readsIff_readFrom (w : AmfWire) (hw : w.WellFormed) (hmarked : w.marked = true → whole) :
    ReadsIff whole (w.endsEmpty = false) readFrom w.bytes w.toData := by
  apply readsIff_get_bind
  intro s hs
  exact readsIff_readAmf w hw hmarked _ (by omega)

end

end AmfWire

end MediasoupDemo.Rtmp
