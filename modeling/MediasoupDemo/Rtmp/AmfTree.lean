import MediasoupDemo.Rtmp.AmfWire
import Mathlib.Algebra.Ring.Nat

/-!
# Trees of AMF0 values

The values that the client builds and writes: numbers, booleans, strings, `null`
and `undefined`, and objects and maps of such values.  `AmfTree.writeTo` and
`AmfTree.getSize` are the methods of the classes.  A tree that was read is an
`AmfData`; it carries the sizes that `readFrom` has counted, and `toData` is the
tree with these sizes.

A tree is read back whatever follows it.  The proof goes through `AmfTree.wire`,
the tree as it stands on the wire.  Strings are written in ASCII with a length of
two bytes (`Ascii`), and `readDouble` does not return every number (`widened`):
the lower half of its bits needs a clear top bit, and a number that is exact in
the upper half (`doubleOfInt_low`) has one.

Sizes are `int`s.  They are the numbers of bytes below `2^31` and wrap above, and
since a value may be a property of several objects, a few of them are enough
(`doubled`).
-/

namespace MediasoupDemo.Rtmp

open ByteCodec MediasoupDemo.Runtime InputStream Method

/-! ## Strings -/

/-- `string.getBytes("ASCII")`: a character outside ASCII is a question mark. -/
def asciiBytes (string : String) : List UInt8 :=
  string.toList.map fun c => if c.toNat < 0x80 then UInt8.ofNat c.toNat else 0x3f

/-- `AmfString.writeStringTo`.  A key has no type byte. -/
def writeString (string : String) (isKey : Bool) : List UInt8 :=
  (if isKey then [] else [0x02]) ++ writeUnsignedInt16 (asciiBytes string).length ++
    asciiBytes string

/-- A string that is written without loss. -/
def Ascii (string : String) : Prop :=
  (∀ c ∈ string.toList, c.toNat < 0x80) ∧ string.length < 2 ^ 16

-- The characters of the string are looked at, not all characters there are.
instance (string : String) : Decidable (Ascii string) :=
  @instDecidableAnd _ _ (List.decidableBAll (fun c => c.toNat < 0x80) string.toList)
    (Nat.decLt _ _)

theorem length_asciiBytes (string : String) : (asciiBytes string).length = string.length := by
  rw [asciiBytes, List.length_map, String.length_toList]

theorem length_writeString (string : String) (isKey : Bool) :
    (writeString string isKey).length = sizeOfString string isKey := by
  rw [writeString, sizeOfString, List.length_append, List.length_append, length_asciiBytes,
    length_writeUnsignedInt16]
  cases isKey <;> rfl

theorem asciiString_asciiBytes {string : String} (h : ∀ c ∈ string.toList, c.toNat < 0x80) :
    asciiString (asciiBytes string) = string := by
  have hchars : (asciiBytes string).map
      (fun b => if b < 0x80 then Char.ofNat b.toNat else Char.ofNat 0xfffd) = string.toList := by
    rw [asciiBytes, List.map_map]
    conv => rhs; rw [← List.map_id string.toList]
    apply List.map_congr_left
    intro c hc
    have hlt := h c hc
    have hbyte : (UInt8.ofNat c.toNat).toNat = c.toNat := by
      rw [UInt8.toNat_ofNat']
      omega
    have hsmall : UInt8.ofNat c.toNat < 0x80 := by
      rw [UInt8.lt_iff_toNat_lt, hbyte]
      exact hlt
    rw [Function.comp_apply, if_pos hlt, if_pos hsmall, hbyte]
    exact Char.ofNat_toNat c
  rw [asciiString, hchars, String.ofList_toList]

/-! ## Numbers -/

/-- The conversion of an `int` to a double, which is exact. -/
def doubleOfInt (value : Int) : BitVec 64 :=
  if value = 0 then 0
  else
    let magnitude := value.natAbs
    let exponent := magnitude.log2
    BitVec.ofNat 64 ((if value < 0 then 2 ^ 63 else 0) + (1023 + exponent) * 2 ^ 52 +
      (magnitude - 2 ^ exponent) * 2 ^ (52 - exponent))

example : doubleToInt (doubleOfInt 44100) = 44100 ∧ doubleToInt (doubleOfInt (-3)) = -3 := by
  decide

/-- A number of at most 21 bits is exact in the upper half. -/
theorem doubleOfInt_low {value : Int} (h : value.natAbs < 2 ^ 21) :
    (doubleOfInt value).toNat % 2 ^ 32 = 0 := by
  unfold doubleOfInt
  by_cases hzero : value = 0
  · rw [if_pos hzero]
    rfl
  · have hexp : value.natAbs.log2 < 21 := (Nat.log2_lt (by omega)).mpr h
    have hpow : 2 ^ (52 - value.natAbs.log2) = 2 ^ 32 * 2 ^ (20 - value.natAbs.log2) := by
      rw [← Nat.pow_add]
      congr 1
      omega
    have hsign : 2 ^ 32 ∣ if value < 0 then 2 ^ 63 else 0 := by
      split <;> decide
    rw [if_neg hzero]
    dsimp only
    rw [BitVec.toNat_ofNat, Nat.mod_mod_of_dvd _ (by decide), hpow]
    apply Nat.mod_eq_zero_of_dvd
    apply Nat.dvd_add (Nat.dvd_add hsign (Dvd.dvd.mul_left (by decide) _))
    exact Dvd.dvd.mul_left (Dvd.intro _ rfl) _

theorem widened_doubleOfInt {value : Int} (h : value.natAbs < 2 ^ 21) :
    widened (doubleOfInt value) = doubleOfInt value :=
  widened_eq_self (by rw [doubleOfInt_low h]; decide)

/-! ## Trees -/

/-- `AmfNumber`, `AmfBoolean`, `AmfString`, `AmfObject`, `AmfNull`, `AmfUndefined` and `AmfMap`, as
the client builds them. -/
inductive AmfTree where
  | number (bits : BitVec 64)
  | boolean (value : Bool)
  | string (value : String)
  | object (properties : List (String × AmfTree))
  | null
  | undefined
  | map (properties : List (String × AmfTree))

namespace AmfTree

mutual

def writeTo : AmfTree → List UInt8
  | number bits => 0x00 :: writeDouble bits
  | boolean value => [0x01, if value then 0x01 else 0x00]
  | string value => writeString value false
  | object properties => 0x03 :: (writeProperties properties ++ objectEndMarker)
  | null => [0x05]
  | undefined => [0x06]
  | map properties =>
      0x08 :: (writeUnsignedInt32 properties.length ++
        (writeProperties properties ++ objectEndMarker))

/-- The loop of `AmfObject.writeTo` over the pairs of key and value. -/
def writeProperties : List (String × AmfTree) → List UInt8
  | [] => []
  | (key, value) :: properties =>
      writeString key true ++ (writeTo value ++ writeProperties properties)

end

mutual

/-- `getSize()`, of a tree that was not read. -/
def getSize : AmfTree → Int
  | number _ => 9
  | boolean _ => 2
  | string value => int (sizeOfString value false)
  | object properties => int (propertiesSize 1 properties + 3)
  | null => 1
  | undefined => 1
  -- `AmfMap.getSize` adds the length field to the size of the object.
  | map properties => int (int (propertiesSize 1 properties + 3) + 4)

/-- The loop of `AmfObject.getSize`. -/
def propertiesSize : (size : Int) → List (String × AmfTree) → Int
  | size, [] => size
  | size, (key, value) :: properties =>
      propertiesSize (int (int (size + sizeOfString key true) + getSize value)) properties

end

mutual

/-- The tree with the sizes that `readFrom` counts. -/
def toData : AmfTree → AmfData
  | number bits => .number bits
  | boolean value => .boolean value
  | string value => .string value
  | object properties => .object (propertyData properties) (int (propertiesSize 1 properties + 3))
  | null => .null
  | undefined => .undefined
  | map properties =>
      .map (propertyData properties) (int (int (propertiesSize 1 properties + 3) + 4))

def propertyData : List (String × AmfTree) → List (String × AmfData)
  | [] => []
  | (key, value) :: properties => (key, toData value) :: propertyData properties

end

mutual

/-- The tree on the wire. -/
def wire : AmfTree → AmfWire
  | number bits => .number bits
  | boolean value => .boolean (if value then 0x01 else 0x00)
  | string value => .string (asciiBytes value)
  | object properties => .object (wireProperties properties)
  | null => .null
  | undefined => .undefined
  | map properties => .map properties.length (wireProperties properties)

def wireProperties : List (String × AmfTree) → List (List UInt8 × AmfWire)
  | [] => []
  | (key, value) :: properties => (asciiBytes key, wire value) :: wireProperties properties

end

mutual

/-- A tree that is written without loss: `readDouble` returns its numbers, its strings are in
ASCII and have a length of two bytes, and so do its keys, no two of which are the same. -/
def Lossless : AmfTree → Prop
  | number bits => widened bits = bits
  | string value => Ascii value
  | object properties => LosslessProperties properties ∧ (properties.map Prod.fst).Nodup
  | map properties => LosslessProperties properties ∧ (properties.map Prod.fst).Nodup
  | boolean _ | null | undefined => True

def LosslessProperties : List (String × AmfTree) → Prop
  | [] => True
  | (key, value) :: properties => Ascii key ∧ Lossless value ∧ LosslessProperties properties

end

/-! ## The wire -/

theorem writeString_eq (string : String) (isKey : Bool) :
    writeString string isKey =
      (if isKey then [] else [0x02]) ++ stringBytes (asciiBytes string) := by
  rw [writeString, stringBytes, List.append_assoc]

mutual

theorem bytes_wire (t : AmfTree) : t.wire.bytes = t.writeTo := by
  match t with
  | .number bits => rfl
  | .boolean value => rfl
  | .string value =>
    rw [writeTo, writeString_eq]
    rfl
  | .object properties => rw [wire, AmfWire.bytes, propertyBytes_wire, writeTo]
  | .null => rfl
  | .undefined => rfl
  | .map properties => rw [wire, AmfWire.bytes, propertyBytes_wire, writeTo]

theorem propertyBytes_wire (properties : List (String × AmfTree)) :
    AmfWire.propertyBytes (wireProperties properties) = writeProperties properties := by
  match properties with
  | [] => rfl
  | (key, value) :: properties =>
    rw [wireProperties, AmfWire.propertyBytes, bytes_wire, propertyBytes_wire, writeProperties,
      writeString_eq]
    rfl

end

mutual

/-- `getSize` counts the bytes that are written in an `int`. -/
theorem getSize_eq (t : AmfTree) : t.getSize = int t.writeTo.length := by
  match t with
  | .number bits =>
    rw [writeTo, List.length_cons, length_writeDouble, getSize]
    rfl
  | .boolean value => exact (int_eq_self (by decide : InInt 2)).symm
  | .string value => rw [writeTo, length_writeString, getSize]
  | .object properties =>
    rw [getSize, propertiesSize_add properties, writeTo, List.length_cons, List.length_append,
      objectEndMarker]
    congr 1
    simp only [List.length_cons, List.length_nil]
    omega
  | .null => rfl
  | .undefined => rfl
  | .map properties =>
    rw [getSize, int_add, Int.add_assoc, propertiesSize_add properties, writeTo, List.length_cons,
      List.length_append, List.length_append, length_writeUnsignedInt32, objectEndMarker]
    congr 1
    simp only [List.length_cons, List.length_nil]
    omega

theorem propertiesSize_add (properties : List (String × AmfTree)) (size more : Int) :
    int (propertiesSize size properties + more) =
      int (size + (writeProperties properties).length + more) := by
  match properties with
  | [] => rw [propertiesSize, writeProperties, List.length_nil, Int.natCast_zero, Int.add_zero]
  | (key, value) :: properties =>
    rw [propertiesSize, propertiesSize_add properties, Int.add_assoc, int_add, Int.add_assoc,
      int_add, getSize_eq value, Int.add_left_comm, int_add, writeProperties, List.length_append,
      List.length_append, length_writeString]
    congr 1
    omega

end

theorem getSize_toData (t : AmfTree) : t.toData.getSize = t.getSize := by
  cases t <;> rfl

mutual

theorem wellFormed_wire (t : AmfTree) (h : t.Lossless) : t.wire.WellFormed := by
  match t with
  | .number bits => trivial
  | .boolean value => trivial
  | .string value =>
    show (asciiBytes value).length < 2 ^ 16
    rw [length_asciiBytes]
    exact h.2
  | .object properties => exact wellFormed_wireProperties properties h.1
  | .null => trivial
  | .undefined => trivial
  | .map properties => exact wellFormed_wireProperties properties h.1

theorem wellFormed_wireProperties (properties : List (String × AmfTree))
    (h : LosslessProperties properties) :
    AmfWire.WellFormedProperties (wireProperties properties) := by
  match properties with
  | [] => trivial
  | (key, value) :: properties =>
    refine ⟨?_, wellFormed_wire value h.2.1, wellFormed_wireProperties properties h.2.2⟩
    rw [length_asciiBytes]
    exact h.1.2

end

theorem putProperty_of_notMem {properties : List (String × AmfData)} {key : String}
    (h : key ∉ properties.map Prod.fst) (value : AmfData) :
    putProperty properties key value = properties ++ [(key, value)] := by
  have hnone : properties.any (fun entry => entry.1 == key) = false := by
    rw [List.any_eq_false]
    intro entry hentry heq
    apply h
    rw [← beq_iff_eq.mp heq]
    exact List.mem_map_of_mem hentry
  rw [putProperty, hnone]
  rfl

mutual

theorem toData_wire (t : AmfTree) (h : t.Lossless) : t.wire.toData = t.toData := by
  match t with
  | .number bits =>
    have hbits : widened bits = bits := h
    rw [wire, AmfWire.toData, hbits, toData]
  | .boolean value => cases value <;> rfl
  | .string value => rw [wire, AmfWire.toData, asciiString_asciiBytes h.1, toData]
  | .object properties =>
    rw [wire, AmfWire.toData, putProperties_wire properties h.1 h.2 [] fun _ _ => List.not_mem_nil,
      propertyBytes_wire, toData, propertiesSize_add]
    rfl
  | .null => rfl
  | .undefined => rfl
  | .map properties =>
    rw [wire, AmfWire.toData, putProperties_wire properties h.1 h.2 [] fun _ _ => List.not_mem_nil,
      propertyBytes_wire, toData, int_add, Int.add_assoc (propertiesSize _ _), propertiesSize_add,
      Int.add_assoc]
    rfl

theorem putProperties_wire (properties : List (String × AmfTree))
    (h : LosslessProperties properties) (hnodup : (properties.map Prod.fst).Nodup)
    (before : List (String × AmfData))
    (hfresh : ∀ key ∈ properties.map Prod.fst, key ∉ before.map Prod.fst) :
    AmfWire.putProperties before (wireProperties properties) =
      before ++ propertyData properties := by
  match properties with
  | [] => exact (List.append_nil before).symm
  | (key, value) :: properties =>
    obtain ⟨hnew, hnodup⟩ := List.nodup_cons.mp hnodup
    have hlater : ∀ other ∈ properties.map Prod.fst,
        other ∉ (before ++ [(key, value.toData)]).map Prod.fst := by
      intro other hother hmem
      rw [List.map_append, List.mem_append] at hmem
      rcases hmem with hbefore | hkey
      · exact hfresh other (List.mem_cons_of_mem _ hother) hbefore
      · rw [List.mem_singleton.mp hkey] at hother
        exact hnew hother
    rw [wireProperties, AmfWire.putProperties, asciiString_asciiBytes h.1.1,
      toData_wire value h.2.1, putProperty_of_notMem (hfresh key List.mem_cons_self),
      putProperties_wire properties h.2.2 hnodup _ hlater, List.append_assoc]
    rfl

end

/-! ## Lists of trees -/

theorem itemBytes_wire (data : List AmfTree) :
    AmfWire.itemBytes (data.map wire) = data.flatMap writeTo := by
  induction data with
  | nil => rfl
  | cons item data ih =>
    rw [List.map_cons, AmfWire.itemBytes, bytes_wire, ih, List.flatMap_cons]

theorem itemData_wire {data : List AmfTree} (h : ∀ item ∈ data, item.Lossless) :
    AmfWire.itemData (data.map wire) = data.map toData := by
  induction data with
  | nil => rfl
  | cons item data ih =>
    rw [List.map_cons, AmfWire.itemData, toData_wire item (h item (.head _)),
      ih fun i hi => h i (.tail _ hi), List.map_cons]

theorem wellFormedItems_wire {data : List AmfTree} (h : ∀ item ∈ data, item.Lossless) :
    AmfWire.WellFormedItems (data.map wire) := by
  induction data with
  | nil => trivial
  | cons item data ih =>
    exact ⟨wellFormed_wire _ (h item (.head _)), ih fun i hi => h i (.tail _ hi)⟩

/-! ## Reading a tree back -/

/-- The reader takes the bytes of a tree.  The end markers of objects and maps have to come in one
read, and a string that is empty may not be the last one of an array in memory. -/
theorem readsBefore_readFrom {whole : Prop} {t : AmfTree} (h : t.Lossless)
    (hmarked : t.wire.marked = true → whole) :
    ReadsBefore whole (t.wire.endsEmpty = false) readFrom t.writeTo t.toData := by
  rw [← bytes_wire, ← toData_wire t h]
  exact (t.wire.readsIff_readFrom (wellFormed_wire t h) hmarked).before

end AmfTree

/-- From a stream that delivers what is asked for, `AmfDecoder.readFrom` reads back every tree that
is written without loss and leaves exactly what follows it.  `getSize` of both trees is the same,
and it is the number of bytes that were written just when this number is an `int`. -/
theorem readFrom_writeTo (t : AmfTree) (h : t.Lossless) (trailing : List UInt8) :
    readFrom.run { bytes := t.writeTo ++ trailing } = .ok t.toData { bytes := trailing } ∧
      (t.getSize = t.writeTo.length ↔ t.writeTo.length < 2 ^ 31) ∧
      (t.toData.getSize = t.writeTo.length ↔ t.writeTo.length < 2 ^ 31) := by
  have hsize : t.getSize = t.writeTo.length ↔ t.writeTo.length < 2 ^ 31 := by
    rw [t.getSize_eq]
    constructor
    · intro heq
      have hin := inInt_int t.writeTo.length
      rw [heq] at hin
      have hlt := hin.2
      omega
    · exact fun hlt => int_eq_self ⟨by omega, by omega⟩
  refine ⟨?_, hsize, by rw [t.getSize_toData]; exact hsize⟩
  · have hreads : ReadsBefore True (t.wire.endsEmpty = false) readFrom t.writeTo t.toData :=
      AmfTree.readsBefore_readFrom h fun _ => trivial
    obtain ⟨segments, hlater, hrun⟩ := hreads trailing (.network []) (fun _ => rfl) nofun
    cases segments with
    | network sizes =>
      have hnil : sizes = [] := List.suffix_nil.mp hlater
      subst hnil
      exact hrun
    | array => exact hlater.elim

/-- An object with a number, a string that is empty and a map. -/
theorem readFrom_writeTo_nested :
    readFrom.run
        { bytes := (AmfTree.object [("level", .number 0x4014000000000000), ("code", .string ""),
            ("data", .map [("ok", .boolean true), ("next", .undefined)])]).writeTo ++ [0x05] } =
      .ok (AmfTree.object [("level", .number 0x4014000000000000), ("code", .string ""),
          ("data", .map [("ok", .boolean true), ("next", .undefined)])]).toData
        { bytes := [0x05] } := by
  have hlevel : (AmfTree.number 0x4014000000000000).Lossless :=
    show widened 0x4014000000000000 = 0x4014000000000000 by decide
  have hcode : (AmfTree.string "").Lossless := show Ascii "" by decide
  have hdata : (AmfTree.map [("ok", .boolean true), ("next", .undefined)]).Lossless :=
    ⟨⟨by decide, trivial, by decide, trivial, trivial⟩, by decide⟩
  have hobject : (AmfTree.object [("level", .number 0x4014000000000000), ("code", .string ""),
      ("data", .map [("ok", .boolean true), ("next", .undefined)])]).Lossless :=
    ⟨⟨by decide, hlevel, by decide, hcode, by decide, hdata, trivial⟩, by decide⟩
  exact (readFrom_writeTo _ hobject [0x05]).1

/-- Objects over a string, each of which is two properties of the next. -/
def doubled : Nat → AmfTree
  | 0 => .string (String.ofList (List.replicate 65535 'a'))
  | n + 1 => .object [("a", doubled n), ("b", doubled n)]

theorem lossless_doubled (n : Nat) : (doubled n).Lossless := by
  induction n with
  | zero =>
    refine ⟨fun c hc => ?_, ?_⟩
    · rw [String.toList_ofList] at hc
      rw [List.eq_of_mem_replicate hc]
      decide
    · rw [String.length_ofList, List.length_replicate]
      decide
  | succ n ih =>
    have hkeys : ["a", "b"].Nodup := by decide
    exact ⟨⟨by decide, ih, by decide, ih, trivial⟩, hkeys⟩

theorem length_doubled (n : Nat) : (doubled n).writeTo.length + 10 = 65548 * 2 ^ n := by
  induction n with
  | zero =>
    rw [doubled, AmfTree.writeTo, length_writeString, sizeOfString, String.length_ofList,
      List.length_replicate]
    rfl
  | succ n ih =>
    have hkey : ∀ key : String, key.length = 1 → (writeString key true).length = 3 := by
      intro key hkey
      rw [length_writeString, sizeOfString, hkey]
      rfl
    rw [doubled, AmfTree.writeTo, AmfTree.writeProperties, AmfTree.writeProperties,
      AmfTree.writeProperties, Nat.pow_succ]
    simp only [List.length_cons, List.length_append, hkey "a" rfl, hkey "b" rfl, objectEndMarker,
      List.length_nil]
    omega

/-- Fifteen objects over one string of 65535 characters are more bytes than an `int` counts. -/
theorem getSize_doubled_ne :
    (doubled 15).Lossless ∧ (doubled 15).writeTo.length = 2147876854 ∧
      (doubled 15).getSize = -2147090442 ∧ (doubled 15).toData.getSize = -2147090442 := by
  have hlength : (doubled 15).writeTo.length = 2147876854 := by
    have h := length_doubled 15
    omega
  have hsize : (doubled 15).getSize = -2147090442 := by
    rw [AmfTree.getSize_eq, hlength]
    rfl
  exact ⟨lossless_doubled 15, hlength, hsize, (AmfTree.getSize_toData _).trans hsize⟩

end MediasoupDemo.Rtmp
