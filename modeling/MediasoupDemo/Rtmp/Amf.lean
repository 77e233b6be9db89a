import MediasoupDemo.Runtime.InputStream

/-!
# Reading AMF0 values

Commands and data messages carry AMF0 values.  `AmfDecoder.readFrom` reads the
type byte of a value and leaves the rest to the class of the type.  Objects
and maps nest, so the readers call each other; every call takes a byte from
the stream or throws, and `depth` bounds the calls by the length of the
stream.

Doubles are kept as raw 64-bit patterns.  `readDouble` assembles the lower
half in `int`s, so a set top bit of that half fills the upper half with ones.

A value remembers the size that its reader counted, since `getSize` returns
that number and not the size of the value.  Sizes are `int`s, and a sum of sizes
wraps.
-/

namespace MediasoupDemo.Rtmp

open MediasoupDemo.Runtime InputStream

/-- The values of AMF0.  Objects, maps and arrays carry the size that
`readFrom` has counted. -/
inductive AmfData where
  | number (bits : BitVec 64)
  | boolean (value : Bool)
  | string (value : String)
  | object (properties : List (String × AmfData)) (size : Int)
  | null
  | undefined
  | map (properties : List (String × AmfData)) (size : Int)
  | array (items : List AmfData) (size : Int)

/-- `new String(bytes, "ASCII")`: a byte outside ASCII is the replacement
character. -/
def asciiString (bytes : List UInt8) : String :=
  String.ofList (bytes.map fun b => if b < 0x80 then Char.ofNat b.toNat else Char.ofNat 0xfffd)

/-- `AmfString.sizeOf(string, isKey)`, before it is reduced to an `int`. -/
def sizeOfString (string : String) (isKey : Bool) : Nat :=
  (if isKey then 0 else 1) + 2 + string.length

/-- `getSize()` of a value that was read. -/
def AmfData.getSize : AmfData → Int
  | .number _ => 9
  | .boolean _ => 2
  | .string value => int (sizeOfString value false)
  | .null => 1
  | .undefined => 1
  | .object _ size => size
  | .map _ size => size
  | .array _ size => size

/-- `Util.readDouble`. -/
def readDouble : Method InputStream (BitVec 64) := do
  let high ← readBytes 4
  let low ← readBytes 4
  -- The lower half is an `int` that is widened with its sign.
  let upper : BitVec 64 := BitVec.ofNat 64 (ByteCodec.beNat high) <<< 32
  pure (upper ||| (BitVec.ofNat 32 (ByteCodec.beNat low)).signExtend 64)

/-- The narrowing conversion `(int) d` of a double: towards zero, to the ends
of the range outside it, and zero for a NaN. -/
def doubleToInt (bits : BitVec 64) : Int :=
  let exponent := (bits >>> 52).toNat % 2 ^ 11
  let fraction := bits.toNat % 2 ^ 52
  if exponent = 2047 ∧ fraction ≠ 0 then 0
  else
    let magnitude : Nat :=
      if exponent = 0 then 0
      else if 1023 + 32 ≤ exponent then 2 ^ 32
      else (2 ^ 52 + fraction) / 2 ^ (1075 - exponent)
    if bits.msb then max (-2 ^ 31) (-(magnitude : Int)) else min (2 ^ 31 - 1) magnitude

/-- `AmfString.readFrom`, and `readStringFrom` behind the type byte. -/
def readString : Method InputStream String := do
  let length ← readUnsignedInt16
  pure (asciiString (← readBytesUntilFull length.toNat))

/-- `LinkedHashMap.put`: a key keeps its place. -/
def putProperty (properties : List (String × AmfData)) (key : String) (value : AmfData) :
    List (String × AmfData) :=
  if properties.any (fun entry => entry.1 == key) then
    properties.map fun entry => if entry.1 == key then (key, value) else entry
  else properties ++ [(key, value)]

/-- `mark(3)`, one read of three bytes, and `reset()` unless they are the end
marker of an object. -/
def readEndMarker : Method InputStream Bool := do
  let s ← get
  let marker := (← readSome 3).getD []
  if marker = [0x00, 0x00, 0x09] then pure true
  else
    modify fun s' => { s' with bytes := s.bytes }
    pure false

mutual

/-- `AmfDecoder.readFrom`.  An unknown type byte is a `null` that the `switch`
runs into. -/
def readAmf : (depth : Nat) → Method InputStream AmfData
  | 0 => throw (.io "depth")
  | depth + 1 => do
      let amfType ← readByte
      if amfType = 0x00 then pure (.number (← readDouble))
      else if amfType = 0x01 then pure (.boolean ((← read) == some 0x01))
      else if amfType = 0x02 then pure (.string (← readString))
      else if amfType = 0x03 then
        let (properties, size) ← readProperties depth [] 1
        pure (.object properties size)
      else if amfType = 0x05 then pure .null
      else if amfType = 0x06 then pure .undefined
      else if amfType = 0x08 then
        let _ ← readUnsignedInt32
        let (properties, size) ← readProperties depth [] 1
        pure (.map properties (int (size + 4)))
      else if amfType = 0x0a then
        let length ← readUnsignedInt32
        if length < 0 then throw (.illegalArgument "Illegal Capacity")
        let (items, size) ← readItems depth length.toNat 5
        pure (.array items size)
      else throw .nullPointer

/-- The loop of `AmfObject.readFrom`. -/
def readProperties : (depth : Nat) → List (String × AmfData) → (size : Int) →
    Method InputStream (List (String × AmfData) × Int)
  | 0, _, _ => throw (.io "depth")
  | depth + 1, properties, size => do
      if ← readEndMarker then pure (properties, int (size + 3))
      else
        let key ← readString
        let value ← readAmf depth
        readProperties depth (putProperty properties key value)
          (int (size + sizeOfString key true + value.getSize))

/-- The loop of `AmfArray.readFrom` with `left` items to go. -/
def readItems : (depth left : Nat) → (size : Int) → Method InputStream (List AmfData × Int)
  | _, 0, size => pure ([], size)
  | 0, _ + 1, _ => throw (.io "depth")
  | depth + 1, left + 1, size => do
      let item ← readAmf depth
      let (items, size) ← readItems depth left (int (size + item.getSize))
      pure (item :: items, size)

end

/-- `AmfDecoder.readFrom` with enough depth for the stream. -/
def readFrom : Method InputStream AmfData := do
  readAmf (2 * (← get).bytes.length + 2)

/-- What holds behind the type byte of a value, whatever the type, holds of the reader. -/
theorem readAmf_succ_of {P Q : Method InputStream AmfData → Prop} {depth : Nat}
    (behindByte : ∀ f : UInt8 → Method InputStream AmfData, (∀ amfType, P (f amfType)) →
      Q (readByte >>= f))
    (number : P (do pure (.number (← readDouble))))
    (boolean : P (do pure (.boolean ((← read) == some 0x01))))
    (string : P (do pure (.string (← readString))))
    (object : P (do
      let (properties, size) ← readProperties depth [] 1
      pure (.object properties size)))
    (null : P (pure .null)) (undefined : P (pure .undefined))
    (map : P (do
      let _ ← readUnsignedInt32
      let (properties, size) ← readProperties depth [] 1
      pure (.map properties (int (size + 4)))))
    (array : P (do
      let length ← readUnsignedInt32
      if length < 0 then throw (.illegalArgument "Illegal Capacity")
      let (items, size) ← readItems depth length.toNat 5
      pure (.array items size)))
    (unknown : P (throw .nullPointer)) : Q (readAmf (depth + 1)) := by
  rw [readAmf]
  refine behindByte _ fun amfType => ?_
  refine iteInduction (fun _ => number) fun _ => ?_
  refine iteInduction (fun _ => boolean) fun _ => ?_
  refine iteInduction (fun _ => string) fun _ => ?_
  refine iteInduction (fun _ => object) fun _ => ?_
  refine iteInduction (fun _ => null) fun _ => ?_
  refine iteInduction (fun _ => undefined) fun _ => ?_
  refine iteInduction (fun _ => map) fun _ => ?_
  exact iteInduction (fun _ => array) fun _ => unknown

end MediasoupDemo.Rtmp
