import MediasoupDemo.Lib.ByteFile
import MediasoupDemo.Runtime.ByteBuffer

/-!
# The boxes of the recorded file

A recording is a sequence of ISO 14496-12 boxes.  This module holds the two
boxes that `SrsMp4Muxer` lays out byte by byte: the `ftyp` box of the
container library (`FileTypeBox`, `AbstractBox.getBox`) and the `mdat` box,
whose header the muxer writes twice (`InterleaveChunkMdat`).

The header of the `mdat` box always takes 16 bytes.  A box that needs a 64-bit
size uses all of them; any other box has its size in the first four, and the
last eight are zeros that a reader counts as content.

`readBoxHeader` is the other side, the rule by which a reader finds the type
and the extent of the box at an offset, and `readBoxHeader_mdat` says what it
finds at an `mdat` header.
-/

namespace MediasoupDemo.Mp4

open ByteCodec MediasoupDemo.Runtime

/-- `IsoFile.fourCCtoBytes`. -/
def fourCCtoBytes (fourCC : String) : List UInt8 :=
  let bytes := (fourCC.toList.take 4).map fun c => UInt8.ofNat c.toNat
  bytes ++ List.replicate (4 - bytes.length) 0

/-! ## The file type box -/

structure FileTypeBox where
  majorBrand : String
  minorVersion : Int
  compatibleBrands : List String

namespace FileTypeBox

def getContentSize (box : FileTypeBox) : Int := 8 + box.compatibleBrands.length * 4

def getSize (box : FileTypeBox) : Int :=
  box.getContentSize + (8 + if box.getContentSize ≥ 2 ^ 32 - 8 then 8 else 0)

def getHeader (box : FileTypeBox) : List UInt8 :=
  if box.getContentSize + 8 < 2 ^ 32 then putInt box.getSize ++ fourCCtoBytes "ftyp"
  else putInt 1 ++ fourCCtoBytes "ftyp" ++ putLong box.getSize

def getContent (box : FileTypeBox) : List UInt8 :=
  fourCCtoBytes box.majorBrand ++ putInt box.minorVersion ++
    box.compatibleBrands.flatMap fourCCtoBytes

/-- The bytes that `AbstractBox.getBox` writes. -/
def getBox (box : FileTypeBox) : List UInt8 := box.getHeader ++ box.getContent

end FileTypeBox

def createFileTypeBox : FileTypeBox :=
  { majorBrand := "isom", minorVersion := 0, compatibleBrands := ["isom", "3gp4"] }

theorem createFileTypeBox_getBox_length :
    (createFileTypeBox.getBox.length : Int) = createFileTypeBox.getSize := by
  decide

/-! ## The media data box -/

/-- `SrsMp4Muxer.InterleaveChunkMdat`. -/
structure InterleaveChunkMdat where
  first : Bool := true
  contentSize : Int := 1024 * 1024 * 1024
  deriving DecidableEq

namespace InterleaveChunkMdat

/-- `getHeaderSize()`: the limit of the header buffer. -/
def getHeaderSize : Nat := 16

def getSize (mdat : InterleaveChunkMdat) : Int := getHeaderSize + mdat.contentSize

/-- `isSmallBox(contentSize)`.  The caller passes the size of the whole box, so
the header is counted twice. -/
def isSmallBox (contentSize : Int) : Bool := contentSize + getHeaderSize < 4294967296

theorem isSmallBox_iff {size : Int} : isSmallBox size = true ↔ size + 16 < 4294967296 := by
  rw [isSmallBox, decide_eq_true_iff]
  rfl

/-- The header bytes that `getBox` writes. -/
def getBox (mdat : InterleaveChunkMdat) : List UInt8 :=
  let size := mdat.getSize
  (if isSmallBox size then putInt size else putInt 1) ++ fourCCtoBytes "mdat" ++
    if isSmallBox size then List.replicate 8 0 else putLong size

theorem fourCCtoBytes_mdat_length : (fourCCtoBytes "mdat").length = 4 := by decide

/-- The header takes 16 bytes in both forms. -/
@[simp] theorem getBox_length (mdat : InterleaveChunkMdat) :
    mdat.getBox.length = getHeaderSize := by
  unfold getBox
  cases hsmall : isSmallBox mdat.getSize <;>
    simp [hsmall, fourCCtoBytes_mdat_length, getHeaderSize]

end InterleaveChunkMdat

/-! ## Reading a box header -/

/-- What a reader learns from a box header. -/
structure BoxHeader where
  type : List UInt8
  headerSize : Nat
  size : Nat
  deriving DecidableEq

/-- The header of the box at an offset: 32 bits of size and the type.  The size
`1` announces a 64-bit size behind the type, and the size `0` a box that goes on
to the end of the file. -/
def readBoxHeader (file : List UInt8) (offset : Nat) : Option BoxHeader :=
  let size := beNat (ByteFile.region file offset 4)
  let type := ByteFile.region file (offset + 4) 4
  if file.length < offset + 8 then none
  else if size = 1 then
    if file.length < offset + 16 then none
    else
      some { type, headerSize := 16, size := beNat (ByteFile.region file (offset + 8) 8) }
  else some { type, headerSize := 8, size := if size = 0 then file.length - offset else size }

/-- The three fields of a 16-byte header in the middle of a file. -/
theorem region_header (front a b c back : List UInt8) (ha : a.length = 4) (hb : b.length = 4)
    (hc : c.length = 8) :
    ByteFile.region (front ++ (a ++ b ++ c) ++ back) front.length 4 = a ∧
      ByteFile.region (front ++ (a ++ b ++ c) ++ back) (front.length + 4) 4 = b ∧
      ByteFile.region (front ++ (a ++ b ++ c) ++ back) (front.length + 8) 8 = c := by
  refine ⟨?_, ?_, ?_⟩
  · have h := ByteFile.region_middle front a (b ++ c ++ back)
    rw [ha] at h
    simpa using h
  · have h := ByteFile.region_middle (front ++ a) b (c ++ back)
    rw [List.length_append, ha, hb] at h
    simpa using h
  · have h := ByteFile.region_middle (front ++ a ++ b) c back
    rw [List.length_append, List.length_append, ha, hb, hc] at h
    simpa using h

/-- A reader finds the type and the full size of a media data box. -/
theorem readBoxHeader_mdat (front back : List UInt8) (mdat : InterleaveChunkMdat)
    (h0 : 0 ≤ mdat.contentSize) (hsize : mdat.getSize < 2 ^ 63) :
    ∃ headerSize ≤ InterleaveChunkMdat.getHeaderSize,
      readBoxHeader (front ++ mdat.getBox ++ back) front.length =
        some { type := fourCCtoBytes "mdat", headerSize, size := mdat.getSize.toNat } := by
  have hpos : 16 ≤ mdat.getSize := by
    simp only [InterleaveChunkMdat.getSize, InterleaveChunkMdat.getHeaderSize]
    omega
  have hlen : front.length + 16 ≤ (front ++ mdat.getBox ++ back).length := by
    simp only [List.length_append, InterleaveChunkMdat.getBox_length,
      InterleaveChunkMdat.getHeaderSize]
    omega
  cases hsmall : InterleaveChunkMdat.isSmallBox mdat.getSize with
  | true =>
    have hlt := InterleaveChunkMdat.isSmallBox_iff.mp hsmall
    have hbox : mdat.getBox =
        putInt mdat.getSize ++ fourCCtoBytes "mdat" ++ List.replicate 8 0 := by
      simp [InterleaveChunkMdat.getBox, hsmall]
    obtain ⟨hsz, htype, _⟩ := region_header front (putInt mdat.getSize) (fourCCtoBytes "mdat")
      (List.replicate 8 0) back (putInt_length _) InterleaveChunkMdat.fourCCtoBytes_mdat_length
      List.length_replicate
    have hnat : beNat (putInt mdat.getSize) = mdat.getSize.toNat := by
      rw [putInt, beNat_beBytes_of_lt (by omega)]
      omega
    refine ⟨8, by decide, ?_⟩
    simp only [readBoxHeader]
    rw [if_neg (by omega), hbox, hsz, htype, hnat, if_neg (by omega), if_neg (by omega)]
  | false =>
    have hbox : mdat.getBox =
        putInt 1 ++ fourCCtoBytes "mdat" ++ putLong mdat.getSize := by
      simp [InterleaveChunkMdat.getBox, hsmall]
    obtain ⟨hsz, htype, hlong⟩ := region_header front (putInt 1) (fourCCtoBytes "mdat")
      (putLong mdat.getSize) back (putInt_length _)
      InterleaveChunkMdat.fourCCtoBytes_mdat_length (putLong_length _)
    have hone : beNat (putInt 1) = 1 := by decide
    have hnat : beNat (putLong mdat.getSize) = mdat.getSize.toNat := by
      rw [putLong, beNat_beBytes_of_lt (by omega)]
      omega
    refine ⟨16, Nat.le_refl 16, ?_⟩
    simp only [readBoxHeader]
    rw [if_neg (by omega), hbox, hsz, htype, hlong, hone, if_pos rfl, if_neg ?_, hnat]
    rw [← hbox]
    omega

end MediasoupDemo.Mp4
