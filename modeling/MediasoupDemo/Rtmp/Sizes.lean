import MediasoupDemo.Rtmp.Consumption
import Mathlib.Algebra.BigOperators.Group.List.Basic

/-!
# What a reader counts is what it takes

The readers of objects, maps and arrays count the bytes that they take, and the
loop of `readVariableData` relies on the count.  `Counts` says that the count is
right as long as the input does not end: a reader that starts with a count adds to
it what it takes from the input.  At the end of the input it is not, because
`readByte` returns `0xff` and takes nothing.

`counts_readBody` follows: a packet determines how many bytes it was read from.
-/

namespace MediasoupDemo.Runtime.InputStream

open Method

variable {α β : Type}

/-- A reader that returns before the end of the input adds the bytes that it takes to a count. -/
structure Counts (x : Method InputStream α) (count : Int) (size : α → Int) : Prop where
  takes : Takes x
  counted : ∀ s a s', x.run s = .ok a s' → s'.bytes ≠ [] →
    int (s'.bytes.length + size a) = int (s.bytes.length + count)

variable {count : Int}

theorem counts_pure {size : α → Int} {a : α} (h : int (size a) = int count) :
    Counts (pure a) count size where
  takes := takes_pure a
  counted s b s' hrun _ := by
    cases hrun
    rw [← int_add_int, h, int_add_int]

theorem counts_throw (e : JavaException) (count : Int) (size : α → Int) :
    Counts (throw e : Method InputStream α) count size where
  takes := takes_throw e
  counted s a s' hrun := by cases hrun

theorem Counts.bind {x : Method InputStream α} {f : α → Method InputStream β} {middle : α → Int}
    {size : β → Int} (hx : Counts x count middle) (hf : ∀ a, Counts (f a) (middle a) size) :
    Counts (x >>= f) count size where
  takes := hx.takes.bind fun a => (hf a).takes
  counted s b s'' hrun hne := by
    obtain ⟨a, s', hfirst, hrest⟩ := run_bind_eq_ok hrun
    -- what is left after the second reader was there after the first
    have hsuffix := (hf a).takes s' b s'' hrest
    have hne' : s'.bytes ≠ [] := by
      intro hnil
      rw [hnil] at hsuffix
      exact hne (List.suffix_nil.mp hsuffix)
    exact ((hf a).counted s' b s'' hrest hne).trans (hx.counted s a s' hfirst hne')

/-- A count may start higher. -/
theorem Counts.shift {x : Method InputStream α} {size : α → Int} (hx : Counts x count size)
    (more : Int) :
    Counts x (count + more) fun a => size a + more where
  takes := hx.takes
  counted s a s' hrun hne := by
    rw [← Int.add_assoc, ← int_add, hx.counted s a s' hrun hne, int_add, Int.add_assoc]

theorem Counts.of_int {x : Method InputStream α} {size : α → Int} {count' : Int}
    (hx : Counts x count' size) (h : int count' = int count) : Counts x count size where
  takes := hx.takes
  counted s a s' hrun hne := by
    rw [hx.counted s a s' hrun hne, ← int_add_int, h, int_add_int]

theorem counts_get_bind {f : InputStream → Method InputStream β} {size : β → Int}
    (hf : ∀ s, Counts (f s) count size) : Counts (get >>= f) count size where
  takes := takes_get_bind fun s => (hf s).takes
  counted s b s' hrun hne := (hf s).counted s b s' hrun hne

section Readers

variable (count : Int)

theorem counts_read : Counts read count fun _ => count + 1 where
  takes := shrinks_read.takes
  counted := by
    rintro ⟨bytes, segments⟩ a s' hrun hne
    cases bytes with
    | nil =>
      cases hrun
      exact absurd rfl hne
    | cons b bytes =>
      cases hrun
      show int (bytes.length + (count + 1)) = int ((bytes.length + 1 : Nat) + count)
      congr 1
      omega

theorem counts_readByte : Counts readByte count fun _ => count + 1 :=
  (counts_read count).bind fun _ => counts_pure rfl

theorem counts_readBytes (n : Nat) : Counts (readBytes n) count fun _ => count + n := by
  induction n generalizing count with
  | zero => exact counts_pure (congrArg int (Int.add_zero count))
  | succ n ih =>
    refine (counts_readByte count).bind fun _ => (ih (count + 1)).bind fun _ => counts_pure ?_
    congr 1
    omega

theorem counts_readUnsignedInt16 : Counts readUnsignedInt16 count fun _ => count + 2 :=
  (counts_readBytes count 2).bind fun _ => counts_pure rfl

theorem counts_readUnsignedInt32 : Counts readUnsignedInt32 count fun _ => count + 4 :=
  (counts_readBytes count 4).bind fun _ => counts_pure rfl

theorem counts_readBytesUntilFull (n : Nat) :
    Counts (readBytesUntilFull n) count fun data => count + data.length where
  takes := (shrinks_readers.readBytesUntilFull n).takes
  counted s data s' hrun _ := by
    obtain ⟨hsplit, -⟩ := readBytesUntilFull_eq_ok hrun
    rw [← hsplit, List.length_append]
    congr 1
    omega

end Readers

end MediasoupDemo.Runtime.InputStream

namespace MediasoupDemo.Rtmp

open MediasoupDemo.Runtime InputStream RtmpDecoder Method

/-! ## Values -/

section Values

variable (count : Int)

theorem counts_readDouble : Counts readDouble count fun _ => count + 8 :=
  (counts_readBytes count 4).bind fun _ => (counts_readBytes _ 4).bind fun _ =>
    counts_pure (congrArg int (by omega))

theorem counts_readString :
    Counts readString count fun string => count + sizeOfString string true := by
  refine (counts_readUnsignedInt16 count).bind fun _ => (counts_readBytesUntilFull _ _).bind
    fun data => counts_pure ?_
  have hlength : (asciiString data).length = data.length := by
    rw [asciiString, String.length_ofList, List.length_map]
  rw [sizeOfString, hlength]
  congr 1
  simp only [if_true]
  omega

theorem counts_readEndMarker :
    Counts readEndMarker count fun marked => if marked then count + 3 else count where
  takes := shrinks_readEndMarker.takes
  counted s marked s' hrun _ := by
    rw [readEndMarker, run_get_bind] at hrun
    obtain ⟨marker, s₁, hread, hrest⟩ := run_bind_eq_ok hrun
    obtain ⟨hsplit, -, -⟩ := readSome_eq_ok hread
    dsimp only at hrest
    split at hrest
    next hmarker =>
      cases hrest
      rw [← hsplit, hmarker]
      congr 1
      simp only [if_true, List.length_append, List.length_cons, List.length_nil]
      omega
    next =>
      cases hrest
      rfl

end Values

theorem counts_readAmf_all (depth : Nat) :
    (∀ count, Counts (readAmf depth) count fun value => count + value.getSize) ∧
      (∀ properties size, Counts (readProperties depth properties size) size Prod.snd) ∧
      ∀ left size, Counts (readItems depth left size) size Prod.snd := by
  induction depth with
  | zero =>
    refine ⟨fun _ => counts_throw _ _ _, fun _ _ => counts_throw _ _ _, fun left size => ?_⟩
    cases left with
    | zero => exact counts_pure rfl
    | succ left => exact counts_throw _ _ _
  | succ depth ih =>
    obtain ⟨hamf, hproperties, hitems⟩ := ih
    refine ⟨?_, ?_, ?_⟩
    · intro count
      apply readAmf_succ_of (P := fun x => Counts x (count + 1) fun value => count + value.getSize)
        (Q := fun x => Counts x count fun value => count + value.getSize)
      case behindByte => exact fun f hf => (counts_readByte count).bind hf
      case number =>
        exact (counts_readDouble _).bind fun _ => counts_pure (by rw [Int.add_assoc]; rfl)
      case boolean =>
        exact (counts_read _).bind fun _ => counts_pure (by rw [Int.add_assoc]; rfl)
      case string =>
        refine (counts_readString _).bind fun string => counts_pure ?_
        show int (count + int (sizeOfString string false)) =
          int (count + 1 + sizeOfString string true)
        rw [int_add_int, sizeOfString, sizeOfString]
        congr 1
        simp only [if_true, Bool.false_eq_true, if_false]
        omega
      case object =>
        have hobject := (hproperties [] 1).shift count
        rw [Int.add_comm 1 count] at hobject
        refine hobject.bind fun read => ?_
        obtain ⟨properties, size⟩ := read
        exact counts_pure (congrArg int (Int.add_comm count size))
      case null | undefined => exact counts_pure rfl
      case map =>
        -- the four bytes of the count are added to the size at the end
        have hmap := (hproperties [] 1).shift (count + 4)
        have hstart : 1 + (count + 4) = count + 1 + 4 := by omega
        rw [hstart] at hmap
        refine (counts_readUnsignedInt32 _).bind fun _ => hmap.bind fun read => ?_
        obtain ⟨properties, size⟩ := read
        apply counts_pure
        show int (count + int (size + 4)) = int (size + (count + 4))
        rw [int_add_int]
        congr 1
        omega
      case array =>
        refine (counts_readUnsignedInt32 _).bind fun length => ?_
        have harray := (hitems length.toNat 5).shift count
        have hstart : 5 + count = count + 1 + 4 := by omega
        rw [hstart] at harray
        split_ifs
        · exact (counts_throw _ _ (fun _ => count + 1 + 4)).bind fun _ =>
            harray.bind fun read => counts_pure (congrArg int (Int.add_comm count read.2))
        · exact harray.bind fun read => counts_pure (congrArg int (Int.add_comm count read.2))
      case unknown => exact counts_throw _ _ _
    · intro properties size
      rw [readProperties]
      refine (counts_readEndMarker size).bind fun marked => ?_
      cases marked with
      | true => exact counts_pure Int.bmod_bmod
      | false =>
        refine (counts_readString _).bind fun key => (hamf _).bind fun value => ?_
        exact (hproperties _ _).of_int Int.bmod_bmod
    · intro left size
      cases left with
      | zero =>
        rw [readItems]
        exact counts_pure rfl
      | succ left =>
        rw [readItems]
        exact (hamf size).bind fun item =>
          ((hitems _ _).of_int Int.bmod_bmod).bind fun rest => counts_pure rfl

theorem counts_readFrom (count : Int) :
    Counts readFrom count fun value => count + value.getSize :=
  counts_get_bind fun _ => (counts_readAmf_all _).1 count

/-! ## Bodies -/

/-- The size of the values of a command or of a data message. -/
def valuesSize (data : List AmfData) : Int := (data.map AmfData.getSize).sum

theorem counts_readVariableData (packetLength turns : Nat) :
    ∀ count bytesAlreadyRead, Counts (readVariableData packetLength turns bytesAlreadyRead) count
      fun data => count + valuesSize data := by
  induction turns with
  | zero => exact fun _ _ => counts_pure (congrArg int (Int.add_zero _))
  | succ turns ih =>
    intro count bytesAlreadyRead
    rw [readVariableData]
    refine (counts_readFrom count).bind fun dataItem => ?_
    dsimp only
    split_ifs
    · refine (ih _ _).bind fun rest => counts_pure ?_
      rw [valuesSize, List.map_cons, List.sum_cons, ← Int.add_assoc]
      rfl
    · apply counts_pure
      rw [valuesSize, List.map_singleton, List.sum_singleton]

/-- The number of bytes that a packet is read from. -/
def PacketBody.size : PacketBody → Int
  | .setChunkSize _ | .abort _ | .acknowledgement _ | .windowAckSize _ => 4
  | .userControl _ eventData => 2 + 4 * eventData.length
  | .setPeerBandwidth _ _ => 5
  | .content bytes => bytes.length
  | .command commandName _ values => sizeOfString commandName false + 9 + valuesSize values
  | .data type values => sizeOfString type false + valuesSize values

theorem counts_readBody (header : RtmpHeader) : Counts (readBody header) 0 PacketBody.size := by
  unfold readBody
  cases header.messageType with
  | setChunkSize | abort | acknowledgement | windowAcknowledgementSize =>
    exact (counts_readUnsignedInt32 0).bind fun _ => counts_pure rfl
  | setPeerBandwidth =>
    exact (counts_readUnsignedInt32 0).bind fun _ => (counts_read _).bind fun _ => counts_pure rfl
  | userControlMessage =>
    refine (counts_readUnsignedInt16 0).bind fun type => (counts_readUnsignedInt32 _).bind
      fun first => ?_
    split_ifs
    · exact (counts_readUnsignedInt32 _).bind fun _ => counts_pure rfl
    · exact counts_pure rfl
  | audio | video =>
    exact (counts_readBytesUntilFull 0 _).bind fun data => 
      counts_pure (congrArg int (Int.zero_add _).symm)
  | commandAmf0 =>
    refine (counts_read 0).bind fun _ => (counts_readString _).bind fun commandName =>
      (counts_read _).bind fun _ => (counts_readDouble _).bind fun _ => counts_get_bind fun _ =>
        (counts_readVariableData _ _ _ _).bind fun data => counts_pure ?_
    apply congrArg int
    show sizeOfString commandName false + 9 + valuesSize data =
      0 + 1 + sizeOfString commandName true + 1 + 8 + valuesSize data
    simp only [sizeOfString, if_true, Bool.false_eq_true, if_false]
    omega
  | dataAmf0 =>
    refine (counts_read 0).bind fun _ => (counts_readString _).bind fun type =>
      counts_get_bind fun _ => (counts_readVariableData _ _ _ _).bind fun data => counts_pure ?_
    apply congrArg int
    show sizeOfString type false + valuesSize data =
      0 + 1 + sizeOfString type true + valuesSize data
    simp only [sizeOfString, if_true, Bool.false_eq_true, if_false]
    omega
  | dataAmf3 | sharedObjectAmf3 | commandAmf3 | sharedObjectAmf0 | aggregateMessage =>
    exact counts_throw _ _ _

/-- Bytes that are read as a packet whatever follows them are as many as the packet counts in an
`int`. -/
theorem length_eq_size {header : RtmpHeader} {bytes : List UInt8} {segments : Segments}
    {value : PacketBody} {b : UInt8} {s : InputStream}
    (hrun : (readBody header).run ⟨bytes ++ [b], segments⟩ = .ok value s) (hleft : s.bytes = [b]) :
    int bytes.length = int value.size := by
  have hcounted := (counts_readBody header).counted _ _ _ hrun (by
    rw [hleft]
    exact List.cons_ne_nil _ _)
  rw [hleft, List.length_append, List.length_singleton, int_eq_iff] at hcounted
  rw [int_eq_iff]
  omega

end MediasoupDemo.Rtmp
