import MediasoupDemo.Lib.ByteCodec
import MediasoupDemo.Runtime.Method

/-!
# `java.io.InputStream`

An input stream holds the bytes that are still to come.  `read` takes one of
them and answers `-1` at the end, here `none`.  A bulk read may deliver fewer
bytes than asked for: `segments` says how the bytes come.  A
`BufferedInputStream` on a socket follows the script of the network, the most
that each coming bulk read delivers, and a read after the last entry delivers
all.  A `ByteArrayInputStream` delivers all that is asked for.  The two differ
at the end: where the first answers 0 to a read of no bytes, the second
answers `-1`.

`readByte` is the `in.read() & 0xff` of the RTMP code, which does not look at
the end of the stream and takes `-1` for the byte `0xff`.  The readers of
`Util` are built from it, except `readBytesUntilFull`, which repeats bulk
reads and does notice the end.  `run_readBytesUntilFull` says that it returns
the next bytes whatever the segmentation is.

`Reads` says that a reader takes given bytes whatever follows them.  In
`ReadsBefore` something has to follow them if they end with a read of no bytes,
as those of an empty string do.
-/

namespace MediasoupDemo.Runtime

open ByteCodec

/-- How the bytes of a stream come. -/
inductive Segments where
  /-- from a socket, with the most that each coming bulk read delivers -/
  | network (sizes : List Nat)
  /-- from an array in memory -/
  | array
  deriving DecidableEq

variable {segments : Segments}

namespace Segments

/-- The most that the next bulk read of `len` bytes delivers. -/
def most : Segments → (len : Nat) → Nat
  | network sizes, len => min len (max 1 (sizes.head?.getD len))
  | array, len => len

/-- What is left after a bulk read. -/
def tail : Segments → Segments
  | network sizes => network sizes.tail
  | array => array

/-- A bulk read delivers all that is asked for. -/
def Whole : Segments → Prop
  | network sizes => sizes = []
  | array => True

/-- What may be left after some reads. -/
def Later : (later segments : Segments) → Prop
  | network sizes', network sizes => sizes' <:+ sizes
  | array, array => True
  | _, _ => False

theorem Later.refl (segments : Segments) : Later segments segments := by
  cases segments with
  | network sizes => exact List.suffix_refl sizes
  | array => trivial

theorem Later.trans {first second third : Segments} (h : Later third second)
    (h' : Later second first) : Later third first := by
  cases first with
  | network sizes =>
    cases second with
    | network sizes' =>
      cases third with
      | network sizes'' => exact List.IsSuffix.trans h h'
      | array => exact h
    | array => exact h'.elim
  | array =>
    cases second with
    | network sizes' => exact h'.elim
    | array => exact h

theorem later_tail (segments : Segments) : Later segments.tail segments := by
  cases segments with
  | network sizes => exact List.tail_suffix sizes
  | array => trivial

theorem Whole.later {later : Segments} (h : segments.Whole) (hlater : Later later segments) :
    later.Whole := by
  cases segments with
  | network sizes =>
    cases later with
    | network sizes' =>
      have hnil : sizes = [] := h
      rw [hnil] at hlater
      exact List.suffix_nil.mp hlater
    | array => trivial
  | array =>
    cases later with
    | network sizes' => exact hlater.elim
    | array => trivial

theorem Later.eq_array {later : Segments} (h : Later later array) : later = array := by
  cases later with
  | network sizes => exact h.elim
  | array => rfl

theorem Later.eq_array_of_eq {later : Segments} (h : Later later segments)
    (harray : later = array) : segments = array := by
  subst harray
  cases segments with
  | network sizes => exact h.elim
  | array => rfl

theorem most_le (segments : Segments) (len : Nat) : segments.most len ≤ len := by
  cases segments with
  | network sizes => exact Nat.min_le_left _ _
  | array => exact Nat.le_refl len

theorem most_pos (segments : Segments) {len : Nat} (h : 0 < len) : 0 < segments.most len := by
  cases segments with
  | network sizes =>
    show 0 < min _ (max 1 _)
    omega
  | array => exact h

theorem Whole.most_eq (h : segments.Whole) {len : Nat} (hlen : 0 < len) :
    segments.most len = len := by
  cases segments with
  | network sizes =>
    have hnil : sizes = [] := h
    subst hnil
    show min len (max 1 len) = len
    omega
  | array => rfl

end Segments

/-- `java.io.InputStream`. -/
structure InputStream where
  bytes : List UInt8
  segments : Segments := .network []

namespace InputStream

open Method

/-- `read()`; `none` is `-1`. -/
def read : Method InputStream (Option UInt8) := do
  let s ← get
  match s.bytes with
  | [] => pure none
  | b :: bytes =>
      set { s with bytes }
      pure (some b)

/-- `read(b, off, len)`; `none` is `-1`.  A stream over an array looks for its
end first. -/
def readSome (len : Nat) : Method InputStream (Option (List UInt8)) := do
  let s ← get
  if len = 0 ∧ s.segments ≠ .array then pure (some [])
  else if s.bytes.isEmpty then pure none
  else
    let most := s.segments.most len
    set { s with bytes := s.bytes.drop most, segments := s.segments.tail }
    pure (some (s.bytes.take most))

/-- `in.read() & 0xff`. -/
def readByte : Method InputStream UInt8 := do
  pure ((← read).getD 0xff)

/-- `n` turns of `readByte`. -/
def readBytes : (n : Nat) → Method InputStream (List UInt8)
  | 0 => pure []
  | n + 1 => do
      let b ← readByte
      let bytes ← readBytes n
      pure (b :: bytes)

def readUnsignedInt16 : Method InputStream Int := do
  pure (beNat (← readBytes 2))

def readUnsignedInt24 : Method InputStream Int := do
  pure (beNat (← readBytes 3))

/-- `Util.readUnsignedInt32`: the top bit is the sign of the `int`. -/
def readUnsignedInt32 : Method InputStream Int := do
  pure (int (beNat (← readBytes 4)))

/-- The loop of `Util.readBytesUntilFull` with `want` bytes to go.  Each turn
takes at least one byte, so `want + 1` turns are enough. -/
def readBytesLoop : (turns want : Nat) → Method InputStream (List UInt8)
  | 0, _ => pure []
  | turns + 1, want => do
      match ← readSome want with
      | none => throw (.io "Unexpected EOF reached before read buffer was filled")
      | some read =>
          if read.length < want then
            let rest ← readBytesLoop turns (want - read.length)
            pure (read ++ rest)
          else pure read

/-- `Util.readBytesUntilFull` on a buffer of `size` bytes. -/
def readBytesUntilFull (size : Nat) : Method InputStream (List UInt8) :=
  readBytesLoop (size + 1) size

/-! ## Reading what is there -/

variable {bytes front : List UInt8} (b : UInt8)

theorem run_read (rest : List UInt8) (segments : Segments) :
    read.run ⟨b :: rest, segments⟩ = .ok (some b) ⟨rest, segments⟩ := rfl

theorem run_readByte (rest : List UInt8) (segments : Segments) :
    readByte.run ⟨b :: rest, segments⟩ = .ok b ⟨rest, segments⟩ := rfl

theorem run_readBytes (front rest : List UInt8) (segments : Segments) :
    (readBytes front.length).run ⟨front ++ rest, segments⟩ = .ok front ⟨rest, segments⟩ := by
  induction front with
  | nil => rfl
  | cons b front ih =>
    rw [List.length_cons, readBytes, List.cons_append, run_bind_ok (run_readByte b _ segments),
      run_bind_ok ih]
    rfl

theorem run_readUnsignedInt24 (h : front.length = 3) (rest : List UInt8) (segments : Segments) :
    readUnsignedInt24.run ⟨front ++ rest, segments⟩ = .ok (beNat front) ⟨rest, segments⟩ := by
  have hread := run_readBytes front rest segments
  rw [h] at hread
  rw [readUnsignedInt24, run_bind_ok hread]
  rfl

/-- A bulk read of a stream that is not at its end. -/
theorem run_readSome_of_ne_nil {want : Nat} (hwant : 0 < want) (hbytes : bytes ≠ [])
    (segments : Segments) :
    (readSome want).run ⟨bytes, segments⟩ =
      .ok (some (bytes.take (segments.most want)))
        ⟨bytes.drop (segments.most want), segments.tail⟩ := by
  have hne : bytes.isEmpty = false := by
    cases bytes with
    | nil => exact absurd rfl hbytes
    | cons b bytes => rfl
  rw [readSome, run_get_bind, if_neg (by omega), hne]
  rfl

/-- A bulk read of no bytes, unless a stream over an array is at its end. -/
theorem run_readSome_zero (h : segments = .array → bytes ≠ []) :
    (readSome 0).run ⟨bytes, segments⟩ = .ok (some []) ⟨bytes, segments⟩ := by
  cases segments with
  | network sizes => rfl
  | array =>
    cases bytes with
    | nil => exact absurd rfl (h rfl)
    | cons b bytes => rfl

theorem run_readBytesLoop (turns : Nat) :
    ∀ {want : Nat} {bytes : List UInt8} (segments : Segments), 0 < want → want ≤ turns →
      want ≤ bytes.length →
      ∃ segments', segments'.Later segments ∧ (readBytesLoop turns want).run ⟨bytes, segments⟩ =
        .ok (bytes.take want) ⟨bytes.drop want, segments'⟩ := by
  induction turns with
  | zero => intro want bytes segments h0 h1 _; omega
  | succ turns ih =>
    intro want bytes segments hpos hturns hlen
    have hne : bytes ≠ [] := List.ne_nil_of_length_pos (by omega)
    have hmost := segments.most_pos hpos
    have hle := segments.most_le want
    have hrun := run_readSome_of_ne_nil hpos hne segments
    generalize segments.most want = most at hmost hle hrun
    have htaken : (bytes.take most).length = most := by
      rw [List.length_take]
      omega
    rw [readBytesLoop, run_bind_ok hrun]
    simp only [htaken]
    by_cases hlt : most < want
    · -- The segment was too short: the rest comes from the next turns.
      obtain ⟨segments', hlater, hrest⟩ := @ih (want - most) (bytes.drop most) segments.tail
        (by omega) (by omega) (by rw [List.length_drop]; omega)
      refine ⟨segments', hlater.trans segments.later_tail, ?_⟩
      rw [if_pos hlt, run_bind_ok hrest, run_pure, List.drop_drop]
      have hsplit : bytes.take most ++ (bytes.drop most).take (want - most) = bytes.take want := by
        rw [← List.take_add]
        congr 1
        omega
      have hsum : most + (want - most) = want := by omega
      rw [hsplit, hsum]
    · have heq : most = want := by omega
      refine ⟨segments.tail, segments.later_tail, ?_⟩
      rw [if_neg hlt, heq, run_pure]

/-- Nothing is read into an empty buffer. -/
theorem run_readBytesUntilFull_zero (h : segments = .array → bytes ≠ []) :
    (readBytesUntilFull 0).run ⟨bytes, segments⟩ = .ok [] ⟨bytes, segments⟩ := by
  rw [readBytesUntilFull, readBytesLoop, run_bind_ok (run_readSome_zero h)]
  rfl

/-! ## Readers that take given bytes -/

section Reads

variable {α β : Type} {whole closed closed' : Prop}

/-- The reader takes exactly these bytes and returns the value, whatever follows
them.  If `whole` holds, the bytes come in one segment. -/
def Reads (whole : Prop) (reader : Method InputStream α) (bytes : List UInt8) (value : α) :
    Prop :=
  ∀ more segments, (whole → segments.Whole) → ∃ segments', segments'.Later segments ∧
    reader.run ⟨bytes ++ more, segments⟩ = .ok value ⟨more, segments'⟩

/-- The same for bytes of an array that something follows, unless they are
`closed`. -/
def ReadsBefore (whole closed : Prop) (reader : Method InputStream α) (bytes : List UInt8)
    (value : α) : Prop :=
  ∀ more segments, (whole → segments.Whole) → (segments = .array → closed ∨ more ≠ []) →
    ∃ segments', segments'.Later segments ∧
      reader.run ⟨bytes ++ more, segments⟩ = .ok value ⟨more, segments'⟩

variable {x reader : Method InputStream α} {f : α → Method InputStream β} {a : α}

theorem Reads.before {value : α} (h : Reads whole reader bytes value) :
    ReadsBefore whole closed reader bytes value :=
  fun more segments hwhole _ => h more segments hwhole

theorem ReadsBefore.reads {value : α} (h : ReadsBefore whole closed reader bytes value)
    (hclosed : closed) :
    Reads whole reader bytes value :=
  fun more segments hwhole => h more segments hwhole fun _ => .inl hclosed

theorem reads_pure (a : α) : Reads whole (pure a) [] a :=
  fun _ segments _ => ⟨segments, .refl _, rfl⟩

variable {first second : List UInt8}

/-- One reader after another.  The first may end with an empty read if the
second takes some bytes. -/
theorem ReadsBefore.bind {b : β}
    (hx : ReadsBefore whole closed x first a) (hf : ReadsBefore whole closed' (f a) second b)
    (hsecond : closed' → closed ∨ second ≠ []) :
    ReadsBefore whole closed' (x >>= f) (first ++ second) b := by
  intro more segments hwhole hmore
  obtain ⟨segments₁, hlater₁, hrun₁⟩ := hx (second ++ more) segments hwhole fun harray => by
    rcases hmore harray with hclosed | hne
    · rcases hsecond hclosed with hfirst | hne
      · exact .inl hfirst
      · exact .inr (List.append_ne_nil_of_left_ne_nil hne more)
    · exact .inr (List.append_ne_nil_of_right_ne_nil second hne)
  obtain ⟨segments₂, hlater₂, hrun₂⟩ := hf more segments₁ (fun h => (hwhole h).later hlater₁)
    fun harray => hmore (hlater₁.eq_array_of_eq harray)
  refine ⟨segments₂, hlater₂.trans hlater₁, ?_⟩
  rw [List.append_assoc, run_bind_ok hrun₁, hrun₂]

theorem Reads.bind_before {b : β} (hx : Reads whole x first a)
    (hf : ReadsBefore whole closed (f a) second b) :
    ReadsBefore whole closed (x >>= f) (first ++ second) b :=
  ReadsBefore.bind (@Reads.before _ _ _ True _ _ hx) hf fun _ => .inl trivial

theorem Reads.bind {b : β} (hx : Reads whole x first a)
    (hf : Reads whole (f a) second b) : Reads whole (x >>= f) (first ++ second) b :=
  (hx.bind_before (@Reads.before _ _ _ True _ _ hf)).reads trivial

theorem Reads.map (hx : Reads whole x bytes a) (g : α → β) :
    Reads whole (x >>= fun a => pure (g a)) bytes (g a) := by
  have hall := hx.bind (f := fun a => pure (g a)) (reads_pure (g a))
  rw [List.append_nil] at hall
  exact hall

/-- A step that looks at the stream. -/
theorem readsBefore_get_bind {f : InputStream → Method InputStream β} {b : β}
    (h : ∀ s : InputStream, bytes.length ≤ s.bytes.length →
      ReadsBefore whole closed (f s) bytes b) : ReadsBefore whole closed (get >>= f) bytes b := by
  intro more segments hwhole hmore
  rw [run_get_bind]
  apply h _ _ more segments hwhole hmore
  rw [List.length_append]
  omega

theorem reads_read : Reads whole read [b] (some b) :=
  fun _ segments _ => ⟨segments, .refl _, rfl⟩

theorem reads_readByte : Reads whole readByte [b] b := (reads_read b).map _

theorem reads_readBytes {n : Nat} (h : front.length = n) :
    Reads whole (readBytes n) front front := by
  subst h
  exact fun more segments _ => ⟨segments, .refl _, run_readBytes front more segments⟩

/-- `readBytesUntilFull` returns the next bytes, however they are segmented. -/
theorem readsBefore_readBytesUntilFull (front : List UInt8) :
    ReadsBefore whole (front ≠ []) (readBytesUntilFull front.length) front front := by
  intro more segments _ hmore
  by_cases hpos : 0 < front.length
  · obtain ⟨segments', hlater, hrun⟩ := @run_readBytesLoop (front.length + 1) front.length
      (front ++ more) segments hpos (by omega) (by rw [List.length_append]; omega)
    rw [List.take_left, List.drop_left] at hrun
    exact ⟨segments', hlater, hrun⟩
  · have hnil : front = [] := List.length_eq_zero_iff.mp (by omega)
    subst hnil
    refine ⟨segments, .refl _, run_readBytesUntilFull_zero fun harray => ?_⟩
    exact (hmore harray).resolve_left fun h => h rfl

theorem reads_readBytesUntilFull (h : front ≠ []) :
    Reads whole (readBytesUntilFull front.length) front front :=
  (readsBefore_readBytesUntilFull front).reads h

/-- A reader leaves an array an array. -/
theorem Reads.run_stored (h : Reads whole reader bytes a) (more : List UInt8) :
    reader.run ⟨bytes ++ more, .array⟩ = .ok a ⟨more, .array⟩ := by
  obtain ⟨segments', hlater, hrun⟩ := h more .array fun _ => trivial
  rw [hlater.eq_array] at hrun
  exact hrun

/-- The reader throws. -/
def Fails (reader : Method InputStream α) (s : InputStream) : Prop :=
  ∃ e s', reader.run s = .error e s'

theorem Fails.bind {s : InputStream} (h : Fails x s) (f : α → Method InputStream β) :
    Fails (x >>= f) s := by
  obtain ⟨e, s', hrun⟩ := h
  exact ⟨e, s', run_bind_error hrun f⟩

/-- A reader fails behind one that takes its bytes. -/
theorem ReadsBefore.fails_bind (hx : ReadsBefore whole closed x first a)
    (hwhole : whole → segments.Whole) (hsecond : segments = .array → closed ∨ second ≠ [])
    (hf : ∀ segments', segments'.Later segments → Fails (f a) ⟨second, segments'⟩) :
    Fails (x >>= f) ⟨first ++ second, segments⟩ := by
  obtain ⟨segments', hlater, hrun⟩ := hx second segments hwhole hsecond
  obtain ⟨e, s, herror⟩ := hf segments' hlater
  exact ⟨e, s, (run_bind_ok hrun f).trans herror⟩

theorem Reads.fails_bind (hx : Reads False x first a)
    (hf : ∀ segments', segments'.Later segments → Fails (f a) ⟨second, segments'⟩) :
    Fails (x >>= f) ⟨first ++ second, segments⟩ :=
  (@Reads.before _ _ _ True _ _ hx).fails_bind False.elim (fun _ => .inl trivial) hf

/-- A reader that throws at the end of an array just when its bytes are not `closed`. -/
structure ReadsIff (whole closed : Prop) (reader : Method InputStream α) (bytes : List UInt8)
    (value : α) : Prop where
  before : ReadsBefore whole closed reader bytes value
  fails : ¬ closed → Fails reader ⟨bytes, .array⟩

theorem Reads.readsIff (h : Reads whole reader bytes a) (hclosed : closed) :
    ReadsIff whole closed reader bytes a :=
  ⟨h.before, absurd hclosed⟩

/-- A reader that comes last decides. -/
theorem ReadsIff.bind {b : β}
    (hx : ReadsIff whole closed x first a) (hf : ReadsIff whole closed' (f a) second b)
    (hsecond : second ≠ []) : ReadsIff whole closed' (x >>= f) (first ++ second) b := by
  refine ⟨hx.before.bind hf.before fun _ => .inr hsecond, fun hopen => ?_⟩
  refine hx.before.fails_bind (fun _ => trivial) (fun _ => .inr hsecond) fun segments' hlater => ?_
  rw [hlater.eq_array]
  exact hf.fails hopen

theorem Reads.bind_readsIff {b : β} (hx : Reads whole x first a)
    (hf : ReadsIff whole closed (f a) second b) :
    ReadsIff whole closed (x >>= f) (first ++ second) b := by
  refine ⟨hx.bind_before hf.before, fun hopen => ?_⟩
  obtain ⟨e, s, herror⟩ := hf.fails hopen
  exact ⟨e, s, (run_bind_ok (hx.run_stored second) f).trans herror⟩

/-- A last step that reads nothing. -/
theorem ReadsIff.bind_pure {b : β} (hx : ReadsIff whole closed x bytes a) (hf : f a = pure b) :
    ReadsIff whole closed (x >>= f) bytes b := by
  have hlast : Reads whole (f a) [] b := hf ▸ reads_pure b
  have hall := hx.before.bind (@Reads.before _ _ _ closed _ _ hlast) .inl
  rw [List.append_nil] at hall
  exact ⟨hall, fun hopen => (hx.fails hopen).bind f⟩

theorem ReadsIff.map (hx : ReadsIff whole closed x bytes a) (g : α → β) :
    ReadsIff whole closed (x >>= fun a => pure (g a)) bytes (g a) := hx.bind_pure rfl

theorem readsIff_get_bind {f : InputStream → Method InputStream β} {b : β}
    (h : ∀ s : InputStream, bytes.length ≤ s.bytes.length →
      ReadsIff whole closed (f s) bytes b) : ReadsIff whole closed (get >>= f) bytes b :=
  ⟨readsBefore_get_bind fun s hs => (h s hs).before, (h ⟨bytes, .array⟩ (Nat.le_refl _)).fails⟩

theorem readsIff_readBytesUntilFull (front : List UInt8) :
    ReadsIff whole (front ≠ []) (readBytesUntilFull front.length) front front := by
  refine ⟨readsBefore_readBytesUntilFull front, fun hopen => ?_⟩
  rw [not_not.mp hopen]
  exact ⟨_, _, rfl⟩

end Reads

theorem run_readBytesUntilFull (h : front ≠ []) (rest : List UInt8) (segments : Segments) :
    ∃ segments', segments'.Later segments ∧
      (readBytesUntilFull front.length).run ⟨front ++ rest, segments⟩ =
        .ok front ⟨rest, segments'⟩ :=
  @reads_readBytesUntilFull front False h rest segments False.elim

end InputStream

end MediasoupDemo.Runtime
