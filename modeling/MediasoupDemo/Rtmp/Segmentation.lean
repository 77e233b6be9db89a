import MediasoupDemo.Rtmp.AmfWire
import MediasoupDemo.Rtmp.Consumption
import MediasoupDemo.Rtmp.Continuation

/-!
# Network segmentation

A bulk read from a socket may deliver fewer bytes than asked for.  Almost all of the
decoder does not notice: single bytes come one by one, and `readBytesUntilFull` repeats
its reads.  The end marker of objects and maps is the exception.  It is looked for with
one read of three bytes, and a read that delivers less of it is taken for the start of a
property with an empty key, whose value has the unknown type 9.

`Splits` compares a run over an array with the runs over a network.  A run that meets no
end marker is the same for every segmentation.  Some segmentation always gives the same
result and leaves any given rest of the script (`steered`).  A run that meets an end marker
fails for some segmentation, which cuts the marker (`broken`).  These three compose, and
`segmented_readAmf_all` gives them for the readers of values.

The body of a message that was collected from several chunks is read from an array, so only
messages in one chunk are affected: `splits_readPackets`.
-/

namespace MediasoupDemo.Runtime

open Method

section Splits

variable {σ τ α β : Type} (along : Segments → τ → σ)

/-- A method that returns `a` if its input comes from an array, when the input comes from the
network instead.  `along` adds the segments to the rest of the state. -/
structure Splits (x : Method σ α) (t : τ) (a : α) (t' : τ) (marked : Prop) : Prop where
  same : ¬ marked → ∀ sizes, ∃ sizes',
    x.run (along (.network sizes) t) = .ok a (along (.network sizes') t')
  steered : ∀ sizes', ∃ sizes,
    x.run (along (.network sizes) t) = .ok a (along (.network sizes') t')
  broken : marked → ∃ sizes e s, x.run (along (.network sizes) t) = .error e s

variable {along} {x : Method σ α} {f : α → Method σ β} {t t' t'' : τ} {a : α} {b : β}
  {marked marked' : Prop}

/-- A method that does not use the input. -/
theorem splits_of_uniform
    (h : ∀ sizes, x.run (along (.network sizes) t) = .ok a (along (.network sizes) t')) :
    Splits along x t a t' False where
  same _ sizes := ⟨sizes, h sizes⟩
  steered sizes := ⟨sizes, h sizes⟩
  broken := False.elim

theorem Splits.of_iff (h : Splits along x t a t' marked) (hiff : marked' ↔ marked) :
    Splits along x t a t' marked' := by
  rw [propext hiff]
  exact h

/-- The same for a method that runs in the same way. -/
theorem Splits.of_run {y : Method σ α} (h : Splits along x t' a t'' marked)
    (hrun : ∀ sizes, y.run (along (.network sizes) t) = x.run (along (.network sizes) t')) :
    Splits along y t a t'' marked where
  same hmarked sizes := by
    rw [hrun]
    exact h.same hmarked sizes
  steered sizes' := by
    obtain ⟨sizes, hsteered⟩ := h.steered sizes'
    exact ⟨sizes, (hrun sizes).trans hsteered⟩
  broken hmarked := by
    obtain ⟨sizes, e, s, herror⟩ := h.broken hmarked
    exact ⟨sizes, e, s, (hrun sizes).trans herror⟩

theorem Splits.bind (hx : Splits along x t a t' marked) (hf : Splits along (f a) t' b t'' marked') :
    Splits along (x >>= f) t b t'' (marked ∨ marked') where
  same hmarked sizes := by
    rw [not_or] at hmarked
    obtain ⟨sizes₁, hfirst⟩ := hx.same hmarked.1 sizes
    obtain ⟨sizes₂, hsecond⟩ := hf.same hmarked.2 sizes₁
    exact ⟨sizes₂, (run_bind_ok hfirst f).trans hsecond⟩
  steered sizes₂ := by
    obtain ⟨sizes₁, hsecond⟩ := hf.steered sizes₂
    obtain ⟨sizes, hfirst⟩ := hx.steered sizes₁
    exact ⟨sizes, (run_bind_ok hfirst f).trans hsecond⟩
  broken hmarked := by
    rcases hmarked with hmarked | hmarked
    · obtain ⟨sizes, e, s, hfirst⟩ := hx.broken hmarked
      exact ⟨sizes, e, s, run_bind_error hfirst f⟩
    · -- The first part is steered to the segments that break the second.
      obtain ⟨sizes₁, e, s, hsecond⟩ := hf.broken hmarked
      obtain ⟨sizes, hfirst⟩ := hx.steered sizes₁
      exact ⟨sizes, e, s, (run_bind_ok hfirst f).trans hsecond⟩

variable (along) in
/-- Every run from this state over an array splits. -/
def SplitsAt (x : Method σ α) (t : τ) (marked : α → Prop) : Prop :=
  ∀ a s, x.run (along .array t) = .ok a s →
    ∃ t', s = along .array t' ∧ Splits along x t a t' (marked a)

theorem splitsAt_of_uniform {u : τ} {marked : α → Prop}
    (h : ∀ segments, x.run (along segments t) = .ok a (along segments u)) (ha : ¬ marked a) :
    SplitsAt along x t marked := by
  intro b s hrun
  rw [h] at hrun
  cases hrun
  exact ⟨u, rfl, (splits_of_uniform fun sizes => h _).of_iff (iff_false_intro ha)⟩

theorem splitsAt_of_error {e : JavaException} {s : σ} (h : x.run (along .array t) = .error e s)
    (marked : α → Prop) : SplitsAt along x t marked := by
  intro b s hrun
  cases h.symm.trans hrun

theorem SplitsAt.of_run {y : Method σ α} {u : τ} {marked : α → Prop} (h : SplitsAt along x u marked)
    (hrun : ∀ segments, y.run (along segments t) = x.run (along segments u)) :
    SplitsAt along y t marked := by
  intro a s hy
  rw [hrun] at hy
  obtain ⟨t'', rfl, hsplits⟩ := h a s hy
  exact ⟨t'', rfl, hsplits.of_run fun sizes => hrun _⟩

/-- The second part may look at the state that the first one leaves. -/
theorem SplitsAt.bind {p : α → Prop} {q : α → τ → β → Prop} {marked : β → Prop}
    (hx : SplitsAt along x t p) (hf : ∀ a t', SplitsAt along (f a) t' (q a t'))
    (hmarked : ∀ a t' b s, x.run (along .array t) = .ok a (along .array t') →
      (f a).run (along .array t') = .ok b s → (marked b ↔ p a ∨ q a t' b)) :
    SplitsAt along (x >>= f) t marked := by
  intro b s hrun
  obtain ⟨a, s₁, hfirst, hsecond⟩ := run_bind_eq_ok hrun
  obtain ⟨t₁, rfl, hsplits₁⟩ := hx a s₁ hfirst
  obtain ⟨t', rfl, hsplits⟩ := hf a t₁ b s hsecond
  exact ⟨t', rfl, (hsplits₁.bind hsplits).of_iff (hmarked a t₁ b _ hfirst hsecond)⟩

end Splits

namespace InputStream

variable {α β : Type} {x : Method InputStream α} {f : α → Method InputStream β}

/-- The stream with these segments. -/
def along (segments : Segments) (bytes : List UInt8) : InputStream := ⟨bytes, segments⟩

/-- Every run of the reader over an array splits. -/
def Segmented (x : Method InputStream α) (marked : α → Prop) : Prop :=
  ∀ bytes a s, x.run (along .array bytes) = .ok a s →
    ∃ rest, s = along .array rest ∧ Splits along x bytes a rest (marked a)

/-- The reader meets no end marker. -/
def Plain (x : Method InputStream α) : Prop := Segmented x fun _ => False

variable {marked : α → Prop}

theorem Segmented.bind {marked' : α → β → Prop} {marked'' : β → Prop} (hx : Segmented x marked)
    (hf : ∀ a, Segmented (f a) (marked' a))
    (hmarked : ∀ a s b s', (f a).run s = .ok b s' → (marked'' b ↔ marked a ∨ marked' a b)) :
    Segmented (x >>= f) marked'' :=
  fun bytes => SplitsAt.bind (hx bytes) hf fun a _ b s _ => hmarked a _ b s

/-- Behind a plain reader. -/
theorem Plain.bind {marked : β → Prop} (hx : Plain x) (hf : ∀ a, Segmented (f a) marked) :
    Segmented (x >>= f) marked := by
  refine Segmented.bind hx hf ?_
  intro a s b s' _
  rw [false_or]

/-- A last step that reads nothing. -/
theorem Segmented.map {marked' : β → Prop} (hx : Segmented x marked) (g : α → β)
    (hmarked : ∀ a, marked' (g a) ↔ marked a) :
    Segmented (x >>= fun a => pure (g a)) marked' := by
  refine fun bytes => SplitsAt.bind (q := fun _ _ _ => False) (hx bytes)
    (fun a t' => splitsAt_of_uniform (fun _ => rfl) not_false) fun a t' b s _ hpure => ?_
  cases hpure
  rw [hmarked a, or_false]

theorem segmented_pure {a : α} (h : ¬ marked a) : Segmented (pure a) marked :=
  fun _ => splitsAt_of_uniform (fun _ => rfl) h

theorem plain_pure (a : α) : Plain (pure a : Method InputStream α) := segmented_pure not_false

theorem segmented_throw (e : JavaException) (marked : α → Prop) :
    Segmented (throw e : Method InputStream α) marked :=
  fun _ => splitsAt_of_error rfl marked

/-- A step that looks at the number of bytes that are left. -/
theorem segmented_length_bind {g : Nat → Method InputStream β} {marked : β → Prop}
    (hg : ∀ n, Segmented (g n) marked) :
    Segmented (get >>= fun s => g s.bytes.length) marked :=
  fun bytes => SplitsAt.of_run (hg bytes.length bytes) fun _ => rfl

/-! ## Plain readers -/

theorem plain_read : Plain read := by
  intro bytes
  cases bytes with
  | nil => exact splitsAt_of_uniform (fun _ => rfl) not_false
  | cons b bytes => exact splitsAt_of_uniform (u := bytes) (fun _ => rfl) not_false

/-- A bulk read that delivers all that is asked for, by the script. -/
theorem run_readBytesUntilFull_script {front : List UInt8} (h : front ≠ []) (rest : List UInt8)
    (sizes : List Nat) :
    (readBytesUntilFull front.length).run ⟨front ++ rest, .network (front.length :: sizes)⟩ =
      .ok front ⟨rest, .network sizes⟩ := by
  have hpos : 0 < front.length := List.length_pos_iff.mpr h
  have hne : front ++ rest ≠ [] := List.append_ne_nil_of_left_ne_nil h rest
  have hmost : (Segments.network (front.length :: sizes)).most front.length = front.length := by
    show min front.length (max 1 front.length) = front.length
    omega
  have hrun := run_readSome_of_ne_nil hpos hne (.network (front.length :: sizes))
  rw [hmost, List.take_left, List.drop_left] at hrun
  rw [readBytesUntilFull, readBytesLoop, run_bind_ok hrun]
  simp only [lt_irrefl, if_false]
  rfl

theorem plain_readBytesUntilFull (n : Nat) : Plain (readBytesUntilFull n) := by
  intro bytes front s hrun
  obtain ⟨hsplit, hlen⟩ := readBytesUntilFull_eq_ok hrun
  by_cases hnil : front = []
  · -- Nothing is read into an empty buffer, if the array is not at its end.
    subst hnil
    rw [List.length_nil] at hlen
    subst hlen
    have hne : bytes ≠ [] := by
      rintro rfl
      cases hrun
    have hzero : ∀ segments, (readBytesUntilFull 0).run (along segments bytes) =
        .ok [] (along segments bytes) := fun segments => run_readBytesUntilFull_zero fun _ => hne
    rw [hzero] at hrun
    cases hrun
    exact ⟨bytes, rfl, splits_of_uniform fun sizes => hzero _⟩
  · have hbytes : bytes = front ++ s.bytes := hsplit.symm
    have hreads : Reads False (readBytesUntilFull n) front front := by
      rw [← hlen]
      exact reads_readBytesUntilFull hnil
    have hstored := hreads.run_stored s.bytes
    rw [← hbytes] at hstored
    have hs : s = along .array s.bytes := by
      have heq := hrun.symm.trans hstored
      injection heq
    refine ⟨s.bytes, hs, ?_, ?_, False.elim⟩
    · intro _ sizes
      obtain ⟨segments', hlater, hnetwork⟩ := hreads s.bytes (.network sizes) False.elim
      rw [← hbytes] at hnetwork
      cases segments' with
      | network sizes' => exact ⟨sizes', hnetwork⟩
      | array => exact hlater.elim
    · intro sizes'
      refine ⟨front.length :: sizes', ?_⟩
      have hscript := run_readBytesUntilFull_script hnil s.bytes sizes'
      rw [hlen, ← hbytes] at hscript
      rw [hlen]
      exact hscript

theorem plain_readers : Compositional @Plain where
  pure := plain_pure
  throw e := segmented_throw e _
  bind := Plain.bind
  read := plain_read
  readBytesUntilFull := plain_readBytesUntilFull

end InputStream

end MediasoupDemo.Runtime

namespace MediasoupDemo.Rtmp

open MediasoupDemo.Runtime InputStream RtmpDecoder Method

/-! ## Values -/

mutual

/-- The value has an end marker. -/
def AmfData.marked : AmfData → Bool
  | .object _ _ | .map _ _ => true
  | .array items _ => AmfData.itemsMarked items
  | .number _ | .boolean _ | .string _ | .null | .undefined => false

def AmfData.itemsMarked : List AmfData → Bool
  | [] => false
  | item :: items => AmfData.marked item || AmfData.itemsMarked items

end

theorem readEndMarker_eq_ok {bytes : List UInt8} {found : Bool} {s : InputStream}
    (h : readEndMarker.run (along .array bytes) = .ok found s) :
    (found = true ∧ ∃ rest, bytes = objectEndMarker ++ rest ∧ s = along .array rest) ∨
      (found = false ∧ ¬ objectEndMarker <+: bytes ∧ s = along .array bytes) := by
  by_cases hmarker : objectEndMarker <+: bytes
  · obtain ⟨rest, rfl⟩ := hmarker
    have hfound := @run_readEndMarker_true rest .array rfl
    cases h.symm.trans hfound
    exact .inl ⟨rfl, rest, rfl, rfl⟩
  · by_cases hnil : bytes = []
    · subst hnil
      cases h
      exact .inr ⟨rfl, hmarker, rfl⟩
    · have hother := run_readEndMarker_false hnil hmarker .array
      cases h.symm.trans hother
      exact .inr ⟨rfl, hmarker, rfl⟩

/-- Bytes that do not start with the end marker are left alone in every segmentation. -/
theorem splits_readEndMarker {bytes : List UInt8} (h : ¬ objectEndMarker <+: bytes) :
    Splits along readEndMarker bytes false bytes False := by
  by_cases hnil : bytes = []
  · subst hnil
    exact splits_of_uniform fun sizes => rfl
  · refine ⟨?_, ?_, False.elim⟩
    · intro _ sizes
      exact ⟨sizes.tail, run_readEndMarker_false hnil h (.network sizes)⟩
    · intro sizes'
      exact ⟨3 :: sizes', run_readEndMarker_false hnil h (.network (3 :: sizes'))⟩

variable (depth : Nat)

theorem run_readAmf_unknown (rest : List UInt8) (segments : Segments) :
    ∃ e s, (readAmf depth).run ⟨0x09 :: rest, segments⟩ = .error e s := by
  cases depth with
  | zero => exact ⟨_, _, rfl⟩
  | succ depth =>
    refine ⟨.nullPointer, ⟨rest, segments⟩, ?_⟩
    rw [readAmf, run_bind_ok (run_readByte _ rest segments)]
    rfl

/-- An end marker in two pieces is read as an empty key in front of an unknown type. -/
theorem run_readProperties_cut (properties : List (String × AmfData)) (size : Int)
    (rest : List UInt8) :
    ∃ sizes e s, (readProperties (depth + 1) properties size).run
      (along (.network sizes) (objectEndMarker ++ rest)) = .error e s := by
  have hcut : readEndMarker.run ⟨objectEndMarker ++ rest, .network [1]⟩ =
      .ok false ⟨objectEndMarker ++ rest, .network []⟩ :=
    @run_readEndMarker_cut rest (.network [1]) (by decide)
  -- The first two bytes of the marker are the length of the key.
  obtain ⟨segments, -, hkey⟩ := (@readsIff_readString False [] (by decide)).before (0x09 :: rest)
    (.network []) False.elim nofun
  obtain ⟨e, s, hunknown⟩ := run_readAmf_unknown depth rest segments
  refine ⟨[1], e, s, ?_⟩
  rw [readProperties]
  show (readEndMarker >>= _).run ⟨objectEndMarker ++ rest, .network [1]⟩ = _
  rw [run_bind_ok hcut]
  show (readString >>= _).run ⟨stringBytes [] ++ 0x09 :: rest, .network []⟩ = _
  rw [run_bind_ok hkey, run_bind_error hunknown]

section Turn

variable {depth : Nat} (hamf : Segmented (readAmf depth) fun value => value.marked = true)
  (hproperties : ∀ properties size,
    Segmented (readProperties depth properties size) fun _ => True)
include hamf hproperties

/-- One turn of the loop of `AmfObject.readFrom`. -/
theorem segmented_readProperties (properties : List (String × AmfData)) (size : Int) :
    Segmented (readProperties (depth + 1) properties size) fun _ => True := by
  intro bytes read s hrun
  rw [readProperties] at hrun
  obtain ⟨found, s₁, hmarker, hrest⟩ := run_bind_eq_ok hrun
  rcases readEndMarker_eq_ok hmarker with ⟨rfl, rest, rfl, rfl⟩ | ⟨rfl, hother, rfl⟩
  · cases hrest
    refine ⟨rest, rfl, fun h => absurd trivial h, ?_, fun _ => ?_⟩
    · intro sizes'
      refine ⟨3 :: sizes', ?_⟩
      have hfound := @run_readEndMarker_true rest (.network (3 :: sizes')) rfl
      rw [readProperties]
      exact run_bind_ok hfound _
    · exact run_readProperties_cut depth properties size rest
  · -- The pair and the rest of the loop.
    have hpair : Segmented (do
        let key ← readString
        let value ← readAmf depth
        readProperties depth (putProperty properties key value)
          (int (size + sizeOfString key true + value.getSize))) fun _ => True := by
      refine plain_readers.readString.bind fun key => ?_
      refine Segmented.bind hamf (fun value => hproperties _ _) ?_
      intro value s b s' _
      rw [or_true]
    obtain ⟨rest, rfl, hsplits⟩ := hpair bytes read s hrest
    refine ⟨rest, rfl, ?_⟩
    rw [readProperties]
    refine ((splits_readEndMarker hother).bind hsplits).of_iff ?_
    rw [false_or]

end Turn

theorem segmented_readAmf_all :
    (Segmented (readAmf depth) fun value => value.marked = true) ∧
      (∀ properties size, Segmented (readProperties depth properties size) fun _ => True) ∧
      ∀ left size,
        Segmented (readItems depth left size) fun read => AmfData.itemsMarked read.1 = true := by
  induction depth with
  | zero =>
    refine ⟨segmented_throw _ _, fun _ _ => segmented_throw _ _, fun left size => ?_⟩
    cases left with
    | zero =>
      rw [readItems]
      exact segmented_pure (by simp [AmfData.itemsMarked])
    | succ left => exact segmented_throw _ _
  | succ depth ih =>
    obtain ⟨hamf, hproperties, hitems⟩ := ih
    refine ⟨?_, segmented_readProperties hamf hproperties, ?_⟩
    · apply readAmf_succ_of (P := fun x => Segmented x fun value => value.marked = true)
        (Q := fun x => Segmented x fun value => value.marked = true)
      case behindByte => exact fun f hf => plain_readers.readByte.bind hf
      case number =>
        exact plain_readers.readDouble.map AmfData.number fun _ => by simp [AmfData.marked]
      case boolean =>
        exact plain_read.map (fun b => AmfData.boolean (b == some 0x01)) fun _ => by
          simp [AmfData.marked]
      case string =>
        exact plain_readers.readString.map AmfData.string fun _ => by simp [AmfData.marked]
      case object =>
        exact (hproperties [] 1).map (fun read => AmfData.object read.1 read.2) fun _ => by
          simp [AmfData.marked]
      case null | undefined => exact segmented_pure (by simp [AmfData.marked])
      case map =>
        refine plain_readers.readUnsignedInt32.bind fun _ => ?_
        exact (hproperties [] 1).map (fun read => AmfData.map read.1 (int (read.2 + 4))) fun _ => by
          simp [AmfData.marked]
      case array =>
        refine plain_readers.readUnsignedInt32.bind fun length => ?_
        have harray : Segmented (do
            let read ← readItems depth length.toNat 5
            pure (AmfData.array read.1 read.2)) fun value => value.marked = true :=
          (hitems length.toNat 5).map (fun read => AmfData.array read.1 read.2) fun _ => by
            rw [AmfData.marked]
        split_ifs
        · exact Plain.bind (segmented_throw _ _) fun _ => harray
        · exact harray
      case unknown => exact segmented_throw _ _
    · intro left size
      cases left with
      | zero =>
        rw [readItems]
        exact segmented_pure (by simp [AmfData.itemsMarked])
      | succ left =>
        rw [readItems]
        have hrest : ∀ item : AmfData, Segmented (do
            let read ← readItems depth left (int (size + item.getSize))
            pure (item :: read.1, read.2)) fun read => AmfData.itemsMarked read.1.tail = true :=
          fun item => (hitems _ _).map (fun read => (item :: read.1, read.2)) fun _ => Iff.rfl
        refine Segmented.bind hamf hrest ?_
        intro item s read s' hrun
        obtain ⟨items, s₁, -, hpure⟩ := run_bind_eq_ok hrun
        cases hpure
        rw [AmfData.itemsMarked, Bool.or_eq_true]
        rfl

theorem segmented_readFrom : Segmented readFrom fun value => value.marked = true :=
  segmented_length_bind (g := fun n => readAmf (2 * n + 2)) fun _ => (segmented_readAmf_all _).1

/-! ## Bodies and headers -/

/-- The body has an end marker. -/
def PacketBody.marked : PacketBody → Bool
  | .command _ _ values | .data _ values => AmfData.itemsMarked values
  | .setChunkSize _ | .abort _ | .acknowledgement _ | .userControl _ _ | .windowAckSize _
  | .setPeerBandwidth _ _ | .content _ => false

theorem segmented_readVariableData (packetLength turns : Nat) :
    ∀ bytesAlreadyRead, Segmented (readVariableData packetLength turns bytesAlreadyRead)
      fun values => AmfData.itemsMarked values = true := by
  induction turns with
  | zero => exact fun _ => segmented_pure (by simp [AmfData.itemsMarked])
  | succ turns ih =>
    intro bytesAlreadyRead
    rw [readVariableData]
    have hrest : ∀ dataItem : AmfData, Segmented
        (if int (bytesAlreadyRead + dataItem.getSize) < packetLength then do
          let rest ← readVariableData packetLength turns (int (bytesAlreadyRead + dataItem.getSize))
          pure (dataItem :: rest)
        else pure [dataItem]) fun values => AmfData.itemsMarked values.tail = true := by
      intro dataItem
      split_ifs
      · exact (ih _).map (fun rest => dataItem :: rest) fun _ => Iff.rfl
      · exact segmented_pure (by simp [AmfData.itemsMarked])
    refine Segmented.bind segmented_readFrom hrest ?_
    intro dataItem s values s' hrun
    obtain ⟨rest, rfl⟩ : ∃ rest, values = dataItem :: rest := by
      dsimp only at hrun
      split_ifs at hrun
      · obtain ⟨rest, s₁, -, hpure⟩ := run_bind_eq_ok hrun
        cases hpure
        exact ⟨rest, rfl⟩
      · cases hrun
        exact ⟨[], rfl⟩
    rw [AmfData.itemsMarked, Bool.or_eq_true]
    rfl

/-- A body is marked if its values are. -/
theorem segmented_values (packetLength bytesAlreadyRead : Nat) {g : List AmfData → PacketBody}
    (hg : ∀ values, (g values).marked = AmfData.itemsMarked values) :
    Segmented (do
      let s ← get
      let values ← readVariableData packetLength (s.bytes.length + 1) bytesAlreadyRead
      pure (g values)) fun body => body.marked = true := by
  refine segmented_length_bind (g := fun n => readVariableData packetLength (n + 1)
    bytesAlreadyRead >>= fun values => pure (g values)) fun n => ?_
  refine (segmented_readVariableData packetLength (n + 1) bytesAlreadyRead).map g fun values => ?_
  rw [hg]

theorem segmented_readBody (header : RtmpHeader) :
    Segmented (readBody header) fun body => body.marked = true := by
  unfold readBody
  cases header.messageType with
  | setChunkSize | abort | acknowledgement | windowAcknowledgementSize =>
    exact plain_readers.readUnsignedInt32.map _ fun _ => by simp [PacketBody.marked]
  | setPeerBandwidth =>
    refine plain_readers.readUnsignedInt32.bind fun size => ?_
    exact plain_read.map (fun b => PacketBody.setPeerBandwidth size (LimitType.valueOf b)) fun _ =>
      by simp [PacketBody.marked]
  | userControlMessage =>
    refine plain_readers.readUnsignedInt16.bind fun type =>
      plain_readers.readUnsignedInt32.bind fun first => ?_
    split_ifs
    · refine plain_readers.readUnsignedInt32.map
        (fun second => PacketBody.userControl (UserControlType.valueOf type) [first, second])
        fun _ => ?_
      simp [PacketBody.marked]
    · exact segmented_pure (by simp [PacketBody.marked])
  | audio | video =>
    exact (plain_readBytesUntilFull _).map PacketBody.content fun _ => by simp [PacketBody.marked]
  | commandAmf0 =>
    exact plain_read.bind fun _ => plain_readers.readString.bind fun _ => plain_read.bind fun _ =>
      plain_readers.readDouble.bind fun _ => segmented_values _ _ fun _ => rfl
  | dataAmf0 =>
    exact plain_read.bind fun _ => plain_readers.readString.bind fun _ =>
      segmented_values _ _ fun _ => rfl
  | dataAmf3 | sharedObjectAmf3 | commandAmf3 | sharedObjectAmf0 | aggregateMessage =>
    exact segmented_throw _ _

/-! ## Calls of `readPacket` -/

namespace RtmpDecoder

/-- The decoder with these segments of its input. -/
def along (segments : Segments) (t : RtmpSessionInfo × List UInt8) : RtmpDecoder :=
  ⟨t.1, ⟨t.2, segments⟩⟩

variable {info : RtmpSessionInfo} {bytes rest : List UInt8}

theorem splits_onInput {α : Type} {reader : Method InputStream α} {a : α} {marked : Prop}
    (h : Splits InputStream.along reader bytes a rest marked) :
    Splits along (onInput reader) (info, bytes) a (info, rest) marked where
  same hmarked sizes := by
    obtain ⟨sizes', hrun⟩ := h.same hmarked sizes
    exact ⟨sizes', run_onInput (d := along (.network sizes) (info, bytes)) hrun⟩
  steered sizes' := by
    obtain ⟨sizes, hrun⟩ := h.steered sizes'
    exact ⟨sizes, run_onInput (d := along (.network sizes) (info, bytes)) hrun⟩
  broken hmarked := by
    obtain ⟨sizes, e, s, hrun⟩ := h.broken hmarked
    exact ⟨sizes, e, _, run_onInput_error (d := along (.network sizes) (info, bytes)) hrun⟩

variable {d : RtmpDecoder} {packet : Option RtmpPacket} {header : RtmpHeader}

/-- A reader that is segmented, on the input of a decoder. -/
theorem splitsAt_onInput_bind {α β : Type} {reader : Method InputStream α} {marked : α → Prop}
    (hreader : Segmented reader marked) {f : α → Method RtmpDecoder β}
    {q : β → Prop} {marked' : β → Prop} (hf : ∀ a rest, SplitsAt along (f a) (info, rest) q)
    (hmarked : ∀ a rest b s, (f a).run (along .array (info, rest)) = .ok b s →
      (marked' b ↔ marked a ∨ q b)) :
    SplitsAt along (onInput reader >>= f) (info, bytes) marked' := by
  intro b s hrun
  obtain ⟨a, d, hinput, hrest⟩ := run_bind_eq_ok hrun
  obtain ⟨input, hread, rfl⟩ := onInput_eq_ok hinput
  obtain ⟨rest, rfl, hsplits⟩ := hreader bytes a input hread
  obtain ⟨t', rfl, hsplits'⟩ := hf a rest b s hrest
  exact ⟨t', rfl, ((splits_onInput hsplits).bind hsplits').of_iff (hmarked a rest b _ hrest)⟩

/-- A chunk is stored in the same way in every segmentation. -/
theorem splits_storePacketChunk (chunkStreamId : Nat) (chunkSize : Int) :
    SplitsAt along (storePacketChunk chunkStreamId chunkSize) (info, bytes) fun _ => False := by
  cases hprev : (info.chunkChannels chunkStreamId).prevHeaderRx with
  | none =>
    have hnone : ((along .array (info, bytes)).getChunkStreamInfo chunkStreamId).prevHeaderRx =
        none := hprev
    apply splitsAt_of_error (e := .nullPointer) (s := along .array (info, bytes))
    rw [storePacketChunk, run_get_bind]
    dsimp only
    rw [hnone, run_throw]
  | some header =>
    have hinfo : ∀ segments, (along segments (info, bytes)).getChunkStreamInfo chunkStreamId =
        ⟨some header, (info.chunkChannels chunkStreamId).baos⟩ := by
      intro segments
      rw [← hprev]
      rfl
    refine SplitsAt.of_run ?_ fun segments => run_storePacketChunk_eq (hinfo segments) chunkSize
    split_ifs
    · exact splitsAt_of_error rfl _
    · refine splitsAt_onInput_bind (plain_readBytesUntilFull _) (fun data rest => ?_)
        fun _ _ _ _ _ => (or_self_iff).symm
      exact splitsAt_of_uniform (u := (((along .array (info, rest)).setChunkStreamInfo chunkStreamId
        ⟨some header, _ ++ data⟩).rtmpSessionInfo, rest)) (fun _ => rfl) not_false

theorem splits_readStoredBody :
    SplitsAt along (readStoredBody header) (info, bytes) fun _ => False := by
  cases hbody : (readBody header).run ⟨(info.chunkChannels header.chunkStreamId).baos, .array⟩ with
  | ok value left =>
    exact splitsAt_of_uniform (u := (((along .array (info, bytes)).setChunkStreamInfo
      header.chunkStreamId
      { info.chunkChannels header.chunkStreamId with baos := [] }).rtmpSessionInfo,
      bytes)) (fun segments => @run_readStoredBody (along segments (info, bytes)) header
        (info.chunkChannels header.chunkStreamId) rfl value left hbody) not_false
  | error e left =>
    exact splitsAt_of_error (@run_readStoredBody_error (along .array (info, bytes)) header
      (info.chunkChannels header.chunkStreamId) rfl e left hbody) _

/-- What the end of a call returns. -/
theorem finishPacket_cases {body : PacketBody} {d' : RtmpDecoder}
    (hrun : (finishPacket header body).run d = .ok packet d') :
    (∃ chunkSize, body = .setChunkSize chunkSize ∧ packet = none) ∨
      packet = some { header, body } := by
  by_cases hsize : ∃ chunkSize, body = .setChunkSize chunkSize
  · obtain ⟨chunkSize, rfl⟩ := hsize
    cases hrun
    exact .inl ⟨chunkSize, rfl, rfl⟩
  · rw [run_finishPacket fun size heq => hsize ⟨size, heq⟩] at hrun
    cases hrun
    exact .inr rfl

/-- The end of a call does not use the input. -/
theorem splits_finishPacket (body : PacketBody) :
    SplitsAt along (finishPacket header body) (info, bytes) fun _ => False := by
  cases body with
  | setChunkSize chunkSize =>
    exact splitsAt_of_uniform (u := ({ info with rxChunkSize := chunkSize }, bytes))
      (fun _ => rfl) not_false
  | abort | acknowledgement | userControl | windowAckSize | setPeerBandwidth | content | command
  | data => exact splitsAt_of_uniform (fun _ => rfl) not_false

/-- A call has read an end marker from the input: the packet has one and came in one chunk. -/
def ReadMarker (info : RtmpSessionInfo) (packet : Option RtmpPacket) : Prop :=
  ∃ p, packet = some p ∧ p.body.marked = true ∧
    (p.header.packetLength : Int) ≤ info.rxChunkSize

theorem splits_readChunk :
    SplitsAt along (readChunk header) (info, bytes) (ReadMarker info) := by
  by_cases hlong : info.rxChunkSize < header.packetLength
  · have hstored : SplitsAt along (storePacketChunk header.chunkStreamId info.rxChunkSize >>=
        fun complete => if complete = true then readStoredBody header >>= finishPacket header
          else pure none) (info, bytes) (ReadMarker info) := by
      refine (splits_storePacketChunk _ _).bind (q := fun _ _ _ => False)
        (fun complete t' => ?_) fun complete t' packet s _ hrest => ?_
      · split_ifs
        · exact splits_readStoredBody.bind (fun body t => splits_finishPacket body)
            fun _ _ _ _ _ _ => (or_self_iff).symm
        · exact splitsAt_of_uniform (fun _ => rfl) not_false
      · rw [or_self]
        refine iff_false_intro ?_
        -- The packet is longer than a chunk.
        rintro ⟨p, rfl, -, hsmall⟩
        split_ifs at hrest
        · obtain ⟨body, d, -, hfinish⟩ := run_bind_eq_ok hrest
          rcases finishPacket_cases hfinish with ⟨chunkSize, -, hp⟩ | hp
          · cases hp
          · cases hp
            exact absurd hlong (not_lt.mpr hsmall)
        · cases hrest
    exact hstored.of_run fun segments =>
      @run_readChunk_of_gt (along segments (info, bytes)) header hlong
  · refine SplitsAt.of_run ?_ fun segments =>
      @run_readChunk_of_le (along segments (info, bytes)) header (not_lt.mp hlong)
    refine splitsAt_onInput_bind (segmented_readBody header)
      (fun body rest => splits_finishPacket body) fun body rest packet s hfinish => ?_
    rw [or_false]
    rcases finishPacket_cases hfinish with ⟨chunkSize, rfl, rfl⟩ | rfl
    · simp [ReadMarker, PacketBody.marked]
    · simp [ReadMarker, not_lt.mp hlong]

theorem splits_readPacket : SplitsAt along readPacket (info, bytes) (ReadMarker info) := by
  have hcall : SplitsAt along
      (onInput (readHeader fun id => (info.chunkChannels id).prevHeaderRx) >>= fun header =>
        modify (setPrevHeaderRx header) >>= fun _ => readChunk header) (info, bytes)
      (ReadMarker info) := by
    refine splitsAt_onInput_bind (q := ReadMarker info) (plain_readers.readHeader _)
      (fun header rest => ?_) fun _ _ _ _ _ => by rw [false_or]
    exact SplitsAt.of_run
      (u := ((setPrevHeaderRx header (along .array (info, rest))).rtmpSessionInfo,
      rest)) splits_readChunk fun _ => rfl
  exact hcall.of_run fun _ => rfl

/-! ## Runs of the decoder -/

/-- In every call that returns a packet with an end marker the packet was collected from several
chunks. -/
def MarkersCollected : (calls : Nat) → RtmpDecoder → Prop
  | 0, _ => True
  | calls + 1, d =>
      d.input.bytes = [] ∨ ∃ packet d', readPacket.run d = .ok packet d' ∧
        (∀ p, packet = some p → p.body.marked = true →
          d.rtmpSessionInfo.rxChunkSize < p.header.packetLength) ∧
        MarkersCollected calls d'

theorem markersCollected_succ_iff {calls : Nat} {d' : RtmpDecoder} (hin : d.input.bytes ≠ [])
    (hrun : readPacket.run d = .ok packet d') :
    MarkersCollected (calls + 1) d ↔
      ¬ ReadMarker d.rtmpSessionInfo packet ∧ MarkersCollected calls d' := by
  constructor
  · rintro (hnil | ⟨packet', d₁, hrun', hlong, hrest⟩)
    · exact absurd hnil hin
    · cases hrun.symm.trans hrun'
      refine ⟨?_, hrest⟩
      rintro ⟨p, hp, hmarked, hsmall⟩
      exact absurd (hlong p hp hmarked) (not_lt.mpr hsmall)
  · rintro ⟨hmarker, hrest⟩
    refine .inr ⟨packet, d', hrun, ?_, hrest⟩
    intro p hp hmarked
    by_contra hsmall
    exact hmarker ⟨p, hp, hmarked, not_lt.mp hsmall⟩

theorem splits_readPackets (calls : Nat) :
    ∀ t, SplitsAt along (readPackets calls) t
      fun _ => ¬ MarkersCollected calls (along .array t) := by
  induction calls with
  | zero => exact fun t => splitsAt_of_uniform (fun _ => rfl) fun h => h trivial
  | succ calls ih =>
    rintro ⟨info, bytes⟩
    by_cases hnil : bytes = []
    · subst hnil
      exact splitsAt_of_uniform (u := (info, [])) (fun _ => rfl) fun h => h (.inl rfl)
    · have hcall : SplitsAt along (readPacket >>= fun packet => readPackets calls >>= fun rest =>
          pure (packet.toList ++ rest)) (info, bytes)
          fun _ => ¬ MarkersCollected (calls + 1) (along .array (info, bytes)) := by
        refine splits_readPacket.bind
          (q := fun _ t _ => ¬ MarkersCollected calls (along .array t))
          (fun packet t => ?_) fun packet t _ _ hone _ => ?_
        · exact (ih t).bind (q := fun _ _ _ => False)
            (fun _ _ => splitsAt_of_uniform (fun _ => rfl) not_false)
            fun _ _ _ _ _ _ => by rw [or_false]
        · have hin : (along .array (info, bytes)).input.bytes ≠ [] := hnil
          rw [markersCollected_succ_iff hin hone, not_and_or, not_not]
          rfl
      refine hcall.of_run fun segments => ?_
      have hne : (along segments (info, bytes)).input.bytes.isEmpty = false := by
        simpa [along] using hnil
      rw [readPackets, run_get_bind, hne]
      rfl

/-- Bytes that are decoded from an array are decoded to the same packets however the network splits
them, just when every packet with an object or a map was collected from several chunks. -/
theorem readPackets_network_iff {calls : Nat} {info : RtmpSessionInfo} {bytes : List UInt8}
    {packets : List RtmpPacket} {d : RtmpDecoder}
    (h : (readPackets calls).run { rtmpSessionInfo := info, input := ⟨bytes, .array⟩ } =
      .ok packets d) :
    (∀ sizes, ∃ d', (readPackets calls).run
        { rtmpSessionInfo := info, input := ⟨bytes, .network sizes⟩ } = .ok packets d') ↔
      MarkersCollected calls { rtmpSessionInfo := info, input := ⟨bytes, .array⟩ } := by
  obtain ⟨t', rfl, hsplits⟩ := splits_readPackets calls (info, bytes) packets d h
  constructor
  · intro hall
    by_contra hmarked
    obtain ⟨sizes, e, s, herror⟩ := hsplits.broken hmarked
    obtain ⟨d', hrun⟩ := hall sizes
    cases hrun.symm.trans herror
  · intro hcollected sizes
    obtain ⟨sizes', hrun⟩ := hsplits.same (not_not.mpr hcollected) sizes
    exact ⟨_, hrun⟩

/-- The command `a` with an empty object, in chunks of 16 bytes: the end marker comes in two. -/
def chunkedObject : List UInt8 :=
  [0x03, 0x00, 0x00, 0x00, 0x00, 0x00, 0x11, 0x14, 0x00, 0x00, 0x00, 0x00,
    0x02, 0x00, 0x01, 0x61, 0x00, 0x00, 0x00, 0x00, 0x00, 0x00, 0x00, 0x00, 0x00, 0x03, 0x00, 0x00,
    0xc3, 0x09]

/-- An object that was collected from two chunks is decoded in every segmentation. -/
theorem readPackets_network_chunkedObject :
    ∃ packet : RtmpPacket, packet.body.marked = true ∧ ∀ sizes, ∃ d',
      (readPackets 2).run { rtmpSessionInfo := { rxChunkSize := 16 }
                            input := ⟨chunkedObject, .network sizes⟩ } = .ok [packet] d' := by
  obtain ⟨d, hd⟩ : ∃ d : RtmpDecoder,
      d = { rtmpSessionInfo := { rxChunkSize := 16 }, input := ⟨chunkedObject, .array⟩ } :=
    ⟨_, rfl⟩
  have hstored : (readPacket.run' d).map Option.isSome = some false := by
    rw [hd]
    decide +kernel
  have hreturned : (readPacket.run' (final readPacket d)).map (Option.map fun p =>
      (p.body.marked, decide ((final readPacket d).rtmpSessionInfo.rxChunkSize <
        p.header.packetLength))) = some (some (true, true)) := by
    rw [hd]
    decide +kernel
  have hrest : (final readPacket d).input.bytes ≠ [] := by
    rw [hd]
    decide +kernel
  have hin : d.input.bytes ≠ [] := by
    rw [hd]
    exact List.cons_ne_nil _ _
  obtain ⟨stored, hone, hnone⟩ := exists_run_of_map_run' hstored
  obtain ⟨returned, htwo, hsome⟩ := exists_run_of_map_run' hreturned
  obtain ⟨packet, rfl, hpacket⟩ := Option.map_eq_some_iff.mp hsome
  obtain ⟨hmarked, hlong⟩ := Prod.mk.inj hpacket
  rw [Option.isSome_eq_false_iff, Option.isNone_iff_eq_none] at hnone
  rw [hnone] at hone
  have hrun := run_readPackets_of_none hin hone 1
  rw [run_readPackets_one hrest, run_bind_ok htwo, hd] at hrun
  refine ⟨packet, hmarked, (readPackets_network_iff hrun).mpr ?_⟩
  rw [← hd]
  refine .inr ⟨none, _, hone, fun _ hp => absurd hp (Option.some_ne_none _).symm, ?_⟩
  refine .inr ⟨some packet, _, htwo, fun p hp _ => ?_, trivial⟩
  rw [← Option.some.inj hp]
  exact of_decide_eq_true hlong

/-- The command `a` with an empty object, whose end marker comes in two pieces. -/
theorem not_readPackets_network_cutMarker :
    thrown (readPackets 1)
        { input := ⟨[0x03, 0x00, 0x00, 0x00, 0x00, 0x00, 0x11, 0x14, 0x00, 0x00, 0x00, 0x00,
            0x02, 0x00, 0x01, 0x61, 0x00, 0x00, 0x00, 0x00, 0x00, 0x00, 0x00, 0x00, 0x00,
            0x03, 0x00, 0x00, 0x09], .array⟩ } = none ∧
      thrown (readPackets 1)
        { input := ⟨[0x03, 0x00, 0x00, 0x00, 0x00, 0x00, 0x11, 0x14, 0x00, 0x00, 0x00, 0x00,
            0x02, 0x00, 0x01, 0x61, 0x00, 0x00, 0x00, 0x00, 0x00, 0x00, 0x00, 0x00, 0x00,
            0x03, 0x00, 0x00, 0x09], .network [4, 1, 1]⟩ } = some .nullPointer := by
  decide +kernel

end RtmpDecoder

end MediasoupDemo.Rtmp
