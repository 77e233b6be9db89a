import MediasoupDemo.Lib.Interleave
import MediasoupDemo.Rtmp.Decoder
import Mathlib.Data.List.Forall2

/-!
# Chunk streams on one wire

A sender cuts every message into chunks and may interleave the chunks of
different chunk streams.  This module is about senders in general: `Traffic`
says which header and which body a message has and what the body is read as,
and `Sendable` what a message needs in order to be received.

## The argument

* `Progress` is the abstract state of one chunk stream: idle, or some bytes of
  a message still to come.  `step` accepts the chunk that comes next.  The
  chunks of whole messages, one message after another, lead from idle to idle
  (`run_flatMap_chunks`), and by `Interleave.run_keyed` an interleaving does so
  on every chunk stream at once.
* `Simulates` relates the abstract states to the buffers and the previous
  headers of the decoder.  `run_readPacket_step` is one call of `readPacket`,
  `run_readPackets` the whole run, and `run_readPackets_of_idle` the run on an
  interleaving.
-/

namespace MediasoupDemo.Rtmp

open MediasoupDemo.Runtime Interleave RtmpDecoder Method

/-- What a message is on the wire: the header in front of its chunks, its body,
and what the body is read as. -/
structure Traffic (α : Type) where
  header : α → RtmpHeader
  body : α → List UInt8
  value : α → PacketBody

/-- A message that is received.  A timestamp that does not fit its field is
written in front of every chunk and read in front of the first, so such a
message has to fit one chunk. -/
structure Sendable (chunkSize : Nat) (header : RtmpHeader) (body : List UInt8)
    (value : PacketBody) : Prop where
  chunkStreamId_lt : header.chunkStreamId < 64
  timestamp_nonneg : 0 ≤ header.absoluteTimestamp
  timestamp_lt : header.absoluteTimestamp < 2 ^ 31
  messageStreamId_inInt : InInt header.messageStreamId
  length_pos : 0 < body.length
  length_lt : header.packetLength < 2 ^ 24
  length_eq : body.length = header.packetLength
  stamped : header.absoluteTimestamp < 0xffffff → header.extendedTimestamp = 0
  fits : header.absoluteTimestamp < 0xffffff ∨ body.length ≤ chunkSize
  returned : ∀ chunkSize, value ≠ .setChunkSize chunkSize
  reads : ∀ chunkType, InputStream.Reads (chunkSize < header.packetLength)
    (readBody (header.received chunkType)) body value

namespace Traffic

variable {α : Type} (T : Traffic α)

/-- The chunk stream of a message. -/
def chunkStreamId (m : α) : Nat := (T.header m).chunkStreamId

/-- The chunks of a message, each with the message that it belongs to. -/
def chunks (chunkSize : Nat) (m : α) : List (α × Chunk) :=
  (chunksFrom (T.header m) chunkSize (T.body m).length .type0Full (T.body m)).map fun chunk =>
    (m, chunk)

def chunkKey (x : α × Chunk) : Nat := T.chunkStreamId x.1

/-- The messages in the order of their last chunks.  A last chunk has room for
all that is left. -/
def ends (chunkSize : Nat) (xs : List (α × Chunk)) : List α :=
  (xs.filter fun x => x.2.rest.length ≤ chunkSize).map Prod.fst

/-- A packet that the decoder returns for a message. -/
def IsPacketOf (packet : RtmpPacket) (m : α) : Prop :=
  ∃ chunkType, packet = { header := (T.header m).received chunkType, body := T.value m }

/-! ## One chunk stream -/

/-- What a chunk stream waits for: a new message, or the rest of one. -/
abbrev Progress (α : Type) := Option (α × List UInt8)

/-- The state after the chunk that starts at `rest`. -/
def progressAfter (chunkSize : Nat) (m : α) (rest : List UInt8) : Progress α :=
  if rest.length > chunkSize then some (m, rest.drop chunkSize) else none

open Classical in
/-- Accept the chunk that has to come next. -/
noncomputable def step (chunkSize : Nat) (s : Progress α) (x : α × Chunk) :
    Option (Progress α) :=
  match s with
  | none =>
      if x.2 = { header := T.header x.1, chunkType := .type0Full, rest := T.body x.1 } then
        some (progressAfter chunkSize x.1 (T.body x.1))
      else none
  | some (m, rest) =>
      if x = (m, { header := T.header m, chunkType := .type3RelativeSingleByte, rest }) then
        some (progressAfter chunkSize m rest)
      else none

theorem step_cases {chunkSize : Nat} {s s' : Progress α} {x : α × Chunk}
    (h : T.step chunkSize s x = some s') :
    x.2.header = T.header x.1 ∧ s' = progressAfter chunkSize x.1 x.2.rest ∧
      ((s = none ∧ x.2.chunkType = .type0Full ∧ x.2.rest = T.body x.1) ∨
        (s = some (x.1, x.2.rest) ∧ x.2.chunkType = .type3RelativeSingleByte)) := by
  cases s with
  | none =>
    by_cases hx : x.2 = { header := T.header x.1, chunkType := .type0Full, rest := T.body x.1 }
    · rw [step, if_pos hx] at h
      cases h
      rw [hx]
      exact ⟨rfl, rfl, .inl ⟨rfl, rfl, rfl⟩⟩
    · rw [step, if_neg hx] at h
      cases h
  | some waiting =>
    obtain ⟨m, rest⟩ := waiting
    by_cases hx : x = (m, { header := T.header m, chunkType := .type3RelativeSingleByte, rest })
    · rw [step, if_pos hx] at h
      cases h
      rw [hx]
      exact ⟨rfl, rfl, .inr ⟨rfl, rfl⟩⟩
    · rw [step, if_neg hx] at h
      cases h

variable {xs : List (α × Chunk)} {messages : List α}

section Stream

variable {chunkSize : Nat} (hpos : 0 < chunkSize)
include hpos

theorem run_chunksFrom (m : α) (turns : Nat) :
    ∀ {chunkType : ChunkType} {rest : List UInt8} {s : Progress α}, rest.length ≤ turns →
      T.step chunkSize s (m, { header := T.header m, chunkType, rest }) =
        some (progressAfter chunkSize m rest) →
      run (T.step chunkSize) s
          ((chunksFrom (T.header m) chunkSize turns chunkType rest).map fun chunk => (m, chunk)) =
        some none := by
  induction turns with
  | zero =>
    intro chunkType rest s hle hstep
    have hdone : ¬ rest.length > chunkSize := by omega
    rw [chunksFrom, List.map_singleton, run_cons_of_step hstep, progressAfter, if_neg hdone]
    rfl
  | succ turns ih =>
    intro chunkType rest s hle hstep
    rw [chunksFrom, List.map_cons, run_cons_of_step hstep, progressAfter]
    by_cases hmore : rest.length > chunkSize
    · rw [if_pos hmore, if_pos hmore]
      apply ih
      · rw [List.length_drop]
        omega
      · simp [step]
    · rw [if_neg hmore, if_neg hmore]
      rfl

/-- The chunks of whole messages lead from idle to idle. -/
theorem run_flatMap_chunks (messages : List α) :
    run (T.step chunkSize) none (messages.flatMap (T.chunks chunkSize)) = some none := by
  induction messages with
  | nil => rfl
  | cons m messages ih =>
    have hone : run (T.step chunkSize) none (T.chunks chunkSize m) = some none := by
      apply T.run_chunksFrom hpos m
      · exact le_refl _
      · exact if_pos rfl
    rw [List.flatMap_cons, run_append, hone]
    exact ih

theorem ends_chunksFrom (m : α) (turns : Nat) :
    ∀ {chunkType : ChunkType} {rest : List UInt8}, rest.length ≤ turns →
      ends chunkSize
          ((chunksFrom (T.header m) chunkSize turns chunkType rest).map fun chunk => (m, chunk)) =
        [m] := by
  induction turns with
  | zero =>
    intro chunkType rest hle
    have hlast : rest.length ≤ chunkSize := by omega
    simp [chunksFrom, ends, hlast]
  | succ turns ih =>
    intro chunkType rest hle
    by_cases hmore : rest.length > chunkSize
    · have hrest := @ih .type3RelativeSingleByte (rest.drop chunkSize)
        (by rw [List.length_drop]; omega)
      have hnot : ¬ rest.length ≤ chunkSize := by omega
      rw [chunksFrom, if_pos hmore, ← hrest]
      simp [ends, hnot]
    · have hlast : rest.length ≤ chunkSize := by omega
      rw [chunksFrom, if_neg hmore]
      simp [ends, hlast]

theorem ends_flatMap_chunks (messages : List α) :
    ends chunkSize (messages.flatMap (T.chunks chunkSize)) = messages := by
  induction messages with
  | nil => rfl
  | cons m messages ih =>
    have hone : ends chunkSize (T.chunks chunkSize m) = [m] :=
      T.ends_chunksFrom hpos m (T.body m).length (le_refl _)
    rw [ends, List.flatMap_cons, List.filter_append, List.map_append]
    show ends chunkSize _ ++ ends chunkSize _ = m :: messages
    rw [hone, ih]
    rfl

omit hpos in
theorem part_ends {K : Type} [DecidableEq K] (key : α → K) (xs : List (α × Chunk)) (k : K) :
    part key (ends chunkSize xs) k = ends chunkSize (part (fun x => key x.1) xs k) := by
  rw [part, part, ends, ends, List.filter_map, List.filter_filter, List.filter_filter]
  congr 2
  funext x
  exact Bool.and_comm _ _

/-- Every message of an interleaving is completed once. -/
theorem ends_perm
    (hparts : ∀ id, part T.chunkKey xs id =
      (part T.chunkStreamId messages id).flatMap (T.chunks chunkSize)) :
    (ends chunkSize xs).Perm messages := by
  apply perm_of_part_eq T.chunkStreamId
  intro id
  have hpart : part T.chunkStreamId (ends chunkSize xs) id =
      ends chunkSize (part T.chunkKey xs id) := part_ends T.chunkStreamId xs id
  rw [hpart, hparts, T.ends_flatMap_chunks hpos]

end Stream

/-- Messages that are sent one after another are an interleaving. -/
theorem part_flatMap_chunks (chunkSize : Nat) (messages : List α) (id : Nat) :
    part T.chunkKey (messages.flatMap (T.chunks chunkSize)) id =
      (part T.chunkStreamId messages id).flatMap (T.chunks chunkSize) := by
  induction messages with
  | nil => rfl
  | cons m messages ih =>
    have hkey : ∀ x ∈ T.chunks chunkSize m, T.chunkKey x = T.chunkStreamId m := by
      intro x hx
      obtain ⟨chunk, -, rfl⟩ := List.mem_map.mp hx
      rfl
    rw [List.flatMap_cons, part_append, ih]
    by_cases hid : T.chunkStreamId m = id
    · subst hid
      rw [part_eq_self T.chunkKey hkey, part_cons_self, List.flatMap_cons]
    · rw [part_cons_of_ne _ hid, part_eq_nil, List.nil_append]
      intro x hx
      rw [hkey x hx]
      exact hid

/-- The chunks of an interleaving belong to its messages. -/
theorem mem_of_mem_chunks {chunkSize : Nat}
    (hparts : ∀ id, part T.chunkKey xs id =
      (part T.chunkStreamId messages id).flatMap (T.chunks chunkSize)) {x : α × Chunk}
    (hx : x ∈ xs) : x.1 ∈ messages := by
  have hin : x ∈ part T.chunkKey xs (T.chunkKey x) := List.mem_filter.mpr ⟨hx, by simp⟩
  rw [hparts, List.mem_flatMap] at hin
  obtain ⟨m, hm, hchunk⟩ := hin
  obtain ⟨chunk, -, rfl⟩ := List.mem_map.mp hchunk
  exact (List.mem_filter.mp hm).1

/-! ## The decoder follows the chunk streams -/

/-- The state of a chunk stream of the decoder. -/
def Matches (chunkSize : Nat) (s : Progress α) (info : ChunkStreamInfo) : Prop :=
  match s with
  | none => info.baos = []
  | some (m, rest) =>
      (∃ chunkType, info.prevHeaderRx = some ((T.header m).received chunkType)) ∧
        info.baos ++ rest = T.body m ∧ chunkSize < (T.body m).length ∧ 0 < rest.length

/-- The decoder is where the abstract states are. -/
structure Simulates (chunkSize : Nat) (σ : Nat → Progress α) (d : RtmpDecoder) : Prop where
  rxChunkSize : d.rtmpSessionInfo.rxChunkSize = chunkSize
  streams : ∀ id, T.Matches chunkSize (σ id) (d.getChunkStreamInfo id)

section Decoder

variable {T} {chunkSize : Nat} {m : α} {x : α × Chunk}

variable {d : RtmpDecoder} {more : List UInt8}

/-- Behind its header a chunk moves its chunk stream on. -/
theorem run_readChunk_step (hpos : 0 < chunkSize)
    (hsend : Sendable chunkSize (T.header m) (T.body m) (T.value m)) {chunkType : ChunkType}
    {baos rest : List UInt8} (hrx : d.rtmpSessionInfo.rxChunkSize = chunkSize)
    (hinfo : d.getChunkStreamInfo (T.chunkStreamId m) =
      ⟨some ((T.header m).received chunkType), baos⟩) (hbody : baos ++ rest = T.body m)
    (hrest : 0 < rest.length) (hwhole : (T.body m).length ≤ chunkSize → baos = [])
    (hin : d.input.bytes = rest.take chunkSize ++ more) :
    ∃ packet info segments,
      (readChunk ((T.header m).received chunkType)).run d =
        .ok packet
          ({ d with input := ⟨more, segments⟩ }.setChunkStreamInfo (T.chunkStreamId m) info) ∧
      T.Matches chunkSize (progressAfter chunkSize m rest) info ∧
      List.Forall₂ T.IsPacketOf packet.toList
        (if rest.length ≤ chunkSize then [m] else []) := by
  have hlength : baos.length + rest.length = ((T.header m).received chunkType).packetLength := by
    rw [← List.length_append, hbody]
    exact hsend.length_eq
  have hpacket : T.IsPacketOf
      { header := (T.header m).received chunkType, body := T.value m } m := ⟨chunkType, rfl⟩
  have hlen : (T.body m).length = ((T.header m).received chunkType).packetLength :=
    hsend.length_eq
  by_cases hlong : chunkSize < (T.body m).length
  · -- The message takes several chunks: this one is stored.
    have hreads := hsend.reads chunkType
    rw [← hbody] at hreads
    rw [hlen] at hlong
    obtain ⟨segments, hrun⟩ :=
      run_readChunk_part hsend.returned hrx hpos hlong hreads hinfo hlength hrest hin
    by_cases hlast : rest.length ≤ chunkSize
    · rw [if_pos hlast] at hrun
      refine ⟨_, _, segments, hrun, ?_, ?_⟩
      · rw [progressAfter, if_neg (by omega)]
        rfl
      · rw [if_pos hlast]
        exact .cons hpacket .nil
    · rw [if_neg hlast] at hrun
      refine ⟨_, _, segments, hrun, ?_, ?_⟩
      · rw [progressAfter, if_pos (by omega)]
        refine ⟨⟨chunkType, rfl⟩, ?_, hlen ▸ hlong, ?_⟩
        · rw [List.append_assoc, List.take_append_drop]
          exact hbody
        · rw [List.length_drop]
          omega
      · rw [if_neg hlast]
        exact .nil
  · -- The message fits one chunk, so nothing is stored.
    have hnil : baos = [] := hwhole (by omega)
    subst hnil
    rw [List.nil_append] at hbody
    subst hbody
    have hlast : (T.body m).length ≤ chunkSize := by omega
    have hsmall : ((T.header m).received chunkType).packetLength ≤ chunkSize := by omega
    rw [List.take_of_length_le hlast] at hin
    obtain ⟨segments, hrun⟩ := run_readChunk_whole hsend.returned hrx hsmall
      (hsend.reads chunkType) hin
    have hsame : ({ d with input := ⟨more, segments⟩ } : RtmpDecoder).setChunkStreamInfo
        (T.chunkStreamId m) ⟨some ((T.header m).received chunkType), []⟩ =
          { d with input := ⟨more, segments⟩ } := setChunkStreamInfo_eq_self hinfo
    rw [← hsame] at hrun
    refine ⟨_, _, segments, hrun, ?_, ?_⟩
    · rw [progressAfter, if_neg (by omega)]
      rfl
    · rw [if_pos hlast]
      exact .cons hpacket .nil

/-- The header of the chunk that comes next is read back. -/
theorem run_readHeader_step {σ : Nat → Progress α} {s : Progress α}
    (hsend : Sendable chunkSize (T.header x.1) (T.body x.1) (T.value x.1))
    (hsim : T.Simulates chunkSize σ d) (hstep : T.step chunkSize (σ (T.chunkKey x)) x = some s)
    (hin : d.input.bytes = x.2.bytes chunkSize ++ more) :
    ∃ chunkType segments,
      (readHeader d.prevHeaders).run d.input =
        .ok ((T.header x.1).received chunkType) ⟨x.2.rest.take chunkSize ++ more, segments⟩ := by
  obtain ⟨hheader, -, hcases⟩ := T.step_cases hstep
  have hinput : d.input = ⟨(T.header x.1).writeTo x.2.chunkType ++
      (x.2.rest.take chunkSize ++ more), d.input.segments⟩ := by
    rw [← List.append_assoc, ← hheader]
    show d.input = ⟨x.2.bytes chunkSize ++ more, d.input.segments⟩
    rw [← hin]
  rw [hinput]
  rcases hcases with ⟨-, htype, -⟩ | ⟨hwaiting, htype⟩
  · obtain ⟨segments, -, hrun⟩ := run_readHeader_full hsend.chunkStreamId_lt hsend.timestamp_nonneg
      hsend.timestamp_lt hsend.length_lt hsend.messageStreamId_inInt
      d.prevHeaders (x.2.rest.take chunkSize ++ more) d.input.segments
    rw [htype]
    exact ⟨_, segments, hrun⟩
  · -- The previous header on the chunk stream is one of the same message.
    have hstream := hsim.streams (T.chunkKey x)
    rw [hwaiting] at hstream
    obtain ⟨⟨chunkType, hprev⟩, -, hlong, -⟩ := hstream
    have hsmall : (T.header x.1).absoluteTimestamp < 0xffffff := by
      rcases hsend.fits with hsmall | hwhole
      · exact hsmall
      · omega
    have hext : (T.header x.1).extendedTimestamp ≤ 0 := (hsend.stamped hsmall).le
    have hnonneg := hsend.timestamp_nonneg
    rw [htype]
    exact ⟨_, _, run_readHeader_single hsend.chunkStreamId_lt ⟨by omega, by omega⟩ hsmall hext
      hprev _ _⟩

/-- One call of `readPacket` on the chunk that comes next. -/
theorem run_readPacket_step (hpos : 0 < chunkSize) {σ σ' : Nat → Progress α}
    (hsend : Sendable chunkSize (T.header x.1) (T.body x.1) (T.value x.1))
    (hsim : T.Simulates chunkSize σ d)
    (hstep : keyedStep T.chunkKey (T.step chunkSize) σ x = some σ')
    (hin : d.input.bytes = x.2.bytes chunkSize ++ more) :
    ∃ packet d', readPacket.run d = .ok packet d' ∧ d'.input.bytes = more ∧
      T.Simulates chunkSize σ' d' ∧
      List.Forall₂ T.IsPacketOf packet.toList (ends chunkSize [x]) := by
  rw [keyedStep, Option.map_eq_some_iff] at hstep
  obtain ⟨s, hstep, rfl⟩ := hstep
  obtain ⟨chunkType, segments, hread⟩ := run_readHeader_step hsend hsim hstep hin
  obtain ⟨-, hs, hcases⟩ := T.step_cases hstep
  subst hs
  have hstream := hsim.streams (T.chunkKey x)
  -- What is stored and what comes make up the body.
  have hbody : (d.getChunkStreamInfo (T.chunkStreamId x.1)).baos ++ x.2.rest = T.body x.1 ∧
      0 < x.2.rest.length ∧ ((T.body x.1).length ≤ chunkSize →
        (d.getChunkStreamInfo (T.chunkStreamId x.1)).baos = []) := by
    rcases hcases with ⟨hidle, -, hrest⟩ | ⟨hwaiting, -⟩
    · rw [hidle] at hstream
      have hempty : (d.getChunkStreamInfo (T.chunkStreamId x.1)).baos = [] := hstream
      rw [hempty, hrest]
      exact ⟨rfl, hsend.length_pos, fun _ => rfl⟩
    · rw [hwaiting] at hstream
      obtain ⟨-, hsplit, hlong, hrest⟩ := hstream
      refine ⟨hsplit, hrest, ?_⟩
      intro hwhole
      omega
  obtain ⟨hsplit, hrest, hwhole⟩ := hbody
  obtain ⟨packet, info, segments', hchunk, hmatches, hpackets⟩ :=
    run_readChunk_step hpos hsend
      (d := setPrevHeaderRx ((T.header x.1).received chunkType)
        { d with input := ⟨x.2.rest.take chunkSize ++ more, segments⟩ })
      hsim.rxChunkSize (getChunkStreamInfo_set _ _ _) hsplit hrest hwhole rfl
  rw [← run_readPacket hread] at hchunk
  refine ⟨packet, _, hchunk, rfl, ⟨hsim.rxChunkSize, ?_⟩, ?_⟩
  · intro id
    by_cases hid : id = T.chunkKey x
    · subst hid
      rw [Function.update_self, chunkKey, getChunkStreamInfo_set]
      exact hmatches
    · have hne : id ≠ T.chunkStreamId x.1 := hid
      have hprev : (setPrevHeaderRx ((T.header x.1).received chunkType) d).getChunkStreamInfo id =
          d.getChunkStreamInfo id := getChunkStreamInfo_set_of_ne d hne _
      rw [Function.update_of_ne hid, getChunkStreamInfo_set_of_ne _ hne]
      show T.Matches chunkSize (σ id)
        ((setPrevHeaderRx ((T.header x.1).received chunkType) d).getChunkStreamInfo id)
      rw [hprev]
      exact hsim.streams id
  · by_cases hlast : x.2.rest.length ≤ chunkSize
    · rw [if_pos hlast] at hpackets
      simpa [ends, hlast] using hpackets
    · rw [if_neg hlast] at hpackets
      simpa [ends, hlast] using hpackets

theorem run_readPackets (hpos : 0 < chunkSize) (xs : List (α × Chunk)) :
    ∀ {σ σ' : Nat → Progress α} {d : RtmpDecoder} {calls : Nat},
      (∀ x ∈ xs, Sendable chunkSize (T.header x.1) (T.body x.1) (T.value x.1)) →
      T.Simulates chunkSize σ d →
      run (keyedStep T.chunkKey (T.step chunkSize)) σ xs = some σ' →
      d.input.bytes = xs.flatMap (fun x => x.2.bytes chunkSize) → xs.length ≤ calls →
      ∃ packets d', (readPackets calls).run d = .ok packets d' ∧ d'.input.bytes = [] ∧
        List.Forall₂ T.IsPacketOf packets (ends chunkSize xs) := by
  induction xs with
  | nil =>
    intro σ σ' d calls _ hsim hrun hin hcalls
    refine ⟨[], d, ?_, hin, .nil⟩
    have hempty : d.input.bytes.isEmpty = true := by
      rw [hin]
      rfl
    cases calls with
    | zero => rfl
    | succ calls =>
      rw [readPackets, run_get_bind, hempty]
      rfl
  | cons x xs ih =>
    intro σ σ' d calls hsend hsim hrun hin hcalls
    obtain ⟨σ₁, hstep, hrest⟩ := run_cons_eq_some hrun
    rw [List.flatMap_cons] at hin
    obtain ⟨packet, d₁, hpacket, hin₁, hsim₁, hone⟩ :=
      run_readPacket_step hpos (hsend x (.head _)) hsim hstep hin
    cases calls with
    | zero => simp at hcalls
    | succ calls =>
      obtain ⟨packets, d', hpackets, hend, hmore⟩ :=
        @ih σ₁ σ' d₁ calls (fun y hy => hsend y (.tail _ hy)) hsim₁ hrest hin₁
          (by simpa using hcalls)
      refine ⟨packet.toList ++ packets, d', ?_, hend, ?_⟩
      · have hbytes : d.input.bytes.isEmpty = false := by
          rw [hin]
          rfl
        rw [readPackets, run_get_bind, hbytes]
        show (do
          let packet ← readPacket
          let rest ← readPackets calls
          pure (packet.toList ++ rest) : Method RtmpDecoder _).run d = _
        rw [run_bind_ok hpacket, run_bind_ok hpackets, run_pure]
      · have hsplit : ends chunkSize (x :: xs) = ends chunkSize [x] ++ ends chunkSize xs := by
          rw [ends, ends, ends, ← List.map_append, ← List.filter_append]
          rfl
        rw [hsplit]
        exact List.rel_append hone hmore

/-- Messages whose chunks are interleaved in any way that keeps the order of
each chunk stream are received once each, in the order of their last chunks,
and no byte is left.  The decoder may have read other messages before. -/
theorem run_readPackets_of_idle (hpos : 0 < chunkSize)
    (hsend : ∀ m ∈ messages, Sendable chunkSize (T.header m) (T.body m) (T.value m))
    (hparts : ∀ id, part T.chunkKey xs id =
      (part T.chunkStreamId messages id).flatMap (T.chunks chunkSize))
    (hrx : d.rtmpSessionInfo.rxChunkSize = chunkSize)
    (hidle : ∀ id, (d.getChunkStreamInfo id).baos = [])
    (hin : d.input.bytes = xs.flatMap fun x => x.2.bytes chunkSize) {calls : Nat}
    (hcalls : xs.length ≤ calls) :
    ∃ packets d', (readPackets calls).run d = .ok packets d' ∧ d'.input.bytes = [] ∧
      List.Forall₂ T.IsPacketOf packets (ends chunkSize xs) := by
  have hrun : run (keyedStep T.chunkKey (T.step chunkSize)) (fun _ => none) xs =
      some fun _ => none := by
    apply run_keyed
    intro id
    rw [hparts]
    exact T.run_flatMap_chunks hpos _
  have hsim : T.Simulates chunkSize (fun _ => none) d := ⟨hrx, hidle⟩
  exact run_readPackets hpos xs (fun x hx => hsend x.1 (T.mem_of_mem_chunks hparts hx)) hsim hrun
    hin hcalls

/-- The same for a new decoder. -/
theorem run_readPackets_of_parts (hpos : 0 < chunkSize)
    (hsend : ∀ m ∈ messages, Sendable chunkSize (T.header m) (T.body m) (T.value m))
    (hparts : ∀ id, part T.chunkKey xs id =
      (part T.chunkStreamId messages id).flatMap (T.chunks chunkSize)) (segments : List Nat)
    {calls : Nat} (hcalls : xs.length ≤ calls) :
    ∃ packets d,
      (readPackets calls).run (RtmpDecoder.start chunkSize
        (xs.flatMap fun x => x.2.bytes chunkSize) segments) = .ok packets d ∧
      d.input.bytes = [] ∧ List.Forall₂ T.IsPacketOf packets (ends chunkSize xs) ∧
      (ends chunkSize xs).Perm messages := by
  obtain ⟨packets, d, hpackets, hend, hall⟩ := run_readPackets_of_idle hpos hsend hparts
    (d := RtmpDecoder.start chunkSize (xs.flatMap fun x => x.2.bytes chunkSize) segments) rfl
    (fun _ => rfl) rfl hcalls
  exact ⟨packets, d, hpackets, hend, hall, T.ends_perm hpos hparts⟩

end Decoder

end Traffic

end MediasoupDemo.Rtmp
