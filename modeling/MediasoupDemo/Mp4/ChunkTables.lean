import MediasoupDemo.Lib.RunTable
import MediasoupDemo.Mp4.SampleTables
import Mathlib.Data.List.SplitBy

/-!
# The chunk tables of a track

`createStsc` and `createStco` cut the sample list of a track into chunks with
two separate loops.  One looks ahead and counts, the other looks back and
keeps the end of the previous sample.  Both cut at the same places: a chunk is
a longest run of samples in which each sample starts where the one before it
ends.  `Chunked` states that of a list of chunks, and `List.splitBy` gives the
one such list of a track.

* `stcoLoop_flatten`: the offset loop yields the offset of each chunk.
* `stscLoop_flatten`: the counting loop yields a step table of the chunk
  lengths.
* `readSamples` reads the three tables by the rules of ISO/IEC 14496-12: an
  `stsc` entry holds from its first chunk until the next entry, and the
  samples of a chunk follow each other.  It gives back the samples
  (`readSamples_chunks`), and the entries describe as many chunks as there are
  offsets (`chunksFor_chunks`).
-/

namespace MediasoupDemo.Mp4

open MediasoupDemo.Runtime

/-! ## Reading the tables -/

/-- The number of samples in a chunk: an entry holds from its first chunk
until the next entry. -/
def samplesPerChunk (entries : List SampleToChunkEntry) (chunk : Nat) : Nat :=
  (((entries.filter (fun entry => entry.firstChunk ≤ chunk)).getLast?).map
    SampleToChunkEntry.samplesPerChunk).getD 0

/-- The samples of one chunk lie one after the other. -/
def layout (offset : Int) : (sizes : List Int) → List Sample
  | [] => []
  | size :: sizes => { offset, size } :: layout (offset + size) sizes

/-- The samples that the tables describe, from chunk number `chunk` on.
`none` when the chunks and the sizes do not match. -/
def readSamples (entries : List SampleToChunkEntry) :
    (chunk : Nat) → (chunkOffsets sizes : List Int) → Option (List Sample)
  | _, [], [] => some []
  | _, [], _ :: _ => none
  | chunk, offset :: chunkOffsets, sizes =>
      let count := samplesPerChunk entries chunk
      if count ≤ sizes.length then
        (readSamples entries (chunk + 1) chunkOffsets (sizes.drop count)).map
          (layout offset (sizes.take count) ++ ·)
      else none

/-- The number of chunks, from chunk number `chunk` on, that it takes to hold
`samples` samples.  A chunk holds at least one sample, so `fuel` chunks are
enough when `fuel` is the number of samples. -/
def chunksFor (entries : List SampleToChunkEntry) :
    (fuel chunk samples : Nat) → Nat
  | 0, _, _ => 0
  | _ + 1, _, 0 => 0
  | fuel + 1, chunk, samples + 1 =>
      1 + chunksFor entries fuel (chunk + 1) (samples + 1 - samplesPerChunk entries chunk)

/-- The number of chunks that the `stsc` entries describe for a track of
`samples` samples. -/
def describedChunks (entries : List SampleToChunkEntry) (samples : Nat) : Nat :=
  chunksFor entries samples 1 samples

/-! ## Chunks -/

/-- The next sample starts where this one ends, as both loops test it. -/
def contiguous (a b : Sample) : Bool := long (a.offset + a.size) == b.offset

/-- The offset of a chunk is that of its first sample. -/
def chunkOffset (chunk : List Sample) : Int := (chunk.head?.map Sample.offset).getD 0

@[simp] theorem chunkOffset_cons (sample : Sample) (chunk : List Sample) :
    chunkOffset (sample :: chunk) = sample.offset := rfl

/-- A list of chunks cut at every gap and nowhere else. -/
structure Chunked (chunks : List (List Sample)) : Prop where
  ne_nil : [] ∉ chunks
  inside : ∀ chunk ∈ chunks, chunk.IsChain (fun a b => contiguous a b = true)
  apart : chunks.IsChain fun a b => ∃ ha hb, contiguous (a.getLast ha) (b.head hb) = false

theorem chunked_splitBy (samples : List Sample) : Chunked (samples.splitBy contiguous) where
  ne_nil := List.nil_notMem_splitBy _ _
  inside := fun _ h => List.isChain_of_mem_splitBy h
  apart := List.isChain_getLast_head_splitBy _ _

namespace Chunked

variable {chunk : List Sample} {chunks : List (List Sample)}

theorem tail (h : Chunked (chunk :: chunks)) : Chunked chunks where
  ne_nil := fun hmem => h.ne_nil (List.mem_cons_of_mem _ hmem)
  inside := fun c hc => h.inside c (List.mem_cons_of_mem _ hc)
  apart := h.apart.tail

theorem head_ne_nil (h : Chunked (chunk :: chunks)) : chunk ≠ [] := by
  rintro rfl
  exact h.ne_nil (by simp)

/-- The sample after a chunk does not start where the chunk ends. -/
theorem gap (h : Chunked (chunk :: chunks)) {next : Sample}
    (hnext : chunks.flatten.head? = some next) :
    contiguous (chunk.getLast h.head_ne_nil) next = false := by
  cases chunks with
  | nil => simp at hnext
  | cons chunk' chunks =>
    obtain ⟨_, hb, hgap⟩ := (List.isChain_cons_cons.mp h.apart).1
    have hhead : chunk'.head hb = next := by
      rw [List.flatten_cons, List.head?_append_of_ne_nil _ hb] at hnext
      exact List.head_of_mem_head? hnext
    rw [← hhead]
    exact hgap

end Chunked

/-- The bounds that Java's `long` and a file position give. -/
def Sample.Nonneg (s : Sample) : Prop :=
  0 ≤ s.offset ∧ s.offset < 2 ^ 63 ∧ 0 ≤ s.size ∧ s.size < 2 ^ 63

/-- Non-negative samples that follow each other do so in exact arithmetic. -/
theorem offset_add_size_of_contiguous {a b : Sample} (ha : a.Nonneg) (hb : b.Nonneg)
    (h : contiguous a b = true) : a.offset + a.size = b.offset := by
  obtain ⟨ho, ho', hs, hs'⟩ := ha
  exact add_eq_of_long_add_eq ⟨by omega, ho'⟩ ⟨by omega, hs'⟩ ho hs hb.1
    (by simpa [contiguous] using h)

/-! ## The chunk offsets -/

variable {sample : Sample}

/-- A sample that starts at the end of the previous one opens no chunk. -/
theorem stcoLoop_of_eq (h : sample.offset ≠ -1) (rest : List Sample) :
    stcoLoop (sample :: rest) sample.offset =
      stcoLoop rest (long (sample.offset + sample.size)) := by
  simp [stcoLoop, h]

/-- A sample that starts anywhere else opens a chunk. -/
theorem stcoLoop_of_ne {lastOffset : Int} (h : lastOffset ≠ sample.offset) (rest : List Sample) :
    stcoLoop (sample :: rest) lastOffset =
      sample.offset :: stcoLoop rest (long (sample.offset + sample.size)) := by
  by_cases hnone : lastOffset = -1
  · simp [stcoLoop, hnone]
  · simp [stcoLoop, hnone, h]

/-- Inside a chunk the offset loop adds nothing. -/
theorem stcoLoop_inside (sample : Sample) (chunk rest : List Sample)
    (hchain : (sample :: chunk).IsChain (fun a b => contiguous a b = true))
    (hpos : ∀ s ∈ chunk, 0 ≤ s.offset) :
    stcoLoop (chunk ++ rest) (long (sample.offset + sample.size)) =
      stcoLoop rest
        (long (((sample :: chunk).getLast (by simp)).offset +
          ((sample :: chunk).getLast (by simp)).size)) := by
  induction chunk generalizing sample with
  | nil => rfl
  | cons next chunk ih =>
    obtain ⟨hnext, hchain'⟩ := List.isChain_cons_cons.mp hchain
    have hend : long (sample.offset + sample.size) = next.offset := by
      simpa [contiguous] using hnext
    have h0 : 0 ≤ next.offset := hpos next (by simp)
    have hlast : (sample :: next :: chunk).getLast (by simp) =
        (next :: chunk).getLast (by simp) := by simp
    rw [hlast, List.cons_append, hend, stcoLoop_of_eq (by omega)]
    exact ih next hchain' (fun s hs => hpos s (List.mem_cons_of_mem _ hs))

/-- The offset loop yields the offset of each chunk, when the sample before
the first chunk does not touch it. -/
theorem stcoLoop_flatten (chunks : List (List Sample)) :
    ∀ lastOffset : Int, Chunked chunks → (∀ s ∈ chunks.flatten, 0 ≤ s.offset) →
      (∀ s, chunks.flatten.head? = some s → lastOffset ≠ s.offset) →
      stcoLoop chunks.flatten lastOffset =
        chunks.map chunkOffset := by
  induction chunks with
  | nil => intro _ _ _ _; rfl
  | cons chunk chunks ih =>
    intro lastOffset h hpos hgap
    cases chunk with
    | nil => exact absurd rfl h.head_ne_nil
    | cons sample chunk =>
      have hlast : lastOffset ≠ sample.offset := hgap sample (by simp)
      have hnext : ∀ s, chunks.flatten.head? = some s →
          long (((sample :: chunk).getLast (by simp)).offset +
            ((sample :: chunk).getLast (by simp)).size) ≠ s.offset := by
        intro s hs
        simpa [contiguous] using h.gap hs
      rw [List.flatten_cons, List.cons_append, stcoLoop_of_ne hlast,
        stcoLoop_inside sample chunk _ (h.inside _ (by simp)) (fun s hs => hpos s (by simp [hs])),
        ih _ h.tail (fun s hs => hpos s (by simp [hs])) hnext]
      simp

/-! ## The chunk lengths -/

/-- The loop state after the samples of a chunk have been counted. -/
def StscLoop.count (st : StscLoop) (samples : Nat) : StscLoop :=
  { st with lastSampleCount := st.lastSampleCount + samples }

/-- The counting loop goes on inside a chunk. -/
theorem stscLoop_of_contiguous {next : Sample} (h : contiguous sample next = true)
    (rest : List Sample) (st : StscLoop) :
    stscLoop (sample :: next :: rest) st = stscLoop (next :: rest) (st.count 1) := by
  have hsame : (long (sample.offset + sample.size) != next.offset) = false := by
    simpa [contiguous, bne] using h
  show stscLoop (next :: rest) (if long (sample.offset + sample.size) != next.offset
    then (st.count 1).write else st.count 1) = _
  rw [hsame]
  rfl

/-- The counting loop closes the chunk at its last sample. -/
theorem stscLoop_of_gap {rest : List Sample}
    (h : ∀ s, rest.head? = some s → contiguous sample s = false) (st : StscLoop) :
    stscLoop (sample :: rest) st = stscLoop rest (st.count 1).write := by
  cases rest with
  | nil => rfl
  | cons next rest =>
    have hdiff : (long (sample.offset + sample.size) != next.offset) = true := by
      have := h next rfl
      simpa [contiguous, bne] using this
    show stscLoop (next :: rest) (if long (sample.offset + sample.size) != next.offset
      then (st.count 1).write else st.count 1) = _
    rw [hdiff]
    rfl

/-- The counting loop counts the samples of a chunk and closes it. -/
theorem stscLoop_chunk (chunk rest : List Sample) (st : StscLoop) (hne : chunk ≠ [])
    (hchain : chunk.IsChain (fun a b => contiguous a b = true))
    (hgap : ∀ s, rest.head? = some s → contiguous (chunk.getLast hne) s = false) :
    stscLoop (chunk ++ rest) st = stscLoop rest (st.count chunk.length).write := by
  induction chunk generalizing st with
  | nil => exact absurd rfl hne
  | cons sample chunk ih =>
    cases chunk with
    | nil => exact stscLoop_of_gap hgap st
    | cons next chunk =>
      obtain ⟨hnext, hchain'⟩ := List.isChain_cons_cons.mp hchain
      have hcount : (st.count 1).count (next :: chunk).length =
          st.count (sample :: next :: chunk).length := by
        simp [StscLoop.count, Nat.add_comm, Nat.add_left_comm]
      have := ih (st.count 1) (by simp) hchain' (by simpa using hgap)
      rw [hcount] at this
      rw [List.cons_append, List.cons_append, stscLoop_of_contiguous hnext]
      exact this

/-- The entry of the `stsc` box for a change of the chunk length. -/
def stscEntry (change : Nat × Nat) : SampleToChunkEntry :=
  { firstChunk := change.1, samplesPerChunk := change.2, sampleDescriptionIndex := 1 }

/-- `previousWritedChunkCount`, with `-1` for "no entry yet". -/
def previousCount : Option Nat → Int
  | none => -1
  | some count => count

theorem previousCount_eq {prev : Option Nat} {count : Nat} :
    previousCount prev = count ↔ prev = some count := by
  cases prev with
  | none => simp only [previousCount, reduceCtorEq]
  | some c =>
    simp only [previousCount, Option.some.injEq]
    omega

/-- The counting loop yields a step table of the chunk lengths. -/
theorem stscLoop_flatten (chunks : List (List Sample)) :
    ∀ (st : StscLoop) (prev : Option Nat), Chunked chunks → st.lastSampleCount = 0 →
      st.previousWritedChunkCount = previousCount prev →
      (stscLoop chunks.flatten st).entries =
        st.entries ++
          (RunTable.steps prev st.lastChunkNumber (chunks.map List.length)).map stscEntry := by
  induction chunks with
  | nil => intro st prev _ _ _; simp [stscLoop, RunTable.steps]
  | cons chunk chunks ih =>
    intro st prev h hcount hprev
    rw [List.flatten_cons,
      stscLoop_chunk chunk chunks.flatten st h.head_ne_nil (h.inside _ (by simp))
        (fun s hs => h.gap hs)]
    rw [List.map_cons, RunTable.steps]
    by_cases heq : prev = some chunk.length
    · -- The chunk is as long as the one before it: no entry.
      have hp : st.previousWritedChunkCount = (chunk.length : Int) := by
        rw [hprev, heq]
        rfl
      rw [if_pos heq, ih _ prev h.tail rfl ?_]
      · simp [StscLoop.write, StscLoop.count, hcount, hp]
      · simp [StscLoop.write, StscLoop.count, hcount, hp, heq, previousCount]
    · have hp : st.previousWritedChunkCount ≠ (chunk.length : Int) := by
        rw [hprev]
        exact fun hc => heq (previousCount_eq.mp hc)
      rw [if_neg heq, ih _ (some chunk.length) h.tail rfl ?_]
      · simp [StscLoop.write, StscLoop.count, hcount, hp, stscEntry]
      · simp [StscLoop.write, StscLoop.count, hcount, hp, previousCount]

theorem samplesPerChunk_stscEntry (changes : List (Nat × Nat)) (chunk : Nat) :
    samplesPerChunk (changes.map stscEntry) chunk = (RunTable.lookup changes chunk).getD 0 := by
  unfold samplesPerChunk RunTable.lookup
  rw [List.filter_map, List.getLast?_map]
  simp [Function.comp_def, stscEntry]
  rfl

section Track

variable (t : Track)

def Track.chunks : List (List Sample) := t.samples.splitBy contiguous

theorem createStco_eq (hpos : ∀ s ∈ t.samples, 0 ≤ s.offset) :
    createStco t = t.chunks.map chunkOffset := by
  have hflat : t.chunks.flatten = t.samples := List.flatten_splitBy _ _
  have h0 : ∀ s ∈ t.chunks.flatten, 0 ≤ s.offset := by
    rw [hflat]
    exact hpos
  rw [createStco, ← hflat]
  refine stcoLoop_flatten _ _ (chunked_splitBy _) h0 ?_
  intro s hs
  have := h0 s (List.mem_of_mem_head? hs)
  omega

theorem createStsc_eq :
    createStsc t = (RunTable.steps none 1 (t.chunks.map List.length)).map stscEntry := by
  have hflat : t.chunks.flatten = t.samples := List.flatten_splitBy _ _
  rw [createStsc, ← hflat]
  simpa using stscLoop_flatten t.chunks {} none (chunked_splitBy _) rfl rfl

theorem samplesPerChunk_createStsc {i : Nat} {chunk : List Sample}
    (h : t.chunks[i]? = some chunk) :
    samplesPerChunk (createStsc t) (1 + i) = chunk.length := by
  have hi : i < t.chunks.length := (List.getElem?_eq_some_iff.mp h).1
  rw [createStsc_eq, samplesPerChunk_stscEntry,
    RunTable.lookup_steps _ 1 i (by simpa using hi)]
  simp [h]

end Track

/-! ## Reading the tables back -/

/-- The sizes of a chunk, laid out from its offset, are the chunk. -/
theorem layout_chunk (sample : Sample) (chunk : List Sample)
    (hchain : (sample :: chunk).IsChain (fun a b => contiguous a b = true))
    (hpos : ∀ s ∈ sample :: chunk, s.Nonneg) :
    layout sample.offset ((sample :: chunk).map Sample.size) = sample :: chunk := by
  induction chunk generalizing sample with
  | nil => rfl
  | cons next chunk ih =>
    obtain ⟨hnext, hchain'⟩ := List.isChain_cons_cons.mp hchain
    have hend : sample.offset + sample.size = next.offset :=
      offset_add_size_of_contiguous (hpos sample (by simp)) (hpos next (by simp)) hnext
    have := ih next hchain' (fun s hs => hpos s (List.mem_cons_of_mem _ hs))
    rw [List.map_cons, layout, hend, this]

/-- Chunks whose lengths the entries give are read back sample by sample. -/
theorem readSamples_chunks (entries : List SampleToChunkEntry) (chunks : List (List Sample)) :
    ∀ n : Nat, Chunked chunks → (∀ s ∈ chunks.flatten, s.Nonneg) →
      (∀ i chunk, chunks[i]? = some chunk → samplesPerChunk entries (n + i) = chunk.length) →
      readSamples entries n (chunks.map chunkOffset)
        (chunks.flatten.map Sample.size) = some chunks.flatten := by
  induction chunks with
  | nil => intro n _ _ _; rfl
  | cons chunk chunks ih =>
    intro n h hpos hlen
    cases chunk with
    | nil => exact absurd rfl h.head_ne_nil
    | cons sample chunk =>
      have hcount : samplesPerChunk entries n = (sample :: chunk).length := hlen 0 _ rfl
      have htail := ih (n + 1) h.tail (fun s hs => hpos s (by simp [hs]))
        (fun i c hc => by
          have := hlen (i + 1) c (by simpa using hc)
          rwa [show n + (i + 1) = n + 1 + i by omega] at this)
      have hchunk := layout_chunk sample chunk (h.inside _ (by simp))
        (fun s hs => hpos s (List.mem_append_left _ hs))
      have htake : ((((sample :: chunk) :: chunks).flatten).map Sample.size).take
          (sample :: chunk).length = (sample :: chunk).map Sample.size := by
        simp
      have hdrop : ((((sample :: chunk) :: chunks).flatten).map Sample.size).drop
          (sample :: chunk).length = chunks.flatten.map Sample.size := by
        simp
      rw [List.map_cons, readSamples]
      simp only [hcount]
      rw [if_pos (by simp), htake, hdrop, htail, chunkOffset_cons, hchunk]
      rfl

/-- Chunks whose lengths the entries give are as many as the entries
describe. -/
theorem chunksFor_chunks (entries : List SampleToChunkEntry) (chunks : List (List Sample)) :
    ∀ n fuel : Nat, [] ∉ chunks → chunks.flatten.length ≤ fuel →
      (∀ i chunk, chunks[i]? = some chunk → samplesPerChunk entries (n + i) = chunk.length) →
      chunksFor entries fuel n chunks.flatten.length = chunks.length := by
  induction chunks with
  | nil => intro n fuel _ _ _; cases fuel <;> rfl
  | cons chunk chunks ih =>
    intro n fuel hne hfuel hlen
    cases chunk with
    | nil => simp at hne
    | cons sample chunk =>
      have hcount : samplesPerChunk entries n = chunk.length + 1 := hlen 0 _ rfl
      have hall : ((sample :: chunk) :: chunks).flatten.length =
          (chunk.length + chunks.flatten.length) + 1 := by
        simp only [List.flatten_cons, List.length_append, List.length_cons]
        omega
      rw [hall] at hfuel ⊢
      cases fuel with
      | zero => omega
      | succ fuel =>
        have hrest : chunk.length + chunks.flatten.length + 1 - (chunk.length + 1) =
            chunks.flatten.length := by omega
        rw [chunksFor, hcount, hrest,
          ih (n + 1) fuel (fun hmem => hne (List.mem_cons_of_mem _ hmem)) (by omega)
            (fun i c hc => by
              have := hlen (i + 1) c (by simpa using hc)
              rwa [show n + (i + 1) = n + 1 + i by omega] at this)]
        simp [Nat.add_comm]

/-- **The chunk tables.**  For every track whose samples have non-negative
offsets and sizes, the tables give back exactly the samples, and the `stsc`
entries describe as many chunks as there are chunk offsets. -/
theorem readSamples_tables (t : Track) (hpos : ∀ s ∈ t.samples, s.Nonneg) :
    readSamples (createStsc t) 1 (createStco t) (createStsz t) = some t.samples ∧
      describedChunks (createStsc t) (createStsz t).length = (createStco t).length := by
  have hflat : t.chunks.flatten = t.samples := List.flatten_splitBy _ _
  have hlen : ∀ i chunk, t.chunks[i]? = some chunk →
      samplesPerChunk (createStsc t) (1 + i) = chunk.length :=
    fun i chunk h => samplesPerChunk_createStsc t h
  constructor
  · have := readSamples_chunks (createStsc t) t.chunks 1 (chunked_splitBy _)
      (by rw [hflat]; exact hpos) hlen
    rwa [hflat, ← createStco_eq t fun s hs => (hpos s hs).1] at this
  · have := chunksFor_chunks (createStsc t) t.chunks 1 t.samples.length
      (List.nil_notMem_splitBy _ _) (by rw [hflat]) hlen
    rw [hflat] at this
    rw [describedChunks, createStsz, List.length_map, this,
      createStco_eq t fun s hs => (hpos s hs).1, List.length_map]

/-- Three samples of a video track in two chunks. -/
theorem readSamples_tables_video :
    ∃ t : Track, t.samples = [⟨40, 10⟩, ⟨50, 5⟩, ⟨100, 7⟩] ∧
      readSamples (createStsc t) 1 (createStco t) (createStsz t) = some t.samples := by
  let t : Track :=
    { trackId := 0, isAudio := false, samples := [⟨40, 10⟩, ⟨50, 5⟩, ⟨100, 7⟩]
      duration := 9045, handler := "vide", sampleDescription := .none, syncSamples := some [1]
      timeScale := 90000, height := 480, width := 640, volume := 0
      sampleDurations := [3015, 3015, 3015], lastPresentationTimeUs := 66000, first := false
      timeScale_pos := by decide, sampleDurations_ne := by decide
      syncSamples_eq_none := by decide }
  have hpos : ∀ s ∈ t.samples, s.Nonneg := by
    intro s hs
    simp only [t, List.mem_cons, List.not_mem_nil, or_false] at hs
    rcases hs with rfl | rfl | rfl <;> simp [Sample.Nonneg]
  exact ⟨t, rfl, (readSamples_tables t hpos).1⟩

end MediasoupDemo.Mp4
