import MediasoupDemo.Mp4.Track

/-!
# The sample tables of a track

`createStts`, `createStss`, `createStsc`, `createStsz` and `createStco` of
`SrsMp4Muxer` turn the sample list of a track into the tables of its `stbl`
box.  Each definition here is the list of entries that the Java function
hands to the box, before the box narrows the numbers to 32 bits.

The source walks the sample list with an index.  `createStsc` looks one
sample ahead, so its loop is a recursion over the samples that are left, and
`createStco` carries the end of the previous sample with `-1` for "none".
-/

namespace MediasoupDemo.Mp4

open MediasoupDemo.Runtime

/-! ## Time to sample and sync samples -/

/-- `TimeToSampleBox.Entry`. -/
structure TimeToSampleEntry where
  count : Nat
  delta : Int

/-- One turn of the loop of `createStts`.  `lastEntry` is the last entry of the
list, and the code changes its count in place. -/
def sttsStep (entries : List TimeToSampleEntry) (delta : Int) : List TimeToSampleEntry :=
  match entries.getLast? with
  | some lastEntry =>
      if lastEntry.delta = delta then
        entries.dropLast ++ [{ lastEntry with count := lastEntry.count + 1 }]
      else entries ++ [{ count := 1, delta }]
  | none => entries ++ [{ count := 1, delta }]

/-- `createStts`: run-length coded sample durations. -/
def createStts (t : Track) : List TimeToSampleEntry :=
  t.sampleDurations.foldl sttsStep []

/-- `TimeToSampleBox.blowupTimeToSamples`: one duration for each sample. -/
def blowupTimeToSamples (entries : List TimeToSampleEntry) : List Int :=
  entries.flatMap (fun entry => List.replicate entry.count entry.delta)

/-- `createStss`: the numbers in the sync sample box, `none` when the track
gets no such box. -/
def createStss (t : Track) : Option (List Nat) :=
  match t.getSyncSamples with
  | some syncSamples => if 0 < syncSamples.length then some syncSamples else none
  | none => none

/-! ## Sample to chunk, sample sizes and chunk offsets -/

/-- `SampleToChunkBox.Entry`. -/
structure SampleToChunkEntry where
  firstChunk : Nat
  samplesPerChunk : Nat
  sampleDescriptionIndex : Nat

/-- The local variables of the loop of `createStsc`. -/
structure StscLoop where
  entries : List SampleToChunkEntry := []
  lastChunkNumber : Nat := 1
  lastSampleCount : Nat := 0
  previousWritedChunkCount : Int := -1

/-- The `if (write)` block of the loop: close the current chunk, and open an
entry when its number of samples differs from the previous entry. -/
def StscLoop.write (st : StscLoop) : StscLoop :=
  let st :=
    if st.previousWritedChunkCount ≠ st.lastSampleCount then
      { st with
        entries := st.entries ++
          [{ firstChunk := st.lastChunkNumber, samplesPerChunk := st.lastSampleCount
             sampleDescriptionIndex := 1 }]
        previousWritedChunkCount := st.lastSampleCount }
    else st
  { st with lastSampleCount := 0, lastChunkNumber := st.lastChunkNumber + 1 }

/-- The loop of `createStsc` over the samples that are left. -/
def stscLoop : List Sample → StscLoop → StscLoop
  | [], st => st
  | sample :: rest, st =>
      let lastOffset := long (sample.offset + sample.size)
      let st := { st with lastSampleCount := st.lastSampleCount + 1 }
      let write :=
        match rest with
        | nextSample :: _ => lastOffset != nextSample.offset
        | [] => true
      stscLoop rest (if write then st.write else st)

/-- `createStsc`: the chunks at which the number of samples changes. -/
def createStsc (t : Track) : List SampleToChunkEntry := (stscLoop t.samples {}).entries

/-- `createStsz`: the sizes that `finishMovie` puts into `track2SampleSizes`. -/
def createStsz (t : Track) : List Int := t.samples.map Sample.size

/-- The loop of `createStco`: `lastOffset` is the end of the previous sample. -/
def stcoLoop : List Sample → (lastOffset : Int) → List Int
  | [], _ => []
  | sample :: rest, lastOffset =>
      let offset := sample.offset
      let lastOffset := if lastOffset ≠ -1 ∧ lastOffset ≠ offset then -1 else lastOffset
      let next := long (offset + sample.size)
      if lastOffset = -1 then offset :: stcoLoop rest next else stcoLoop rest next

/-- `createStco`: the offsets of the chunks, before they are narrowed to 32
bits. -/
def createStco (t : Track) : List Int := stcoLoop t.samples (-1)

end MediasoupDemo.Mp4
