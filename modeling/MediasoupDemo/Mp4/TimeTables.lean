import MediasoupDemo.Lib.RunTable
import MediasoupDemo.Mp4.SampleTables
import Mathlib.Algebra.Order.Round
import Mathlib.Data.Rat.Floor
import Mathlib.Tactic.FieldSimp
import Mathlib.Tactic.Linarith

/-!
# The time tables of a track

`Track.addSample` skips a sample whose presentation time went back, inserts
the duration of every other sample before a seeded last element, and numbers
the sync frames as they come.  This module says what the three lists hold
after any sequence of calls, in terms of the calls alone.

* `accepted` lists the calls that are taken: those whose presentation time
  is not before the last taken one, which counts as `0` at the start.
* `Records` is the invariant: after any calls the sample list, the durations,
  the duration and the sync numbers are those of the accepted calls.
  `records_addSample` is the step and `records_addSamples` the run.
* The `stts` and `stss` tables are read off it at the end.

The duration of a sample is the distance to the next accepted one, converted
to the time scale of the track.  `toTimescale` states the conversion as a
rounding of rational numbers, and `ticks_eq_toTimescale` connects it to the
integer arithmetic of the code.
-/

namespace MediasoupDemo.Mp4

open MediasoupDemo.Runtime

/-- The arguments of one call of `addSample`. -/
structure AddCall where
  offset : Int
  bi : BufferInfo

namespace AddCall

def pts (call : AddCall) : Int := call.bi.presentationTimeUs

/-- The sample that an accepted call records. -/
def sample (call : AddCall) : Sample := { offset := call.offset, size := call.bi.size }

end AddCall

/-- A sequence of calls on one track. -/
def addSamples (t : Track) (calls : List AddCall) : Track :=
  calls.foldl (fun t call => t.addSample call.offset call.bi) t

/-! ## What a track is for -/

/-- The presentation time of the last accepted call. -/
def lastTime (taken : List AddCall) : Int := (taken.getLast?.map AddCall.pts).getD 0

/-- A call is taken unless its presentation time went back. -/
def accept (taken : List AddCall) (call : AddCall) : List AddCall :=
  if call.pts < lastTime taken then taken else taken ++ [call]

/-- The calls of a sequence that are taken. -/
def accepted (calls : List AddCall) : List AddCall := calls.foldl accept []

/-- A time distance in microseconds, converted to a time scale and rounded to
the nearest tick. -/
def toTimescale (timeScale delta : Int) : Int := round ((delta * timeScale : ℚ) / 1000000)

/-- The converted distances between neighbouring calls. -/
def gaps (timeScale : Int) (taken : List AddCall) : List Int :=
  List.zipWith (fun a b => toTimescale timeScale (b.pts - a.pts)) taken taken.tail

/-- The numbers of the calls that carry the sync flag, counted from one. -/
def syncNumbers (taken : List AddCall) : List Nat :=
  ((taken.zipIdx 1).filter (fun entry => entry.1.bi.isSync)).map Prod.snd

/-- No 64-bit operation of this `addSample` call overflows.  A refused call
computes the difference only, and the first accepted one adds no duration. -/
def AddInRange (t : Track) (bi : BufferInfo) : Prop :=
  let delta := bi.presentationTimeUs - t.lastPresentationTimeUs
  InLong delta ∧
    (0 ≤ delta → InLong (delta * t.timeScale) ∧ InLong (delta * t.timeScale + 500000) ∧
      (t.first = false → InLong (t.duration + (delta * t.timeScale + 500000) / 1000000)))

/-- No 64-bit operation of a sequence of `addSample` calls overflows. -/
def NoOverflow : Track → List AddCall → Prop
  | _, [] => True
  | t, call :: calls =>
      AddInRange t call.bi ∧ NoOverflow (t.addSample call.offset call.bi) calls

/-! ## The conversion to ticks -/

/-- Integer division rounds to the nearest tick. -/
theorem add_half_div_eq_round (n : Int) : (n + 500000) / 1000000 = round ((n : ℚ) / 1000000) := by
  rw [round_eq]
  have h : (n : ℚ) / 1000000 + 1 / 2 = ((n + 500000 : Int) : ℚ) / ((1000000 : Nat) : ℚ) := by
    push_cast
    ring
  rw [h, Rat.floor_intCast_div_natCast]
  rfl

variable {taken : List AddCall} (timeScale : Int) {t : Track}

/-- Without overflow, the code's tick count is the rounded conversion. -/
theorem ticks_eq_toTimescale {delta : Int} (h0 : 0 ≤ delta) (hmul : InLong (delta * t.timeScale))
    (hadd : InLong (delta * t.timeScale + 500000)) :
    t.ticks delta = toTimescale t.timeScale delta := by
  have hprod : 0 ≤ delta * t.timeScale := Int.mul_nonneg h0 (Int.le_of_lt t.timeScale_pos)
  rw [Track.ticks, long_eq_self hmul, long_eq_self hadd, toTimescale,
    Int.tdiv_eq_ediv_of_nonneg (by omega), add_half_div_eq_round]
  push_cast
  rfl

/-! ## Growing the lists by one call -/

theorem insertIdx_before_last (xs : List Int) (seed a : Int) :
    (xs ++ [seed]).insertIdx ((xs ++ [seed]).length - 1) a = xs ++ [a] ++ [seed] := by
  induction xs with
  | nil => rfl
  | cons x xs ih => simpa using ih

/-- Pairing neighbours: one more element adds one more pair. -/
theorem zipWith_tail_concat {α β : Type*} (f : α → α → β) {xs : List α} {last : α}
    (hlast : xs.getLast? = some last) (x : α) :
    List.zipWith f (xs ++ [x]) (xs ++ [x]).tail = List.zipWith f xs xs.tail ++ [f last x] := by
  induction xs with
  | nil => simp at hlast
  | cons a xs ih =>
    cases xs with
    | nil =>
      simp only [List.getLast?_singleton, Option.some.injEq] at hlast
      subst hlast
      rfl
    | cons b xs =>
      have := ih (by simpa using hlast)
      simpa using this

theorem gaps_concat {last : AddCall} (hlast : taken.getLast? = some last) (call : AddCall) :
    gaps timeScale (taken ++ [call]) =
      gaps timeScale taken ++ [toTimescale timeScale (call.pts - last.pts)] :=
  zipWith_tail_concat _ hlast call

theorem syncNumbers_concat (taken : List AddCall) (call : AddCall) :
    syncNumbers (taken ++ [call]) =
      syncNumbers taken ++ if call.bi.isSync then [taken.length + 1] else [] := by
  unfold syncNumbers
  rw [List.zipIdx_append, List.filter_append, List.map_append]
  congr 1
  cases hsync : call.bi.isSync <;> simp [hsync, Nat.add_comm]

/-! ## The invariant -/

/-- A track as the constructor leaves it. -/
structure Fresh (t : Track) : Prop where
  samples : t.samples = []
  last : t.lastPresentationTimeUs = 0
  first : t.first = true
  durations : t.sampleDurations = [t.duration]
  sync : t.syncSamples = if t.isAudio then none else some []

/-- The constructor makes a fresh track of the kind asked for. -/
theorem fresh_newTrack {id : Nat} {format : MediaFormat} {audio : Bool}
    {h264_sps : Option ByteBuffer} (h : newTrack id format audio h264_sps = .ok t) :
    Fresh t ∧ t.isAudio = audio := by
  unfold newTrack at h
  split at h
  · rename_i haudio
    unfold newAudioTrack at h
    split at h
    · cases h
    · cases h
      exact ⟨⟨rfl, rfl, rfl, rfl, rfl⟩, haudio.symm⟩
  · rename_i haudio
    unfold newVideoTrack at h
    cases hdescription : videoDescription format h264_sps with
    | error e => rw [hdescription] at h; cases h
    | ok description =>
      rw [hdescription] at h
      cases h
      exact ⟨⟨rfl, rfl, rfl, rfl, rfl⟩, by simpa using haudio⟩

/-- After some calls on the fresh track `t₀`, the track `t` holds exactly what
the accepted calls `taken` say. -/
structure Records (t₀ t : Track) (taken : List AddCall) : Prop where
  isAudio : t.isAudio = t₀.isAudio
  timeScale : t.timeScale = t₀.timeScale
  samples : t.samples = taken.map AddCall.sample
  last : t.lastPresentationTimeUs = lastTime taken
  first : t.first = taken.isEmpty
  durations : t.sampleDurations = gaps t₀.timeScale taken ++ [t₀.duration]
  duration : t.duration = t.sampleDurations.sum
  sync : t.syncSamples = if t₀.isAudio then none else some (syncNumbers taken)

theorem durations_addSample {t₀ : Track} {call : AddCall} (h : Records t₀ t taken)
    (hacc : t.accepts call.bi = true) (hrange : AddInRange t call.bi) :
    (t.addSample call.offset call.bi).sampleDurations =
        gaps t₀.timeScale (taken ++ [call]) ++ [t₀.duration] ∧
      (t.addSample call.offset call.bi).duration =
        (t.addSample call.offset call.bi).sampleDurations.sum := by
  obtain ⟨hdelta, hrest⟩ := hrange
  have hpos : 0 ≤ call.bi.presentationTimeUs - t.lastPresentationTimeUs := by
    have := Track.not_lt_of_accepts hacc
    rw [long_eq_self hdelta] at this
    omega
  obtain ⟨hmul, hadd, hdur⟩ := hrest hpos
  rw [Track.addSample_sampleDurations hacc, Track.addSample_duration hacc,
    long_eq_self hdelta, ticks_eq_toTimescale hpos hmul hadd]
  cases hlast : taken.getLast? with
  | none =>
    -- The first accepted call: the seed alone is the list.
    have hnil : taken = [] := by simpa using hlast
    subst hnil
    have hfirst : t.first = true := by simpa using h.first
    rw [hfirst, if_pos rfl, if_pos rfl]
    exact ⟨by simpa [gaps] using h.durations, h.duration⟩
  | some last =>
    have hfirst : t.first = false := by
      rw [h.first]
      cases taken with
      | nil => simp at hlast
      | cons _ _ => rfl
    have hprev : t.lastPresentationTimeUs = last.pts := by
      rw [h.last, lastTime, hlast]
      rfl
    have hgap : toTimescale t.timeScale (call.bi.presentationTimeUs - t.lastPresentationTimeUs) =
        toTimescale t₀.timeScale (call.pts - last.pts) := by
      rw [h.timeScale, hprev]
      rfl
    have hround := add_half_div_eq_round
      ((call.bi.presentationTimeUs - t.lastPresentationTimeUs) * t.timeScale)
    have hsum := hdur hfirst
    rw [hround] at hsum
    have hticks : round ((((call.bi.presentationTimeUs - t.lastPresentationTimeUs) *
        t.timeScale : Int) : ℚ) / 1000000) = toTimescale t₀.timeScale (call.pts - last.pts) := by
      rw [← hgap, toTimescale]
      push_cast
      rfl
    rw [hticks] at hsum
    rw [hfirst, if_neg (by simp), if_neg (by simp), hgap, long_eq_self hsum, h.durations,
      insertIdx_before_last, gaps_concat _ hlast]
    refine ⟨rfl, ?_⟩
    rw [h.duration, h.durations]
    simp only [List.sum_append, List.sum_singleton]
    ring

/-- One call keeps the invariant, with the call added when it is accepted. -/
theorem records_addSample {t₀ : Track} {call : AddCall} (h : Records t₀ t taken)
    (hrange : AddInRange t call.bi) :
    Records t₀ (t.addSample call.offset call.bi) (accept taken call) := by
  have hdelta : long (call.bi.presentationTimeUs - t.lastPresentationTimeUs) =
      call.pts - lastTime taken := by
    rw [long_eq_self hrange.1, h.last]
    rfl
  cases hacc : t.accepts call.bi with
  | false =>
    have hlt : call.pts < lastTime taken := by
      simp only [Track.accepts, hdelta, Bool.not_eq_false', decide_eq_true_eq] at hacc
      omega
    rw [Track.addSample_of_refused hacc, accept, if_pos hlt]
    exact h
  | true =>
    have hge : ¬ call.pts < lastTime taken := by
      have := Track.not_lt_of_accepts hacc
      rw [hdelta] at this
      omega
    rw [accept, if_neg hge]
    obtain ⟨hdurations, hduration⟩ := durations_addSample h hacc hrange
    refine ⟨?_, ?_, ?_, ?_, ?_, hdurations, hduration, ?_⟩
    · simp [h.isAudio]
    · simp [h.timeScale]
    · rw [Track.addSample_samples hacc, h.samples]
      simp [AddCall.sample]
    · rw [Track.addSample_lastPresentationTimeUs hacc]
      simp [lastTime, AddCall.pts]
    · rw [Track.addSample_first hacc]
      simp
    · rw [Track.addSample_syncSamples hacc, h.sync, h.samples, h.isAudio, syncNumbers_concat]
      cases t₀.isAudio
      · cases hsync : call.bi.isSync <;> simp
      · rfl

/-- Any number of calls keeps the invariant. -/
theorem records_addSamples {t₀ : Track} (calls : List AddCall) :
    ∀ {t : Track} {taken : List AddCall}, Records t₀ t taken → NoOverflow t calls →
      Records t₀ (addSamples t calls) (calls.foldl accept taken) := by
  induction calls with
  | nil => intro t taken h _; exact h
  | cons call calls ih =>
    intro t taken h hrange
    exact ih (records_addSample h hrange.1) hrange.2

/-! ## The tables -/

/-- The pairs of a time-to-sample table. -/
def TimeToSampleEntry.pair (entry : TimeToSampleEntry) : Nat × Int := (entry.count, entry.delta)

theorem sttsStep_eq_push (entries : List TimeToSampleEntry) (delta : Int) :
    (sttsStep entries delta).map TimeToSampleEntry.pair =
      RunTable.push (entries.map TimeToSampleEntry.pair) delta := by
  unfold sttsStep RunTable.push
  rw [List.getLast?_map]
  cases entries.getLast? with
  | none => simp [TimeToSampleEntry.pair]
  | some last =>
    by_cases heq : last.delta = delta
    · simp [TimeToSampleEntry.pair, heq, List.map_dropLast]
    · simp [TimeToSampleEntry.pair, heq]

theorem blowup_eq_expand (entries : List TimeToSampleEntry) :
    blowupTimeToSamples entries = RunTable.expand (entries.map TimeToSampleEntry.pair) := by
  simp [blowupTimeToSamples, RunTable.expand, List.flatMap_map, TimeToSampleEntry.pair]

theorem blowup_foldl_sttsStep (durations : List Int) (entries : List TimeToSampleEntry) :
    blowupTimeToSamples (durations.foldl sttsStep entries) =
      blowupTimeToSamples entries ++ durations := by
  induction durations generalizing entries with
  | nil => simp
  | cons delta durations ih =>
    rw [List.foldl_cons, ih, blowup_eq_expand (sttsStep entries delta), sttsStep_eq_push,
      RunTable.expand_push, ← blowup_eq_expand]
    simp

/-- The `stts` table describes the durations of the track. -/
theorem blowup_createStts (t : Track) : blowupTimeToSamples (createStts t) = t.sampleDurations := by
  rw [createStts, blowup_foldl_sttsStep]
  rfl

/-- The numbers in the `stss` table are the sync numbers of the track. -/
theorem createStss_getD (t : Track) : (createStss t).getD [] = t.syncSamples.getD [] := by
  unfold createStss Track.getSyncSamples
  cases t.syncSamples with
  | none => rfl
  | some sync => cases sync <;> simp

theorem mem_syncNumbers {k : Nat} :
    k ∈ syncNumbers taken ↔ ∃ i a, k = i + 1 ∧ taken[i]? = some a ∧ a.bi.isSync = true := by
  unfold syncNumbers
  simp only [List.mem_map, List.mem_filter, Prod.exists, exists_eq_right]
  constructor
  · rintro ⟨a, hmem, hsync⟩
    obtain ⟨hle, hget⟩ := List.mk_mem_zipIdx_iff_le_and_getElem?_sub.mp hmem
    exact ⟨k - 1, a, by omega, hget, hsync⟩
  · rintro ⟨i, a, rfl, hget, hsync⟩
    exact ⟨a, List.mk_mem_zipIdx_iff_le_and_getElem?_sub.mpr ⟨by omega, by simpa using hget⟩, hsync⟩

theorem pairwise_syncNumbers (taken : List AddCall) : (syncNumbers taken).Pairwise (· < ·) := by
  have hsub : (syncNumbers taken).Sublist ((taken.zipIdx 1).map Prod.snd) :=
    List.Sublist.map _ List.filter_sublist
  refine List.Pairwise.sublist hsub ?_
  rw [List.zipIdx_map_snd]
  exact List.pairwise_lt_range'

/-- **The time tables.**  After any calls on a new track, with at least one
accepted and no 64-bit overflow: the `stts` table has one duration for each
accepted sample, each but the last is the rounded distance to the next one,
and they add up to the duration of the track.  The `stss` numbers increase,
lie in `1..n`, and are the accepted samples with the sync flag on a video
track. -/
theorem timeTables_of_accepted {id : Nat} {format : MediaFormat} {audio : Bool}
    {h264_sps : Option ByteBuffer} {t₀ : Track}
    (hnew : newTrack id format audio h264_sps = .ok t₀)
    (calls : List AddCall) (hrange : NoOverflow t₀ calls) (hne : accepted calls ≠ []) :
    (blowupTimeToSamples (createStts (addSamples t₀ calls))).length = (accepted calls).length ∧
    (∀ i a b, (accepted calls)[i]? = some a → (accepted calls)[i + 1]? = some b →
      (blowupTimeToSamples (createStts (addSamples t₀ calls)))[i]? =
        some (toTimescale t₀.timeScale (b.pts - a.pts))) ∧
    (blowupTimeToSamples (createStts (addSamples t₀ calls))).sum =
      (addSamples t₀ calls).duration ∧
    ((createStss (addSamples t₀ calls)).getD []).Pairwise (· < ·) ∧
    (∀ k ∈ (createStss (addSamples t₀ calls)).getD [], 1 ≤ k ∧ k ≤ (accepted calls).length) ∧
    (∀ i a, (accepted calls)[i]? = some a →
      (i + 1 ∈ (createStss (addSamples t₀ calls)).getD [] ↔
        a.bi.isSync = true ∧ audio = false)) := by
  obtain ⟨hfresh, haudio⟩ := fresh_newTrack hnew
  have hrec : Records t₀ (addSamples t₀ calls) (accepted calls) :=
    records_addSamples calls ⟨rfl, rfl, hfresh.samples, hfresh.last, hfresh.first, hfresh.durations,
      by simp [hfresh.durations], hfresh.sync⟩ hrange
  have hlen : 0 < (accepted calls).length := List.length_pos_of_ne_nil hne
  have hglen : (gaps t₀.timeScale (accepted calls)).length = (accepted calls).length - 1 := by
    simp [gaps]
  have hsync : (createStss (addSamples t₀ calls)).getD [] =
      if audio then [] else syncNumbers (accepted calls) := by
    rw [createStss_getD, hrec.sync, haudio]
    cases audio <;> rfl
  have hmem : ∀ k ∈ syncNumbers (accepted calls), 1 ≤ k ∧ k ≤ (accepted calls).length := by
    intro k hk
    obtain ⟨i, a, rfl, hget, _⟩ := mem_syncNumbers.mp hk
    have := (List.getElem?_eq_some_iff.mp hget).1
    omega
  rw [blowup_createStts, hsync]
  refine ⟨?_, ?_, hrec.duration.symm, ?_, ?_, ?_⟩
  · rw [hrec.durations, List.length_append, hglen]
    simp only [List.length_singleton]
    omega
  · intro i a b ha hb
    have hi : i < (gaps t₀.timeScale (accepted calls)).length := by
      have := (List.getElem?_eq_some_iff.mp hb).1
      omega
    rw [hrec.durations, List.getElem?_append_left hi]
    simp [gaps, List.getElem?_zipWith, ha, hb]
  · cases audio
    · exact pairwise_syncNumbers _
    · exact List.Pairwise.nil
  · cases audio
    · exact hmem
    · simp
  · intro i a ha
    cases audio
    · simp [mem_syncNumbers, ha]
    · simp

/-- Three calls on a new audio track, the second of them going back in time:
two samples are left, the first of them with the duration of 23 ms. -/
theorem timeTables_of_accepted_audio :
    ∃ t₀, newTrack 0 ⟨"audio/mp4a-latm", 0, 0, 1, 44100⟩ true none = .ok t₀ ∧
      (blowupTimeToSamples (createStts (addSamples t₀
        [⟨40, ⟨0, 10, 1000, 0⟩⟩, ⟨50, ⟨0, 10, 500, 0⟩⟩, ⟨60, ⟨0, 10, 24000, 0⟩⟩]))).length = 2 := by
  have hnew : newTrack 0 ⟨"audio/mp4a-latm", 0, 0, 1, 44100⟩ true none = .ok _ := rfl
  refine ⟨_, hnew, (timeTables_of_accepted hnew _ ?_ (by decide)).1⟩
  simp only [NoOverflow, AddInRange, InLong]
  decide

end MediasoupDemo.Mp4
