import MediasoupDemo.Mp4.TimeTables

/-!
# Rounding drift of the decode times

`Track.addSample` converts the distance between two neighbouring samples to
ticks and rounds it.  A player adds the durations of the `stts` table up, so
the roundings of all samples before the current one are added up too.

* `distances` are the presentation time distances of the accepted samples.  The
  durations of the track are these, converted one by one, with or without overflow.
* `roundingError` is what one conversion adds, in millionths of a tick, and
  `drift` their sum: `decodeTime_eq_add_drift`.
* A conversion that leaves the 64-bit range is off by far more than a tick, so
  the bound of one tick rules it out: `ticks_lt_of_overflow`.

At 90000 ticks a second a distance of 33333 µs always rounds up by 0.03 ticks.
Thirty-four frames of a 30 fps recording make it more than one tick.
-/

namespace MediasoupDemo.Mp4

open MediasoupDemo.Runtime

/-- The presentation time distances between neighbouring calls. -/
def distances (taken : List AddCall) : List Int :=
  List.zipWith (fun a b => b.pts - a.pts) taken taken.tail

/-- Every call of the sequence is accepted by a fresh track: the times start at
zero or later and never go back. -/
def Advancing (calls : List AddCall) : Prop :=
  (0 :: calls.map AddCall.pts).IsChain (· ≤ ·) ∧ ∀ call ∈ calls, InLong call.pts

/-- The decode time that a player gives sample `i`: the sum of the durations
before it in the `stts` table. -/
def decodeTime (t : Track) (i : Nat) : Int :=
  ((blowupTimeToSamples (createStts t)).take i).sum

/-- A time in microseconds on a time scale, not rounded. -/
def exactTime (timeScale us : Int) : ℚ := (us * timeScale : ℚ) / 1000000

/-- What rounding one distance adds to it, in millionths of a tick. -/
def roundingError (timeScale delta : Int) : Int :=
  500000 - (delta * timeScale + 500000) % 1000000

/-- The rounding errors before sample `i`, added up. -/
def drift (timeScale : Int) (calls : List AddCall) (i : Nat) : Int :=
  (((distances calls).map (roundingError timeScale)).take i).sum

/-- The decode time of every sample is within one tick of its presentation
time, both counted from the first sample. -/
def WithinOneTick (t₀ : Track) (calls : List AddCall) : Prop :=
  ∀ start i call, calls[0]? = some start → calls[i]? = some call →
    |(decodeTime (addSamples t₀ calls) i : ℚ) -
      exactTime t₀.timeScale (call.pts - start.pts)| ≤ 1

/-! ## The conversion of one distance -/

variable {calls : List AddCall} {call : AddCall} {t : Track}

/-- In range, the code rounds to the nearest tick. -/
theorem ticks_mul_eq {delta : Int} (h0 : 0 ≤ delta) (hlt : delta * t.timeScale + 500000 < 2 ^ 63) :
    t.ticks delta * 1000000 = delta * t.timeScale + roundingError t.timeScale delta := by
  have hprod : 0 ≤ delta * t.timeScale := Int.mul_nonneg h0 (Int.le_of_lt t.timeScale_pos)
  rw [Track.ticks, long_eq_self (x := delta * t.timeScale) ⟨by omega, by omega⟩,
    long_eq_self ⟨by omega, hlt⟩, Int.tdiv_eq_ediv_of_nonneg (by omega), roundingError]
  omega

/-- Out of range, the sum wraps around at least once, and the result falls
short by far more than two ticks. -/
theorem ticks_lt_of_overflow {delta : Int} (hge : 2 ^ 63 ≤ delta * t.timeScale + 500000) :
    t.ticks delta * 1000000 < delta * t.timeScale - 2000000 := by
  have hwrap : long (long (delta * t.timeScale) + 500000) ≤
      delta * t.timeScale + 500000 - 2 ^ 64 := by
    unfold long
    rw [Int.bmod_add_bmod, Int.bmod]
    split <;> omega
  have hrem := Int.lt_tmod_of_pos (long (long (delta * t.timeScale) + 500000))
    (show (0 : Int) < 1000000 by omega)
  have hdiv := Int.mul_tdiv_add_tmod (long (long (delta * t.timeScale) + 500000)) 1000000
  rw [Track.ticks]
  omega

/-! ## The durations of a track, with or without overflow -/

theorem distances_concat {taken : List AddCall} {last : AddCall}
    (hlast : taken.getLast? = some last) (call : AddCall) :
    distances (taken ++ [call]) = distances taken ++ [call.pts - last.pts] :=
  zipWith_tail_concat _ hlast call

/-- After the accepted calls `taken` on the fresh track `t₀`, the durations of
`t` are the converted distances, followed by the seed. -/
structure RecordsDistances (t₀ t : Track) (taken : List AddCall) : Prop where
  timeScale : t.timeScale = t₀.timeScale
  last : t.lastPresentationTimeUs = lastTime taken
  first : t.first = taken.isEmpty
  durations : t.sampleDurations = (distances taken).map t₀.ticks ++ [t₀.duration]

theorem accepts_of_le (h0 : 0 ≤ t.lastPresentationTimeUs)
    (hle : t.lastPresentationTimeUs ≤ call.pts) (hpts : InLong call.pts) :
    long (call.bi.presentationTimeUs - t.lastPresentationTimeUs) =
        call.pts - t.lastPresentationTimeUs ∧
      t.accepts call.bi = true := by
  have hlong : long (call.bi.presentationTimeUs - t.lastPresentationTimeUs) =
      call.pts - t.lastPresentationTimeUs := by
    apply long_eq_self
    show InLong (call.pts - t.lastPresentationTimeUs)
    unfold InLong at *
    omega
  refine ⟨hlong, ?_⟩
  simp only [Track.accepts, hlong, Bool.not_eq_eq_eq_not, Bool.not_true, decide_eq_false_iff_not]
  omega

theorem recordsDistances_addSample {t₀ : Track} {taken : List AddCall}
    (h : RecordsDistances t₀ t taken) (h0 : 0 ≤ lastTime taken) (hle : lastTime taken ≤ call.pts)
    (hpts : InLong call.pts) :
    RecordsDistances t₀ (t.addSample call.offset call.bi) (taken ++ [call]) := by
  rw [← h.last] at h0 hle
  obtain ⟨hlong, hacc⟩ := accepts_of_le h0 hle hpts
  refine ⟨by simp [h.timeScale], ?_, by simp [Track.addSample_first hacc], ?_⟩
  · rw [Track.addSample_lastPresentationTimeUs hacc]
    simp [lastTime, AddCall.pts]
  · rw [Track.addSample_sampleDurations hacc, hlong, Track.ticks, h.timeScale, h.first]
    cases hlast : taken.getLast? with
    | none =>
      have hnil : taken = [] := by simpa using hlast
      subst hnil
      simpa [distances] using h.durations
    | some last =>
      have hne : taken.isEmpty = false := by
        simp only [List.isEmpty_eq_false_iff]
        intro hnil
        simp [hnil] at hlast
      have hprev : t.lastPresentationTimeUs = last.pts := by simp [h.last, lastTime, hlast]
      rw [hne, if_neg (by simp), h.durations, insertIdx_before_last, distances_concat hlast, hprev]
      simp [Track.ticks]

/-- Any number of calls that do not go back in time. -/
theorem recordsDistances_addSamples {t₀ : Track} (calls : List AddCall) :
    ∀ {t : Track} {taken : List AddCall}, RecordsDistances t₀ t taken → 0 ≤ lastTime taken →
      (lastTime taken :: calls.map AddCall.pts).IsChain (· ≤ ·) →
      (∀ call ∈ calls, InLong call.pts) →
      RecordsDistances t₀ (addSamples t calls) (taken ++ calls) := by
  induction calls with
  | nil =>
    intro t taken h _ _ _
    simpa [addSamples] using h
  | cons call calls ih =>
    intro t taken h h0 hchain hpts
    simp only [List.map_cons, List.isChain_cons_cons] at hchain
    have hstep := recordsDistances_addSample h h0 hchain.1 (hpts call (by simp))
    have hlast : lastTime (taken ++ [call]) = call.pts := by simp [lastTime]
    have hrun := ih hstep (by omega) (by rw [hlast]; exact hchain.2)
      (fun call hmem => hpts call (by simp [hmem]))
    simpa [addSamples] using hrun

/-- The durations in the `stts` table of a recording. -/
theorem blowup_createStts_addSamples {t₀ : Track} (hfresh : Fresh t₀) (hadv : Advancing calls) :
    blowupTimeToSamples (createStts (addSamples t₀ calls)) =
      (distances calls).map t₀.ticks ++ [t₀.duration] := by
  have hstart : RecordsDistances t₀ t₀ [] :=
    ⟨rfl, hfresh.last, hfresh.first, by simpa [distances] using hfresh.durations⟩
  have hrun := recordsDistances_addSamples calls hstart (by simp [lastTime])
    (by simpa [lastTime] using hadv.1) hadv.2
  rw [blowup_createStts, hrun.durations, List.nil_append]

/-! ## The decode time of a sample -/

theorem distances_length (calls : List AddCall) : (distances calls).length = calls.length - 1 := by
  simp [distances]

/-- The distances up to a sample add up to its distance from the first one. -/
theorem sum_take_distances {start : AddCall} (hstart : calls[0]? = some start) (i : Nat)
    (hcall : calls[i]? = some call) :
    ((distances calls).take i).sum = call.pts - start.pts := by
  induction i generalizing call with
  | zero =>
    rw [hstart] at hcall
    cases hcall
    simp
  | succ i ih =>
    obtain ⟨prev, hprev⟩ : ∃ prev, calls[i]? = some prev := by
      have := (List.getElem?_eq_some_iff.mp hcall).1
      exact ⟨calls[i], by simp⟩
    have hget : (distances calls)[i]? = some (call.pts - prev.pts) := by
      simp [distances, List.getElem?_zipWith, hprev, hcall]
    rw [List.take_add_one, hget, Option.toList_some, List.sum_append, ih hprev]
    simp

/-- An advancing recording has no negative distance. -/
theorem distances_nonneg {last : Int} (hchain : (last :: calls.map AddCall.pts).IsChain (· ≤ ·)) :
    ∀ delta ∈ distances calls, 0 ≤ delta := by
  induction calls generalizing last with
  | nil => simp [distances]
  | cons a calls ih =>
    cases calls with
    | nil => simp [distances]
    | cons b calls =>
      simp only [List.map_cons, List.isChain_cons_cons] at hchain
      obtain ⟨_, hab, hrest⟩ := hchain
      intro delta hmem
      simp only [distances, List.tail_cons, List.zipWith_cons_cons, List.mem_cons] at hmem
      rcases hmem with rfl | hmem
      · omega
      · have htail : (a.pts :: (b :: calls).map AddCall.pts).IsChain (· ≤ ·) := by
          simpa using ⟨hab, hrest⟩
        exact ih htail delta hmem

/-- In range, the converted distances are the distances and their errors. -/
theorem sum_take_ticks {deltas : List Int} (h0 : ∀ delta ∈ deltas, 0 ≤ delta)
    (hrange : ∀ delta ∈ deltas, delta * t.timeScale + 500000 < 2 ^ 63) (i : Nat) :
    ((deltas.map t.ticks).take i).sum * 1000000 =
      (deltas.take i).sum * t.timeScale +
        ((deltas.map (roundingError t.timeScale)).take i).sum := by
  induction deltas generalizing i with
  | nil => simp
  | cons delta deltas ih =>
    cases i with
    | zero => simp
    | succ i =>
      have hhead := ticks_mul_eq (h0 delta (by simp)) (hrange delta (by simp))
      have hrest := ih (fun d hd => h0 d (by simp [hd])) (fun d hd => hrange d (by simp [hd])) i
      simp only [List.map_cons, List.take_succ_cons, List.sum_cons, Int.add_mul]
      omega

section Recording

variable {t₀ : Track} {calls : List AddCall}

variable {i : Nat}

/-- The durations before a sample are the converted distances alone: the seed
belongs to the last sample. -/
theorem decodeTime_eq (hfresh : Fresh t₀) (hadv : Advancing calls) (hi : i < calls.length) :
    decodeTime (addSamples t₀ calls) i = (((distances calls).map t₀.ticks).take i).sum := by
  rw [decodeTime, blowup_createStts_addSamples hfresh hadv, List.take_append_of_le_length]
  simp only [List.length_map, distances_length]
  omega

/-- Two decode times in a row differ by one converted distance. -/
theorem decodeTime_succ (hfresh : Fresh t₀) (hadv : Advancing calls) {a b : AddCall}
    (ha : calls[i]? = some a) (hb : calls[i + 1]? = some b) :
    decodeTime (addSamples t₀ calls) (i + 1) =
      decodeTime (addSamples t₀ calls) i + t₀.ticks (b.pts - a.pts) := by
  have hlen := (List.getElem?_eq_some_iff.mp hb).1
  have hget : ((distances calls).map t₀.ticks)[i]? = some (t₀.ticks (b.pts - a.pts)) := by
    simp [distances, List.getElem?_zipWith, ha, hb]
  rw [decodeTime_eq hfresh hadv hlen, decodeTime_eq hfresh hadv (by omega), List.take_add_one,
    hget, Option.toList_some, List.sum_append]
  simp

/-- **Drift.**  While no conversion overflows, a decode time is off by the sum
of the rounding errors before it. -/
theorem decodeTime_eq_add_drift (hfresh : Fresh t₀) (hadv : Advancing calls)
    (hrange : ∀ delta ∈ distances calls, delta * t₀.timeScale + 500000 < 2 ^ 63) {start : AddCall}
    (hstart : calls[0]? = some start) (hcall : calls[i]? = some call) :
    (decodeTime (addSamples t₀ calls) i : ℚ) =
      exactTime t₀.timeScale (call.pts - start.pts) +
        (drift t₀.timeScale calls i : ℚ) / 1000000 := by
  have hsum := sum_take_ticks (distances_nonneg hadv.1) hrange i
  rw [← decodeTime_eq hfresh hadv (List.getElem?_eq_some_iff.mp hcall).1,
    sum_take_distances hstart i hcall] at hsum
  have hcast : (decodeTime (addSamples t₀ calls) i : ℚ) * 1000000 =
      (call.pts - start.pts) * t₀.timeScale + drift t₀.timeScale calls i := by
    exact_mod_cast hsum
  rw [exactTime]
  push_cast
  linarith

/-- The bound of one tick leaves no room for an overflow: both ends of the
distance are within one tick, and the wrapped conversion is off by more than
two. -/
theorem inRange_of_withinOneTick (hfresh : Fresh t₀) (hadv : Advancing calls)
    (h : WithinOneTick t₀ calls) :
    ∀ delta ∈ distances calls, delta * t₀.timeScale + 500000 < 2 ^ 63 := by
  intro delta hmem
  obtain ⟨i, hget⟩ := List.getElem?_of_mem hmem
  obtain ⟨a, b, ha, hb, rfl⟩ : ∃ a b, calls[i]? = some a ∧ calls[i + 1]? = some b ∧
      b.pts - a.pts = delta := by
    simpa [distances, List.getElem?_zipWith_eq_some] using hget
  obtain ⟨start, hstart⟩ : ∃ start, calls[0]? = some start := by
    have := (List.getElem?_eq_some_iff.mp ha).1
    exact ⟨calls[0], by simp⟩
  have hbefore := abs_le.mp (h start i a hstart ha)
  have hafter := abs_le.mp (h start (i + 1) b hstart hb)
  rw [decodeTime_succ hfresh hadv ha hb] at hafter
  by_contra hge
  have hge' : 2 ^ 63 ≤ (b.pts - a.pts) * t₀.timeScale + 500000 := by omega
  have hlt : (t₀.ticks (b.pts - a.pts) : ℚ) * 1000000 <
      (b.pts - a.pts) * t₀.timeScale - 2000000 := by
    exact_mod_cast ticks_lt_of_overflow hge'
  simp only [exactTime] at hbefore hafter
  push_cast at hbefore hafter
  linarith [hbefore.2, hafter.1]

/-- **Decode times within one tick.**  Exactly the recordings in which no
conversion overflows and the rounding errors before every sample add up to at
most one tick. -/
theorem withinOneTick_iff (hfresh : Fresh t₀) (hadv : Advancing calls) :
    WithinOneTick t₀ calls ↔
      (∀ delta ∈ distances calls, delta * t₀.timeScale + 500000 < 2 ^ 63) ∧
      ∀ i < calls.length, |drift t₀.timeScale calls i| ≤ 1000000 := by
  have hdiff : ∀ {start call i},
      (∀ delta ∈ distances calls, delta * t₀.timeScale + 500000 < 2 ^ 63) →
      calls[0]? = some start → calls[i]? = some call →
      ((decodeTime (addSamples t₀ calls) i : ℚ) -
        exactTime t₀.timeScale (call.pts - start.pts) =
          (drift t₀.timeScale calls i : ℚ) / 1000000) := by
    intro start call i hrange hstart hcall
    rw [decodeTime_eq_add_drift hfresh hadv hrange hstart hcall]
    ring
  have hscale : ∀ n : Int, |(n : ℚ) / 1000000| ≤ 1 ↔ |n| ≤ 1000000 := by
    intro n
    rw [abs_div, abs_of_pos (show (0 : ℚ) < 1000000 by norm_num), div_le_one (by norm_num)]
    exact_mod_cast Iff.rfl
  constructor
  · intro h
    have hrange := inRange_of_withinOneTick hfresh hadv h
    refine ⟨hrange, fun i hi => ?_⟩
    have hstart : calls[0]? = some calls[0] := by simp
    have hcall : calls[i]? = some calls[i] := by simp
    rw [← hscale, ← hdiff hrange hstart hcall]
    exact h _ _ _ hstart hcall
  · intro ⟨hrange, hdrift⟩ start i call hstart hcall
    rw [hdiff hrange hstart hcall, hscale]
    exact hdrift i (List.getElem?_eq_some_iff.mp hcall).1

/-- Three audio samples at 44100 Hz: the errors 0.4831 ticks of two distances
add up to less than one tick. -/
theorem withinOneTick_three_samples :
    ∃ t₀, newTrack 0 ⟨"audio/mp4a-latm", 0, 0, 1, 44100⟩ true none = .ok t₀ ∧
      WithinOneTick t₀
        [⟨0, ⟨0, 1, 0, 0⟩⟩, ⟨1, ⟨0, 1, 23209, 0⟩⟩, ⟨2, ⟨0, 1, 46418, 0⟩⟩] := by
  have hnew : newTrack 0 ⟨"audio/mp4a-latm", 0, 0, 1, 44100⟩ true none = .ok _ := rfl
  refine ⟨_, hnew, (withinOneTick_iff (fresh_newTrack hnew).1 ⟨by decide, ?_⟩).mpr ⟨?_, ?_⟩⟩
  · unfold InLong
    decide
  · decide
  · decide

/-- One rounding error is at most half a tick, so the drift is at most half a
tick for each sample before. -/
theorem abs_drift_le (timeScale : Int) (calls : List AddCall) (i : Nat) :
    |drift timeScale calls i| ≤ 500000 * i := by
  unfold drift
  generalize distances calls = deltas
  induction deltas generalizing i with
  | nil => simp
  | cons delta deltas ih =>
    cases i with
    | zero => simp
    | succ i =>
      have hrest := abs_le.mp (ih i)
      simp only [List.map_cons, List.take_succ_cons, List.sum_cons]
      rw [abs_le]
      simp only [roundingError] at hrest ⊢
      omega

/-- What does hold: a decode time is off by at most half a tick for each
sample before it. -/
theorem decodeTime_within_half_ticks (hfresh : Fresh t₀) (hadv : Advancing calls)
    (hrange : ∀ delta ∈ distances calls, delta * t₀.timeScale + 500000 < 2 ^ 63) {start : AddCall}
    (hstart : calls[0]? = some start) (hcall : calls[i]? = some call) :
    |(decodeTime (addSamples t₀ calls) i : ℚ) - exactTime t₀.timeScale (call.pts - start.pts)| ≤
      i / 2 := by
  have hdrift : |(drift t₀.timeScale calls i : ℚ)| ≤ 500000 * i := by
    exact_mod_cast abs_drift_le t₀.timeScale calls i
  rw [decodeTime_eq_add_drift hfresh hadv hrange hstart hcall, add_sub_cancel_left, abs_div,
    abs_of_pos (show (0 : ℚ) < 1000000 by norm_num), div_le_iff₀ (by norm_num)]
  linarith

/-- The second of two audio samples at 44100 Hz. -/
theorem decodeTime_second_sample :
    ∃ t₀, newTrack 0 ⟨"audio/mp4a-latm", 0, 0, 1, 44100⟩ true none = .ok t₀ ∧
      |(decodeTime (addSamples t₀ [⟨0, ⟨0, 1, 0, 0⟩⟩, ⟨1, ⟨0, 1, 23209, 0⟩⟩]) 1 : ℚ) -
        exactTime t₀.timeScale
          (AddCall.pts ⟨1, ⟨0, 1, 23209, 0⟩⟩ - AddCall.pts ⟨0, ⟨0, 1, 0, 0⟩⟩)| ≤ (1 : Nat) / 2 := by
  have hnew : newTrack 0 ⟨"audio/mp4a-latm", 0, 0, 1, 44100⟩ true none = .ok _ := rfl
  refine ⟨_, hnew, decodeTime_within_half_ticks (fresh_newTrack hnew).1 ⟨by decide, ?_⟩ (by decide)
    rfl rfl⟩
  unfold InLong
  decide

end Recording

/-! ## A recording that drifts -/

/-- The first `n` frames of a 30 fps video, with times in whole microseconds. -/
def framesAt30 (n : Nat) : List AddCall :=
  (List.range n).map fun k => ⟨0, ⟨0, 1, 33333 * k, 0⟩⟩

/-- Thirty-four distances of 33333 µs are 101998.98 ticks of a video track, and
its `stts` table says 102000. -/
theorem not_withinOneTick_framesAt30 :
    ∃ t₀, newTrack 0 ⟨VCODEC, 640, 480, 0, 0⟩ false
        (some (ByteBuffer.wrap [0x67, 0x42, 0x00, 0x1e])) = .ok t₀ ∧
      t₀.timeScale = 90000 ∧ Advancing (framesAt30 35) ∧ ¬ WithinOneTick t₀ (framesAt30 35) := by
  have hnew : newTrack 0 ⟨VCODEC, 640, 480, 0, 0⟩ false
      (some (ByteBuffer.wrap [0x67, 0x42, 0x00, 0x1e])) = .ok _ := rfl
  have hadv : Advancing (framesAt30 35) := by
    constructor
    · decide
    · unfold InLong
      decide
  refine ⟨_, hnew, rfl, hadv, fun h => ?_⟩
  have hbound := h ⟨0, ⟨0, 1, 0, 0⟩⟩ 34 ⟨0, ⟨0, 1, 1133322, 0⟩⟩ rfl rfl
  have hdecode := decodeTime_eq (fresh_newTrack hnew).1 hadv (show 34 < 35 by omega)
  rw [hdecode] at hbound
  change |((102000 : Int) : ℚ) - _| ≤ 1 at hbound
  rw [abs_le] at hbound
  norm_num [exactTime, AddCall.pts] at hbound

end MediasoupDemo.Mp4
