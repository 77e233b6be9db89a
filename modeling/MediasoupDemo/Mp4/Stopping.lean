import MediasoupDemo.Mp4.Threads

/-!
# `stop()` and the worker

`stop` clears `bRecording`, waits until the worker has left its loop, and finishes the
file.  The worker sets `bRecording` itself, in its first statement.

* `Stopping` holds from the moment when `stop` has cleared the flag, if the worker has
  started before.  No step sets the flag again.
* `weight` bounds the steps that the threads have left.  Every step of a thread makes it
  smaller; a new call of `writeFrameByte` finds the flag cleared and returns.
-/

namespace MediasoupDemo.Mp4

/-- The steps that an encoder has left.  A frame in the queue counts for four steps. -/
def EncoderPc.weight : EncoderPc → Nat
  | .idle => 0
  | .testPaused _ => 8
  | .testGate _ => 7
  | .openGate _ => 6
  | .add _ _ => 5

/-- The steps that the worker has left with `bRecording` cleared and the queue empty. -/
def WorkerPc.weight : WorkerPc → Nat
  | .none | .start | .done => 0
  | .loop => 1
  | .wait | .take => 2
  | .test => 3
  | .write _ => 4

namespace RecordThreads

def Event.isCall : Event → Bool
  | .record | .pause | .resume | .stop => true
  | _ => false

/-- A thread goes on with its work. -/
def Event.works : Event → Bool
  | .control | .worker _ | .encoder _ => true
  | _ => false

/-- No step of any thread sets the flag before the next call. -/
def StaysClear (s : RecordThreads) : Prop :=
  ∀ w s', (∀ e ∈ w, e.isCall = false) → Interleave.run step s w = some s' → s'.bRecording = false

/-- The threads have a bounded number of steps left before the next call.  They are never
stuck before the current call has returned, and then the worker is gone. -/
def Finishes (s : RecordThreads) : Prop :=
  ∃ bound, ∀ w s', (∀ e ∈ w, e.isCall = false) → Interleave.run step s w = some s' →
    (w.filter Event.works).length ≤ bound ∧
      if s'.control = [] then s'.worker = .none else ∃ e, e.works = true ∧ (step s' e).isSome = true

/-! ## The steps that are left -/

/-- The steps that the threads have left at most. -/
def weight (s : RecordThreads) : Nat :=
  4 * s.frameCache.length + (s.encoder .VIDEO_TRACK).weight + (s.encoder .AUDIO_TRACK).weight +
    s.worker.weight + s.control.length

/-- `stop` has cleared the flag, and the worker has set it before. -/
structure Stopping (s : RecordThreads) : Prop where
  bRecording : s.bRecording = false
  worker : s.worker ≠ .start
  join : .join ∈ s.control ∨ s.worker = .none

theorem weight_setEncoder (s : RecordThreads) (track : TrackIndex) (pc : EncoderPc) :
    (s.setEncoder track pc).weight + (s.encoder track).weight = s.weight + pc.weight := by
  cases track <;> simp [weight, setEncoder] <;> omega

namespace Stopping

variable {s s' : RecordThreads}

theorem controlStep (h : Stopping s) {c : ControlStep} {rest : List ControlStep}
    (hcontrol : s.control = c :: rest)
    (hstep : controlStep { s with control := rest } c = some s') :
    Stopping s' ∧ s'.weight < s.weight := by
  have hweight : weight { s with control := rest } < s.weight := by
    simp only [weight, hcontrol, List.length_cons]
    omega
  have hjoin : c ≠ .join → .join ∈ rest ∨ s.worker = .none := by
    intro hne
    refine h.join.imp (fun hmem => ?_) id
    rw [hcontrol, List.mem_cons] at hmem
    exact hmem.resolve_left fun heq => hne heq.symm
  cases c with
  | testPause | testResume =>
    cases hstep
    rw [if_neg (by simp [h.bRecording])]
    exact ⟨⟨h.bRecording, h.worker, hjoin (by simp)⟩, hweight⟩
  | setPaused | clearPaused | armGate =>
    cases hstep
    exact ⟨⟨h.bRecording, h.worker, hjoin (by simp)⟩, hweight⟩
  | clearRecording =>
    cases hstep
    exact ⟨⟨rfl, h.worker, hjoin (by simp)⟩, hweight⟩
  | clear =>
    cases hcache : s.frameCache with
    | nil =>
      cases (controlStep_clear_nil (by exact hcache)).symm.trans hstep
      exact ⟨⟨h.bRecording, h.worker, hjoin (by simp)⟩, hweight⟩
    | cons q cache =>
      cases (controlStep_clear_cons (by exact hcache)).symm.trans hstep
      refine ⟨⟨h.bRecording, h.worker, ?_⟩, ?_⟩
      · show .join ∈ .clear :: rest ∨ _
        rw [← hcontrol]
        exact h.join
      · simp only [weight, hcache, hcontrol, List.length_cons]
        omega
  | join =>
    obtain ⟨-, rfl⟩ := controlStep_join_eq hstep
    refine ⟨⟨h.bRecording, by simp, .inr rfl⟩, ?_⟩
    simp only [weight, hcontrol, List.length_cons, WorkerPc.weight]
    omega

/-- The next step of the worker, which is not its last one. -/
theorem of_worker (h : Stopping s) (hnone : s.worker ≠ .none) (pc : WorkerPc) (hpc : pc ≠ .start) :
    Stopping { s with worker := pc } :=
  ⟨h.bRecording, hpc, .inl (h.join.resolve_right hnone)⟩

theorem workerStep (h : Stopping s) {outcome : Bool}
    (hstep : s.workerStep outcome s.worker = some s') : Stopping s' ∧ s'.weight < s.weight := by
  cases hworker : s.worker with
  | none | done =>
    rw [hworker] at hstep
    cases hstep
  | start => exact absurd hworker h.worker
  | loop =>
    rw [hworker] at hstep
    cases hstep
    rw [if_neg (by simp [h.bRecording])]
    refine ⟨h.of_worker (by simp [hworker]) _ (by simp), ?_⟩
    simp only [weight, hworker, WorkerPc.weight]
    omega
  | test =>
    rw [hworker] at hstep
    cases hstep
    refine ⟨h.of_worker (by simp [hworker]) _ (by split <;> simp), ?_⟩
    simp only [weight, hworker]
    split <;> simp only [WorkerPc.weight] <;> omega
  | take =>
    rw [hworker] at hstep
    cases hcache : s.frameCache with
    | nil =>
      cases (workerStep_take_nil hcache outcome).symm.trans hstep
      refine ⟨h.of_worker (by simp [hworker]) _ (by simp), ?_⟩
      simp only [weight, hworker, WorkerPc.weight]
      omega
    | cons q cache =>
      cases (workerStep_take_cons hcache outcome).symm.trans hstep
      have hnext := h.of_worker (by simp [hworker]) (.write q) (by simp)
      refine ⟨⟨hnext.1, hnext.2, hnext.3⟩, ?_⟩
      simp only [weight, hworker, hcache, WorkerPc.weight, List.length_cons]
      omega
  | write q =>
    rw [hworker] at hstep
    cases hstep
    have hnext := h.of_worker (by simp [hworker]) (if outcome then .test else .done)
      (by split <;> simp)
    refine ⟨⟨hnext.1, hnext.2, hnext.3⟩, ?_⟩
    simp only [weight, hworker]
    split <;> simp only [WorkerPc.weight] <;> omega
  | wait =>
    rw [hworker] at hstep
    cases hstep
    refine ⟨h.of_worker (by simp [hworker]) _ (by simp), ?_⟩
    simp only [weight, hworker, WorkerPc.weight]
    omega

theorem encoderStep (h : Stopping s) {track : TrackIndex}
    (hstep : s.encoderStep track (s.encoder track) = some s') :
    Stopping s' ∧ s'.weight < s.weight := by
  -- The encoder goes on to a lighter place.
  have hset (pc : EncoderPc) (hpc : pc.weight < (s.encoder track).weight) :
      (s.setEncoder track pc).weight < s.weight := by
    have := weight_setEncoder s track pc
    omega
  cases hpc : s.encoder track with
  | idle =>
    rw [hpc] at hstep
    cases hstep
  | testPaused q =>
    rw [hpc] at hstep hset
    cases hstep
    split
    · exact ⟨⟨h.1, h.2, h.3⟩, hset .idle (by simp [EncoderPc.weight])⟩
    · exact ⟨⟨h.1, h.2, h.3⟩, hset _ (by simp [EncoderPc.weight])⟩
  | testGate q =>
    rw [hpc] at hstep hset
    cases hstep
    refine ⟨⟨h.1, h.2, h.3⟩, hset _ ?_⟩
    split_ifs <;> simp [EncoderPc.weight]
  | openGate q =>
    rw [hpc] at hstep hset
    cases hstep
    exact ⟨⟨h.1, h.2, h.3⟩, hset (.add q false) (by simp [EncoderPc.weight])⟩
  | add q early =>
    rw [hpc] at hstep
    cases hstep
    refine ⟨⟨h.1, h.2, h.3⟩, ?_⟩
    have := weight_setEncoder s track .idle
    simp only [hpc, EncoderPc.weight, weight, setEncoder, note, List.length_append,
      List.length_singleton] at this ⊢
    omega

/-- One step.  Every step of a thread leaves less to do. -/
theorem step (h : Stopping s) {e : Event} (hcall : e.isCall = false) (hstep : step s e = some s') :
    Stopping s' ∧ s'.weight + (if e.works then 1 else 0) ≤ s.weight := by
  cases e with
  | record | pause | resume | stop => cases hcall
  | control =>
    obtain ⟨c, rest, hcontrol, hnext⟩ := step_control_eq hstep
    exact h.controlStep hcontrol hnext
  | worker outcome => exact h.workerStep hstep
  | encode frame =>
    obtain ⟨-, -, rfl⟩ := step_encode_eq hstep
    rw [if_neg (by simp [h.bRecording])]
    exact ⟨h, Nat.le_refl _⟩
  | encoder track => exact h.encoderStep hstep

/-- The rest of a call.  The number of the steps that were done is bounded. -/
theorem run (w : List Event) : ∀ {s : RecordThreads}, Stopping s → (∀ e ∈ w, e.isCall = false) →
    Interleave.run RecordThreads.step s w = some s' →
      Stopping s' ∧ s'.weight + (w.filter Event.works).length ≤ s.weight := by
  induction w with
  | nil =>
    intro s h _ hrun
    cases hrun
    exact ⟨h, Nat.le_refl _⟩
  | cons e w ih =>
    intro s h hcalls hrun
    obtain ⟨s₁, hstep, hrest⟩ := Interleave.run_cons_eq_some hrun
    obtain ⟨h₁, hle⟩ := h.step (hcalls e List.mem_cons_self) hstep
    obtain ⟨h', hle'⟩ := ih h₁ (fun e he => hcalls e (List.mem_cons_of_mem _ he)) hrest
    refine ⟨h', ?_⟩
    have hcount : ((e :: w).filter Event.works).length =
        (w.filter Event.works).length + if e.works then 1 else 0 := by
      rw [List.filter_cons]
      split <;> rfl
    omega

/-- Some thread can go on. -/
theorem exists_step (hne : s.control ≠ []) :
    ∃ e, e.works = true ∧ (RecordThreads.step s e).isSome = true := by
  cases hcontrol : s.control with
  | nil => exact absurd hcontrol hne
  | cons c rest =>
    by_cases hblocked : c = .join ∧ s.worker ≠ .none ∧ s.worker ≠ .done
    · obtain ⟨rfl, hnone, hdone⟩ := hblocked
      refine ⟨.worker true, rfl, ?_⟩
      show (s.workerStep true s.worker).isSome = true
      cases hworker : s.worker with
      | none => exact absurd hworker hnone
      | done => exact absurd hworker hdone
      | take =>
        simp only [RecordThreads.workerStep]
        split <;> rfl
      | start | loop | test | write q | wait => rfl
    · refine ⟨.control, rfl, ?_⟩
      simp only [RecordThreads.step, hcontrol]
      cases c with
      | join =>
        have hended : s.worker = .none ∨ s.worker = .done := by
          by_contra hrunning
          exact hblocked ⟨rfl, fun h => hrunning (.inl h), fun h => hrunning (.inr h)⟩
        simp [RecordThreads.controlStep, hended]
      | clear =>
        simp only [RecordThreads.controlStep]
        split <;> rfl
      | testPause | setPaused | testResume | clearRecording | clearPaused | armGate => rfl

theorem staysClear (h : Stopping s) : StaysClear s :=
  fun w _ hcalls hrun => (h.run w hcalls hrun).1.bRecording

theorem finishes (h : Stopping s) : Finishes s := by
  refine ⟨s.weight, fun w s' hcalls hrun => ?_⟩
  obtain ⟨h', hle⟩ := h.run w hcalls hrun
  refine ⟨by omega, ?_⟩
  split
  · rename_i hcontrol
    have hjoin := h'.join
    rw [hcontrol] at hjoin
    exact hjoin.resolve_left List.not_mem_nil
  · rename_i hcontrol
    exact exists_step hcontrol

end Stopping

/-! ## All states -/

/-- **The recording flag and `stop`.**  In any state of the threads, when `stop` clears
`bRecording`: the flag stays cleared, and `stop` joins the worker after a bounded number of
steps, if and only if the worker has executed its first statement. -/
theorem stop_iff {s s' : RecordThreads} (hstop : s.control = stopSteps)
    (hclear : step s .control = some s') : (StaysClear s' ∧ Finishes s') ↔ s.worker ≠ .start := by
  obtain ⟨c, rest, hcontrol, hnext⟩ := step_control_eq hclear
  rw [hstop] at hcontrol
  cases hcontrol
  cases hnext
  constructor
  · rintro ⟨hstays, -⟩ hstart
    have hset := hstays [.worker true] _ (by simp [Event.isCall]) (by
      rw [Interleave.run, step, show RecordThreads.worker _ = .start from hstart]
      rfl)
    cases hset
  · intro hworker
    have hstopping : Stopping { s with
        bRecording := false, video := s.video ++ [.stopped]
        control := [.clearPaused, .armGate, .clear, .join] } := ⟨rfl, hworker, .inl (by simp)⟩
    exact ⟨hstopping.staysClear, hstopping.finishes⟩

/-- The worker has started before `stop` is called. -/
theorem stop_started :
    ∃ s s', Interleave.run step {} [.record, .worker true, .stop] = some s ∧
      step s .control = some s' ∧ StaysClear s' ∧ Finishes s' := by
  let s : RecordThreads :=
    { bRecording := true, recording := 1, worker := .loop, control := stopSteps }
  exact ⟨s, _, rfl, rfl, (stop_iff (s := s) rfl rfl).mpr (by decide)⟩

/-- `stop` comes before the first statement of the worker.  The worker sets the flag again
and goes round its loop, and `stop` waits for it. -/
theorem not_stop_beforeWorker :
    ∃ s s' s'', Interleave.run step {} [.record, .stop] = some s ∧
      step s .control = some s' ∧ s'.bRecording = false ∧
      Interleave.run step s' [.worker true, .control, .control, .control] = some s'' ∧
      s''.bRecording = true ∧ s''.control = [.join] ∧ step s'' .control = none ∧
      Interleave.run step s'' [.worker true, .worker true, .worker true] = some s'' ∧
      ¬ StaysClear s' := by
  refine ⟨_, _, _, rfl, rfl, rfl, rfl, rfl, rfl, rfl, rfl, fun hstays => ?_⟩
  have hset := hstays [.worker true] _ (by simp [Event.isCall]) rfl
  cases hset

end RecordThreads

end MediasoupDemo.Mp4
