import MediasoupDemo.Flv.Publishing

/-!
# The tag queue of one session

Audio and video are encoded by threads of their own, and each of them adds its
frames to the queue that the worker polls.  `TagQueue` puts any number of
encoder threads beside the worker of `Publishing`; an event is a step of one of
them, or a message of the server, so every interleaving is a run.

Three lists that are no fields of the muxer record the run: the frames `added`
to the queue, those that the worker has `polled`, and those `handed` to the
publisher.

* `kept` says which frames should get through, by their position among all:
  the sequence headers, and the frames behind a sequence header of their kind.
* `Stage` says where the worker is with the frame that it has polled last, and
  `Ordered` is the invariant: the queue is what was added and not polled, and
  what was handed over are the kept ones of the frames polled and done.
-/

namespace MediasoupDemo.Flv

open Interleave

/-- The frames so far hold a sequence header of the stream. -/
def headerIn (type : FlvTag) (frames : List SrsFlvFrame) : Bool :=
  frames.any fun frame => frame.isSequenceHeader && frame.type == type

/-- The frames that should reach the publisher: every one but those that are no
sequence header and have none of their stream before them. -/
def kept (frames : List SrsFlvFrame) : List SrsFlvFrame :=
  (frames.zipIdx.filter fun entry =>
    entry.1.isSequenceHeader || headerIn entry.1.type (frames.take entry.2)).map Prod.fst

theorem headerIn_concat (type : FlvTag) (frames : List SrsFlvFrame) (frame : SrsFlvFrame) :
    headerIn type (frames ++ [frame]) =
      (headerIn type frames || (frame.isSequenceHeader && frame.type == type)) := by
  simp [headerIn]

theorem kept_concat (frames : List SrsFlvFrame) (frame : SrsFlvFrame) :
    kept (frames ++ [frame]) =
      kept frames ++
        if frame.isSequenceHeader || headerIn frame.type frames then [frame] else [] := by
  have hfront : frames.zipIdx.filter (fun entry => entry.1.isSequenceHeader ||
      headerIn entry.1.type ((frames ++ [frame]).take entry.2)) =
      frames.zipIdx.filter (fun entry => entry.1.isSequenceHeader ||
        headerIn entry.1.type (frames.take entry.2)) := by
    apply List.filter_congr
    intro entry hmem
    have hlt := (List.mem_zipIdx hmem).2.1
    rw [List.take_append_of_le_length (by omega)]
  unfold kept
  rw [List.zipIdx_append, List.filter_append, List.map_append, hfront]
  congr 1
  cases hkept : frame.isSequenceHeader || headerIn frame.type frames with
  | true => simp [hkept]
  | false => simp [hkept]

/-! ## The threads -/

/-- The messages of the server that reach the receiving thread. -/
inductive ServerMessage where
  | connected
  | streamCreated
  | permitted

/-- The event of a message for the receiving thread of a session. -/
def ServerMessage.event (session : Nat) : ServerMessage → Publishing.Event
  | .connected => .connected session
  | .streamCreated => .streamCreated session
  | .permitted => .permitted session

/-- The worker and the connection, the encoder threads and the record. -/
structure TagQueue (ι : Type) where
  publishing : Publishing
  encoders : ι → Enqueue
  added : List SrsFlvFrame := []
  polled : List SrsFlvFrame := []
  handed : List SrsFlvFrame := []

namespace TagQueue

variable {ι : Type} [DecidableEq ι]

/-- What can happen next. -/
inductive Event (ι : Type) where
  /-- the next step of the worker -/
  | worker (outcome : Bool)
  /-- an encoder thread calls `flvTagCacheAdd` -/
  | encode (thread : ι) (frame : SrsFlvFrame)
  /-- the next part of the call of an encoder thread -/
  | encoder (thread : ι)
  /-- a message of the server -/
  | server (session : Nat) (message : ServerMessage)

/-- The frame that the next step of the worker polls. -/
def polling (p : Publishing) : List SrsFlvFrame :=
  match p.worker with
  | .take :: _ => p.mFlvTagCache.take 1
  | _ => []

/-- The frame that the next step of the worker hands to the publisher. -/
def handing (p : Publishing) : List SrsFlvFrame :=
  match p.worker with
  | .publish frame :: _ => [frame]
  | _ => []

/-- The frame that the next step of an encoder thread adds. -/
def adding : Enqueue → List SrsFlvFrame
  | .tested frame => [frame]
  | _ => []

/-- A step of an encoder thread: one of `Publishing`, with this thread in the
place of its encoder. -/
def encoderStep (s : TagQueue ι) (thread : ι) (event : Publishing.Event) :
    Option (TagQueue ι) :=
  (Publishing.step { s.publishing with encoder := s.encoders thread } event).map fun p =>
    { s with publishing := p, encoders := Function.update s.encoders thread p.encoder }

/-- One event; `none` if it cannot happen now. -/
def step (s : TagQueue ι) : Event ι → Option (TagQueue ι)
  | .worker outcome =>
      (s.publishing.step (.worker outcome)).map fun p =>
        { s with
          publishing := p
          polled := s.polled ++ polling s.publishing
          handed := s.handed ++ handing s.publishing }
  | .encode thread frame => s.encoderStep thread (.encode frame)
  | .encoder thread =>
      (s.encoderStep thread .encoder).map fun s' =>
        { s' with added := s.added ++ adding (s.encoders thread) }
  | .server session message =>
      (s.publishing.step (message.event session)).map fun p => { s with publishing := p }

/-- The frame that the worker has polled and not handed over yet, if it is going
to. -/
def inHand (p : Publishing) : List SrsFlvFrame :=
  match p.worker with
  | .handle frame :: _ => if frame.isSequenceHeader || p.hasHeader frame.type then [frame] else []
  | .storeHeader frame :: _ => [frame]
  | .publish frame :: _ => [frame]
  | _ => []

/-! ## The invariant -/

/-- The stored headers are those of these frames. -/
def Headers (p : Publishing) (frames : List SrsFlvFrame) : Prop :=
  ∀ type, p.hasHeader type = headerIn type frames

/-- The programs of the worker without a frame in hand. -/
def Idle (worker : List ThreadStep) : Prop :=
  worker = [] ∨ worker = [.loop] ∨ worker = [.poll] ∨ worker = [.take, .poll] ∨
    worker = [.send, .poll] ∨ worker = [.send, .countDown, .poll] ∨ worker = [.countDown, .poll]

/-- Where the worker is with the frames that it has polled. -/
inductive Stage (p : Publishing) : (polled handed : List SrsFlvFrame) → Prop
  | idle {polled : List SrsFlvFrame} (hworker : Idle p.worker) (headers : Headers p polled) :
      Stage p polled (kept polled)
  | handle {done : List SrsFlvFrame} {frame : SrsFlvFrame}
      (hworker : p.worker = [.handle frame, .poll]) (headers : Headers p done) :
      Stage p (done ++ [frame]) (kept done)
  | storeHeader {done : List SrsFlvFrame} {frame : SrsFlvFrame}
      (hworker : p.worker = [.storeHeader frame, .publish frame, .poll])
      (headers : Headers p done) (hframe : frame.isSequenceHeader = true) :
      Stage p (done ++ [frame]) (kept done)
  | publish {done : List SrsFlvFrame} {frame : SrsFlvFrame}
      (hworker : p.worker = [.publish frame, .poll]) (headers : Headers p (done ++ [frame]))
      (hframe : kept (done ++ [frame]) = kept done ++ [frame]) :
      Stage p (done ++ [frame]) (kept done)

/-- The order of the frames is kept from the encoders to the publisher. -/
structure Ordered (s : TagQueue ι) : Prop where
  fifo : s.added = s.polled ++ s.publishing.mFlvTagCache
  stage : Stage s.publishing s.polled s.handed

variable {p p' : Publishing}

theorem step_worker {outcome : Bool} {first : ThreadStep}
    {rest : List ThreadStep} (hworker : p.worker = first :: rest)
    (h : p.step (.worker outcome) = some p') :
    p' = { (p.exec p.session outcome first).1 with
      worker := Publishing.after (p.exec p.session outcome first).2 rest } := by
  rw [Publishing.step, hworker] at h
  exact (Option.some.inj h).symm

variable {polled handed : List SrsFlvFrame}

section Worker

variable {p p' : Publishing} {outcome : Bool} {done : List SrsFlvFrame}

/-- A step between frames: the queue and the headers stay. -/
theorem stage_of_same {q : Publishing} {worker : List ThreadStep} (headers : Headers p done)
    (hheaders : ∀ type, q.hasHeader type = p.hasHeader type) (hidle : Idle worker) :
    Stage { q with worker } done (kept done) := by
  refine .idle hidle fun type => ?_
  rw [← headers type, ← hheaders type]
  cases type <;> rfl

theorem stage_of_idle (hidle : Idle p.worker) (headers : Headers p done)
    (h : p.step (.worker outcome) = some p') :
    Stage p' (done ++ polling p) (kept done ++ handing p) ∧
      polling p ++ p'.mFlvTagCache = p.mFlvTagCache := by
  have hhanding : handing p = [] := by
    rcases hidle with hw | hw | hw | hw | hw | hw | hw <;> rw [handing, hw]
  rw [hhanding, List.append_nil]
  by_cases htake : p.worker = [.take, .poll]
  · -- The worker polls the first frame of the queue.
    rw [step_worker htake h, polling, htake]
    cases hqueue : p.mFlvTagCache with
    | nil =>
      simp only [Publishing.exec, hqueue, Publishing.after, List.take_nil, List.append_nil]
      exact ⟨stage_of_same (q := { p with mFlvTagCache := [] }) headers
        (fun type => by cases type <;> rfl) (.inl rfl), trivial⟩
    | cons frame rest =>
      simp only [Publishing.exec, hqueue, Publishing.after, List.take_succ_cons, List.take_zero]
      refine ⟨.handle rfl fun type => ?_, rfl⟩
      rw [← headers type]
      cases type <;> rfl
  · have hpolling : polling p = [] := by
      rcases hidle with hw | hw | hw | hw | hw | hw | hw <;> rw [polling, hw]
      exact absurd hw htake
    rw [hpolling, List.append_nil, List.nil_append]
    rcases hidle with hw | hw | hw | hw | hw | hw | hw
    · rw [Publishing.step, hw] at h
      cases h
    · rw [step_worker hw h, Publishing.exec]
      split
      · exact ⟨stage_of_same headers (fun type => by cases type <;> rfl) (.inl rfl), rfl⟩
      · exact ⟨stage_of_same headers (fun _ => rfl) (.inr (.inr (.inl rfl))), rfl⟩
    · rw [step_worker hw h, Publishing.exec]
      refine ⟨stage_of_same headers (fun _ => rfl) ?_, rfl⟩
      split
      · exact .inr (.inl rfl)
      · exact .inr (.inr (.inr (.inl rfl)))
    · exact absurd hw htake
    · rw [step_worker hw h, Publishing.exec]
      split
      · exact ⟨stage_of_same headers (fun _ => rfl) (.inr (.inr (.inl rfl))), rfl⟩
      · exact ⟨stage_of_same headers (fun _ => rfl) (.inl rfl), rfl⟩
    · rw [step_worker hw h, Publishing.exec]
      split
      · exact ⟨stage_of_same headers (fun _ => rfl)
          (.inr (.inr (.inr (.inr (.inr (.inr rfl)))))), rfl⟩
      · exact ⟨stage_of_same headers (fun _ => rfl) (.inl rfl), rfl⟩
    · rw [step_worker hw h, Publishing.exec]
      exact ⟨stage_of_same headers (fun type => by cases type <;> rfl)
        (.inr (.inr (.inl rfl))), rfl⟩

theorem stage_worker (hstage : Stage p polled handed) (h : p.step (.worker outcome) = some p') :
    Stage p' (polled ++ polling p) (handed ++ handing p) ∧
      polling p ++ p'.mFlvTagCache = p.mFlvTagCache := by
  cases hstage with
  | idle hworker headers => exact stage_of_idle hworker headers h
  | @handle done frame hworker headers =>
    rw [step_worker hworker h, polling, handing, hworker, List.append_nil, List.append_nil,
      List.nil_append, Publishing.exec]
    by_cases hheader : frame.isSequenceHeader = true
    · rw [if_pos hheader]
      refine ⟨.storeHeader rfl (fun type => ?_) hheader, rfl⟩
      rw [← headers type]
      cases type <;> rfl
    · rw [if_neg hheader]
      have hsame : Headers p (done ++ [frame]) := by
        intro type
        rw [headers type, headerIn_concat, eq_false_of_ne_true hheader, Bool.false_and,
          Bool.or_false]
      have hkept := kept_concat done frame
      rw [eq_false_of_ne_true hheader, Bool.false_or, ← headers frame.type] at hkept
      split
      · rename_i hhas
        rw [if_pos hhas] at hkept
        refine ⟨.publish rfl (fun type => ?_) hkept, rfl⟩
        rw [← hsame type]
        cases type <;> rfl
      · rename_i hhas
        rw [if_neg hhas, List.append_nil] at hkept
        rw [← hkept]
        exact ⟨stage_of_same hsame (fun _ => rfl) (.inr (.inr (.inl rfl))), rfl⟩
  | @storeHeader done frame hworker headers hframe =>
    rw [step_worker hworker h, polling, handing, hworker, List.append_nil, List.append_nil,
      List.nil_append, Publishing.exec]
    have hkept := kept_concat done frame
    rw [hframe, Bool.true_or, if_pos rfl] at hkept
    cases htype : frame.type with
    | Video =>
      refine ⟨.publish rfl (fun type => ?_) hkept, rfl⟩
      have hold := headers type
      cases type <;> simp_all [headerIn_concat, Publishing.hasHeader]
    | Audio =>
      refine ⟨.publish rfl (fun type => ?_) hkept, rfl⟩
      have hold := headers type
      cases type <;> simp_all [headerIn_concat, Publishing.hasHeader]
  | @publish done frame hworker headers hframe =>
    rw [step_worker hworker h, polling, handing, hworker, List.append_nil, List.nil_append,
      Publishing.exec, ← hframe]
    split
    · refine ⟨stage_of_same headers (fun _ => rfl) ?_, rfl⟩
      dsimp only [Publishing.after]
      split
      · exact .inr (.inr (.inr (.inr (.inr (.inl rfl)))))
      · exact .inr (.inr (.inr (.inr (.inl rfl))))
    · exact ⟨stage_of_same headers (fun _ => rfl) (.inr (.inr (.inl rfl))), rfl⟩

end Worker

/-! ## The other threads -/

/-- What the worker has done depends on its program and the headers alone. -/
theorem Stage.congr {p q : Publishing}
    (hstage : Stage p polled handed) (hworker : q.worker = p.worker)
    (hheaders : ∀ type, q.hasHeader type = p.hasHeader type) : Stage q polled handed := by
  have hsame : ∀ {frames}, Headers p frames → Headers q frames :=
    fun headers type => (hheaders type).trans (headers type)
  cases hstage with
  | idle hidle headers => exact .idle (hworker ▸ hidle) (hsame headers)
  | handle hw headers => exact .handle (hworker.trans hw) (hsame headers)
  | storeHeader hw headers hframe => exact .storeHeader (hworker.trans hw) (hsame headers) hframe
  | publish hw headers hframe => exact .publish (hworker.trans hw) (hsame headers) hframe

theorem step_encode {frame : SrsFlvFrame} (h : p.step (.encode frame) = some p') :
    p'.worker = p.worker ∧ (∀ type, p'.hasHeader type = p.hasHeader type) ∧
      p'.mFlvTagCache = p.mFlvTagCache := by
  simp only [Publishing.step] at h
  split at h
  · obtain rfl := Option.some.inj h
    split
    · exact ⟨rfl, fun type => by cases type <;> rfl, rfl⟩
    · exact ⟨rfl, fun _ => rfl, rfl⟩
  · cases h

theorem step_encoder (h : p.step .encoder = some p') :
    p'.worker = p.worker ∧ (∀ type, p'.hasHeader type = p.hasHeader type) ∧
      p'.mFlvTagCache = p.mFlvTagCache ++ adding p.encoder := by
  cases hencoder : p.encoder with
  | idle =>
    rw [Publishing.step, hencoder] at h
    cases h
  | tested frame =>
    rw [Publishing.step, hencoder] at h
    obtain rfl := Option.some.inj h
    exact ⟨rfl, fun type => by cases type <;> rfl, rfl⟩
  | added frame =>
    rw [Publishing.step, hencoder] at h
    obtain rfl := Option.some.inj h
    simp only [adding, List.append_nil]
    split
    · exact ⟨rfl, fun type => by cases type <;> rfl, rfl⟩
    · exact ⟨rfl, fun type => by cases type <;> rfl, rfl⟩

theorem step_server {session : Nat} {message : ServerMessage}
    (h : p.step (message.event session) = some p') :
    ∃ connection, p' = { p with connection } := by
  cases message <;>
  · simp only [ServerMessage.event, Publishing.step] at h
    split at h
    · exact ⟨_, (Option.some.inj h).symm⟩
    · cases h

theorem Ordered.step {s s' : TagQueue ι} {event : Event ι} (hs : s.Ordered)
    (h : s.step event = some s') : s'.Ordered := by
  cases event with
  | worker outcome =>
    obtain ⟨p', hp', rfl⟩ := Option.map_eq_some_iff.1 h
    obtain ⟨hstage, hqueue⟩ := stage_worker hs.stage hp'
    refine ⟨?_, hstage⟩
    show s.added = (s.polled ++ polling s.publishing) ++ p'.mFlvTagCache
    rw [List.append_assoc, hqueue, hs.fifo]
  | encode thread frame =>
    obtain ⟨p', hp', rfl⟩ := Option.map_eq_some_iff.1 h
    obtain ⟨hworker, hheaders, hqueue⟩ := step_encode hp'
    refine ⟨?_, hs.stage.congr hworker fun type => (hheaders type).trans (by cases type <;> rfl)⟩
    show s.added = s.polled ++ p'.mFlvTagCache
    rw [hqueue, hs.fifo]
  | encoder thread =>
    obtain ⟨s₁, hs₁, rfl⟩ := Option.map_eq_some_iff.1 h
    obtain ⟨p', hp', rfl⟩ := Option.map_eq_some_iff.1 hs₁
    obtain ⟨hworker, hheaders, hqueue⟩ := step_encoder hp'
    refine ⟨?_, hs.stage.congr hworker fun type => (hheaders type).trans (by cases type <;> rfl)⟩
    show s.added ++ adding (s.encoders thread) = s.polled ++ p'.mFlvTagCache
    rw [hqueue, hs.fifo, List.append_assoc]
  | server session message =>
    obtain ⟨p', hp', rfl⟩ := Option.map_eq_some_iff.1 h
    obtain ⟨connection, rfl⟩ := step_server hp'
    exact ⟨hs.fifo, hs.stage.congr rfl fun type => by cases type <;> rfl⟩

omit [DecidableEq ι] in
/-- The worker is in its loop, and nothing has been queued or stored. -/
theorem ordered_start (p : Publishing) (encoders : ι → Enqueue) (hworker : p.worker = [.loop])
    (hqueue : p.mFlvTagCache = []) (hheaders : ∀ type, p.hasHeader type = false) :
    Ordered { publishing := p, encoders } where
  fifo := by rw [hqueue]; rfl
  stage := .idle (hworker ▸ .inr (.inl rfl)) hheaders

/-- What was handed over, and the frame in hand, are the kept ones. -/
theorem Stage.kept_eq {p : Publishing}
    (hstage : Stage p polled handed) : handed ++ inHand p = kept polled := by
  cases hstage with
  | idle hidle headers =>
    have hnone : inHand p = [] := by
      rcases hidle with hw | hw | hw | hw | hw | hw | hw <;> rw [inHand, hw]
    rw [hnone, List.append_nil]
  | handle hw headers => rw [inHand, hw, kept_concat, ← headers]
  | storeHeader hw headers hframe =>
    rw [inHand, hw, kept_concat, hframe, Bool.true_or, if_pos rfl]
  | publish hw headers hframe => rw [inHand, hw, hframe]

/-- In every interleaving of the encoder threads and the worker, from a worker
that starts its loop with an empty queue and without headers: the frames are
polled in the order in which they were added, each once, and those handed to the
publisher, with the one in hand, are the polled ones in that order, without the
frames that have no sequence header of their stream before them. -/
theorem handed_eq_kept (p : Publishing) (encoders : ι → Enqueue) (hworker : p.worker = [.loop])
    (hqueue : p.mFlvTagCache = []) (hheaders : ∀ type, p.hasHeader type = false)
    (events : List (Event ι)) (s : TagQueue ι)
    (hrun : Interleave.run step { publishing := p, encoders } events = some s) :
    s.added = s.polled ++ s.publishing.mFlvTagCache ∧
      s.handed ++ inHand s.publishing = kept s.polled := by
  have hs : s.Ordered :=
    run_invariant (fun _ _ _ hs h => hs.step h) events _ s
      (ordered_start p encoders hworker hqueue hheaders) hrun
  exact ⟨hs.fifo, hs.stage.kept_eq⟩

/-- A frame with one byte. -/
def tinyFrame (type : FlvTag) (avc_aac_type : AvcType) : SrsFlvFrame :=
  { flvTag := ⟨[0], 1⟩, avc_aac_type, frame_type := .KeyFrame, type, dts := 0 }

/-- The audio thread adds a raw frame between the two parts of the call with
which the video thread adds a sequence header; the worker polls both. -/
def audioFirst : List (Event FlvTag) :=
  [.encode .Video (tinyFrame .Video .SequenceHeader), .encode .Audio (tinyFrame .Audio .NALU),
    .encoder .Audio, .encoder .Video, .worker true, .worker true, .worker true, .worker true,
    .worker true, .worker true, .worker true, .worker true, .worker true]

/-- The worker drops the audio frame, and hands over the sequence header. -/
theorem handed_eq_kept_audioFirst :
    ∃ s : TagQueue FlvTag,
      Interleave.run step
        { publishing := { started := true, worker := [.loop] }, encoders := fun _ => .idle }
        audioFirst = some s ∧
      s.polled = [tinyFrame .Audio .NALU, tinyFrame .Video .SequenceHeader] ∧
      s.handed = [tinyFrame .Video .SequenceHeader] ∧
      s.added = s.polled ++ s.publishing.mFlvTagCache ∧
      s.handed ++ inHand s.publishing = kept s.polled :=
  ⟨_, rfl, rfl, rfl,
    handed_eq_kept { started := true, worker := [.loop] } (fun _ => .idle) rfl rfl
      (fun type => by cases type <;> rfl) audioFirst _ rfl⟩

end TagQueue

end MediasoupDemo.Flv
