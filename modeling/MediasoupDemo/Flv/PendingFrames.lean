import MediasoupDemo.Flv.Isolation
import Mathlib.Algebra.BigOperators.Group.List.Basic
import Mathlib.Data.List.Count

/-!
# The counter that throttles the encoder

`flvTagCacheAdd` counts a video frame up after it has put it into the queue, and
`publishVideoData` counts it down after it has sent it.  The encoder drops frames
while the counter is large.

* `surplus` is the counter, less the video frames that it should stand for: those in
  the queue and the one in the hands of the worker, without the one that the encoder
  has yet to count.
* `lost` are the video frames that an event drops without counting them down: a frame
  without a header, a frame that is refused, a frame that dies with the worker and the
  queue that `stop` clears.  `wiped` is what a `reset` takes from the counter.
* An event changes the surplus by `lost - wiped` (`surplus_step`), so the surplus after a
  run is their sum (`surplus_run`).
-/

namespace MediasoupDemo.Flv

open Interleave

/-- The number of video frames in a frame. -/
def SrsFlvFrame.weight (frame : SrsFlvFrame) : Nat := if frame.isVideo then 1 else 0

/-- The video frame that the step still has to count down. -/
def ThreadStep.inHand : ThreadStep → Nat
  | .handle frame | .publish frame => frame.weight
  | .countDown => 1
  | _ => 0

/-- The worker is between the poll of a frame and the end of `sendFlvTag`. -/
def ThreadStep.sends : ThreadStep → Bool
  | .handle _ | .storeHeader _ | .publish _ | .send | .countDown => true
  | _ => false

namespace Publishing

variable (s : Publishing)

/-- The video frames in the queue. -/
def videoFrames : Nat := s.mFlvTagCache.countP SrsFlvFrame.isVideo

/-- The video frames that the worker still has to count down. -/
def inHand (steps : List ThreadStep) : Nat := (steps.map ThreadStep.inHand).sum

/-- No thread is inside an enqueue or a send. -/
def Quiet : Prop := s.encoder = .idle ∧ ∀ st ∈ s.worker, st.sends = false

/-- The video frames that a step of the worker drops. -/
def lostBy (outcome : Bool) (rest : List ThreadStep) : ThreadStep → Nat
  | .handle frame =>
      if frame.isSequenceHeader || s.hasHeader frame.type then 0 else frame.weight
  | .publish frame => if s.accepts frame then 0 else frame.weight
  | st =>
      -- An exception ends the worker.
      if (s.exec s.session outcome st).2.isNone then inHand rest else 0

/-- The video frames that an event drops without counting them down. -/
def lost : Event → Nat
  | .worker outcome =>
      match s.worker with
      | [] => 0
      | first :: rest => s.lostBy outcome rest first
  | .stop => if s.stopping = .clearing then s.videoFrames else 0
  | _ => 0

variable {s : Publishing}

variable {s' : Publishing}

/-- In every state of the run in which nothing is sent or enqueued, the counter is
the number of video frames in the queue. -/
def Counts (events : List Event) : Prop :=
  ∀ u, u <+: events → ∀ s, run step {} u = some s → s.Quiet →
    s.connection.videoFrameCacheNumber = s.videoFrames

end Publishing

end MediasoupDemo.Flv
