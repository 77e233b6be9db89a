import MediasoupDemo.Room.Producing

/-!
# The format of the video capturer

`PeerConnectionUtils` remembers the size of the video that was last asked for, not the format of
its capturer.  `changeCaptureFormat` finds out from the old and the new size whether the format
is another one.  A size may also come while there is no capturer, and then it is only stored.

A camera and a screen take the format that they are asked for.  A file has pictures of its own
size, and `FileVideoCapturer` leaves `changeCaptureFormat` empty on purpose.
-/

namespace MediasoupDemo.Room

/-- A capture format.  The frame rate, which is 15 in every call, is left out. -/
structure CaptureFormat where
  width : Nat
  height : Nat
  deriving DecidableEq

/-- A video capturer, and the format in which it captures. -/
structure VideoCapturer where
  capturerType : VideoCapturerType
  format : CaptureFormat

/-- `startCapture` and `changeCaptureFormat` of a capturer. -/
def VideoCapturer.capture (capturer : VideoCapturer) (format : CaptureFormat) : VideoCapturer :=
  match capturer.capturerType with
  | .camera | .screen => { capturer with format }
  | .file => capturer

/-- The capturer of `PeerConnectionUtils` and the current size. -/
structure VideoCapture where
  mVideoCapturer : Option VideoCapturer := none
  curVideoSize : Int := 0

namespace VideoCapture

def VIDEO_SIZE_HIGH : Int := 2

def VIDEO_SIZE_MID : Int := 4

variable (capture : VideoCapture)

def releaseVideoCapturer : VideoCapture :=
  { capture with mVideoCapturer := none }

/-- `createVideoSource(context, capturerType)`, when the capturer can be created.  A file has the
format `own`. -/
def createVideoSource (capturerType : VideoCapturerType) (own : CaptureFormat) : VideoCapture :=
  { capture.releaseVideoCapturer with
    curVideoSize := VIDEO_SIZE_HIGH
    mVideoCapturer := some (VideoCapturer.capture ⟨capturerType, own⟩ ⟨640, 480⟩) }

/-- The capturer is asked for a format. -/
def switchTo (format : CaptureFormat) (videoSize : Int) : Bool × VideoCapture :=
  (true, ⟨capture.mVideoCapturer.map (·.capture format), videoSize⟩)

def changeCaptureFormat (videoSize : Int) : Bool × VideoCapture :=
  if capture.mVideoCapturer.isSome ∧ capture.curVideoSize ≠ videoSize then
    if videoSize ≤ VIDEO_SIZE_HIGH ∧ capture.curVideoSize > VIDEO_SIZE_HIGH then
      capture.switchTo ⟨640, 480⟩ videoSize
    else if videoSize > VIDEO_SIZE_HIGH ∧ videoSize ≤ VIDEO_SIZE_MID ∧
        (capture.curVideoSize ≤ VIDEO_SIZE_HIGH ∨ capture.curVideoSize > VIDEO_SIZE_MID) then
      capture.switchTo ⟨480, 360⟩ videoSize
    else if videoSize > VIDEO_SIZE_MID ∧ capture.curVideoSize ≤ VIDEO_SIZE_MID then
      capture.switchTo ⟨320, 240⟩ videoSize
    else (false, { capture with curVideoSize := videoSize })
  else (false, { capture with curVideoSize := videoSize })

inductive Call where
  | createVideoSource (capturerType : VideoCapturerType) (own : CaptureFormat)
  | releaseVideoCapturer
  | changeCaptureFormat (videoSize : Int)

/-- What a call leaves. -/
def step : Call → VideoCapture
  | .createVideoSource capturerType own => capture.createVideoSource capturerType own
  | .releaseVideoCapturer => capture.releaseVideoCapturer
  | .changeCaptureFormat videoSize => (capture.changeCaptureFormat videoSize).2

/-- The format that belongs to a video size. -/
def formatOf (videoSize : Int) : CaptureFormat :=
  if videoSize ≤ 2 then ⟨640, 480⟩ else if videoSize ≤ 4 then ⟨480, 360⟩ else ⟨320, 240⟩

/-- A capturer of a camera or a screen has the format of the current size. -/
def InFormat : Prop :=
  ∀ capturer ∈ capture.mVideoCapturer, capturer.capturerType ≠ .file →
    capturer.format = formatOf capture.curVideoSize

variable {capture : VideoCapture} {capturer : VideoCapturer}

theorem changeCaptureFormat_none (h : capture.mVideoCapturer = none) (videoSize : Int) :
    capture.changeCaptureFormat videoSize =
      (false, { capture with curVideoSize := videoSize }) := by
  simp [changeCaptureFormat, h]

/-- A capturer is asked for the format of the new size if that is another one. -/
theorem changeCaptureFormat_some (h : capture.mVideoCapturer = some capturer) (videoSize : Int) :
    capture.changeCaptureFormat videoSize =
      if formatOf capture.curVideoSize = formatOf videoSize then
        (false, ⟨some capturer, videoSize⟩)
      else (true, ⟨some (capturer.capture (formatOf videoSize)), videoSize⟩) := by
  unfold changeCaptureFormat switchTo formatOf VIDEO_SIZE_HIGH VIDEO_SIZE_MID
  rw [h]
  -- Two sizes that exist together reach the branch of the class of the new one, or none.
  split_ifs <;> grind

/-- A capturer that is not one of a file and has the format of the current size gets that of the
new size. -/
theorem changeCaptureFormat_of_ne (h : capture.mVideoCapturer = some capturer)
    (hfile : capturer.capturerType ≠ .file)
    (hformat : capturer.format = formatOf capture.curVideoSize) (videoSize : Int) :
    capture.changeCaptureFormat videoSize =
      (decide (formatOf capture.curVideoSize ≠ formatOf videoSize),
        ⟨some { capturer with format := formatOf videoSize }, videoSize⟩) := by
  rw [changeCaptureFormat_some h]
  obtain ⟨capturerType, format⟩ := capturer
  dsimp only at hformat
  subst hformat
  split_ifs with hsame
  · simp [hsame]
  · cases capturerType with
    | camera | screen => simp [hsame, VideoCapturer.capture]
    | file => exact absurd rfl hfile

theorem InFormat.step (h : capture.InFormat) (call : Call) : (capture.step call).InFormat := by
  cases call with
  | createVideoSource capturerType own =>
    intro capturer hcapturer hfile
    cases hcapturer
    cases capturerType with
    | camera | screen => rfl
    | file => exact absurd rfl hfile
  | releaseVideoCapturer =>
    intro capturer hcapturer
    cases hcapturer
  | changeCaptureFormat videoSize =>
    rw [VideoCapture.step]
    cases hcapturer : capture.mVideoCapturer with
    | none =>
      rw [changeCaptureFormat_none hcapturer]
      intro capturer hmem
      cases hcapturer.symm.trans hmem
    | some capturer =>
      by_cases hfile : capturer.capturerType = .file
      · have hkept : capturer.capture (formatOf videoSize) = capturer := by
          rw [VideoCapturer.capture, hfile]
        rw [changeCaptureFormat_some hcapturer, hkept]
        intro capturer' hmem hne
        split_ifs at hmem <;> cases hmem <;> exact absurd hfile hne
      · rw [changeCaptureFormat_of_ne hcapturer hfile (h capturer hcapturer hfile)]
        intro capturer' hmem _
        cases hmem
        rfl

end VideoCapture

end MediasoupDemo.Room
