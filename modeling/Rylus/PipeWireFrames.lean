import Rylus.PipeWireRecorder

/-!
# Frames between the PipeWire callbacks and `capture`

The `process` callback stores a frame under one lock, `param_changed` writes
size and format under another, and `capture` takes whatever the shared state
holds.
-/

namespace Rylus

/-- A recorder with its stream.  `latest` is what the last accepted `process`
callback stored, `renegotiated` the last format that `param_changed` accepted
since, and `answered` how the last call of `capture` since then ended. -/
structure PipeWireStream where
  userData : StreamUserData
  shared : SharedFrameState
  recorder : PipeWireRecorder
  latest : Option FrameSnapshot
  renegotiated : Option VideoInfoRaw
  answered : Option CaptureOutcome
  panicked : Bool

/-- A callback, or a call of `capture` from its last look at the shared state
on. -/
inductive PipeWireStep where
  | stateChanged (terminal : Bool)
  | paramChanged (change : ParamChange)
  | process (buffer : Option (List BufferData))
  | capture

namespace PipeWireStream

def new : PipeWireStream where
  userData := .new
  shared := .new
  recorder := .new
  latest := none
  renegotiated := none
  answered := none
  panicked := false

def onStateChanged (stream : PipeWireStream) (terminal : Bool) :
    PipeWireStream :=
  if terminal then
    { stream with shared := { stream.shared with streamError := true } }
  else
    stream

def onParamChanged (stream : PipeWireStream) : ParamChange → PipeWireStream
  | .ignored => stream
  | .unparsable written =>
      { stream with userData := { stream.userData with format := written } }
  | .parsed format =>
      { stream with
        userData := ⟨format, true⟩
        shared := stream.shared.setFormat format
        renegotiated := some format }

def onProcess (stream : PipeWireStream)
    (buffer : Option (List BufferData)) : PipeWireStream :=
  match stream.userData.accept buffer with
  | some snapshot =>
      { stream with
        shared := stream.shared.store snapshot
        latest := some snapshot
        renegotiated := none
        answered := none }
  | none => stream

def onCapture (stream : PipeWireStream) : PipeWireStream :=
  let (outcome, recorder, shared) := stream.recorder.capture stream.shared
  { stream with
    shared := shared
    recorder := recorder
    answered :=
      if stream.shared.streamError then stream.answered else some outcome
    panicked := outcome = .panic }

def after (stream : PipeWireStream) : PipeWireStep → PipeWireStream
  | .stateChanged terminal => stream.onStateChanged terminal
  | .paramChanged change => stream.onParamChanged change
  | .process buffer => stream.onProcess buffer
  | .capture => stream.onCapture

/-- Nothing follows a panic. -/
def step (stream : PipeWireStream) (label : PipeWireStep) :
    Option PipeWireStream :=
  if stream.panicked then none else some (stream.after label)

/-- A call of `capture` on a stream that has not failed copies out what one
`process` callback stored, the last accepted one, does not panic, and ends as
the call before it if no frame was accepted in between. -/
def CapturesSnapshot (stream : PipeWireStream) : PipeWireStep → Prop
  | .capture => stream.shared.streamError = false →
      (stream.shared.newFrame = true →
        stream.latest =
          some (stream.recorder.takeFrame stream.shared).1.snapshot) ∧
      (stream.recorder.capture stream.shared).1 ≠ .panic ∧
      ∀ earlier ∈ stream.answered,
        (stream.recorder.capture stream.shared).1 = earlier
  | .stateChanged _ | .paramChanged _ | .process _ => True

/-- The format is that of the frame. -/
def Describes (format : VideoInfoRaw) (snapshot : FrameSnapshot) : Prop :=
  format.width.toNat = snapshot.width ∧
    format.height.toNat = snapshot.height ∧
      format.format = snapshot.videoFormat

/-- A frame is taken with its own format, and its chunk was long enough for
tight rows or had the stride for them. -/
def TakesOwnFormat (stream : PipeWireStream) : PipeWireStep → Prop
  | .capture => stream.shared.streamError = false →
      stream.shared.newFrame = true → ∀ snapshot ∈ stream.latest,
        (∀ format ∈ stream.renegotiated, Describes format snapshot) ∧
          ¬ snapshot.OverrunsRows
  | .stateChanged _ | .paramChanged _ | .process _ => True

/-- A frame with the size and format that the shared state has for it. -/
def relabel (snapshot : FrameSnapshot) : Option VideoInfoRaw → FrameSnapshot
  | none => snapshot
  | some format =>
      { snapshot with
        width := format.width.toNat
        height := format.height.toNat
        videoFormat := format.format }

/-- What holds before every step. -/
structure Tracked (stream : PipeWireStream) : Prop where
  accepted : ∀ snapshot ∈ stream.latest, snapshot.IsAccepted
  delivered : stream.shared.newFrame = true → stream.answered = none ∧
    ∃ snapshot ∈ stream.latest,
      stream.shared.snapshot = relabel snapshot stream.renegotiated
  settled : ∀ earlier ∈ stream.answered,
    stream.recorder.serve.1 = earlier
  calm : stream.panicked = false → stream.recorder.serve.1 ≠ .panic

variable {stream next : PipeWireStream}

@[simp]
theorem frame_relabel (snapshot : FrameSnapshot)
    (renegotiated : Option VideoInfoRaw) :
    (relabel snapshot renegotiated).frame = snapshot.frame := by
  cases renegotiated <;> rfl

@[simp]
theorem stride_relabel (snapshot : FrameSnapshot)
    (renegotiated : Option VideoInfoRaw) :
    (relabel snapshot renegotiated).stride = snapshot.stride := by
  cases renegotiated <;> rfl

theorem relabel_eq_self (snapshot : FrameSnapshot)
    (renegotiated : Option VideoInfoRaw) :
    relabel snapshot renegotiated = snapshot ↔
      ∀ format ∈ renegotiated, Describes format snapshot := by
  cases renegotiated with
  | none => simp [relabel]
  | some format =>
      obtain ⟨frame, width, height, stride, videoFormat⟩ := snapshot
      simp [relabel, Describes]

theorem capture_eq (stream : PipeWireStream)
    (working : stream.shared.streamError = false) :
    stream.recorder.capture stream.shared =
      ((stream.recorder.takeFrame stream.shared).1.serve.1,
        (stream.recorder.takeFrame stream.shared).1.serve.2,
        (stream.recorder.takeFrame stream.shared).2) := by
  simp [PipeWireRecorder.capture, working]

theorem tracked_new : new.Tracked where
  accepted := by
    intro snapshot none
    cases none
  delivered := by
    intro delivered
    cases delivered
  settled := by
    intro earlier none
    cases none
  calm := by
    intro _ panics
    cases panics

theorem Tracked.paramChanged (tracked : stream.Tracked)
    (change : ParamChange) : (stream.onParamChanged change).Tracked := by
  cases change with
  | ignored => exact tracked
  | unparsable written =>
      exact ⟨tracked.accepted, tracked.delivered, tracked.settled,
        tracked.calm⟩
  | parsed format =>
      refine ⟨tracked.accepted, ?_, tracked.settled, tracked.calm⟩
      intro delivered
      obtain ⟨unanswered, snapshot, isLatest, same⟩ :=
        tracked.delivered delivered
      refine ⟨unanswered, snapshot, isLatest, ?_⟩
      have frame : stream.shared.frame = snapshot.frame := by
        rw [← frame_relabel snapshot stream.renegotiated, ← same]
        rfl
      have stride : stream.shared.stride = snapshot.stride := by
        rw [← stride_relabel snapshot stream.renegotiated, ← same]
        rfl
      simp [onParamChanged, SharedFrameState.setFormat,
        SharedFrameState.snapshot, relabel, frame, stride]

theorem Tracked.process (tracked : stream.Tracked)
    (buffer : Option (List BufferData)) :
    (stream.onProcess buffer).Tracked := by
  unfold onProcess
  split
  · rename_i snapshot accepts
    constructor
    · rintro latest ⟨⟩
      exact StreamUserData.isAccepted accepts
    · intro _
      exact ⟨rfl, snapshot, rfl, rfl⟩
    · intro earlier none
      cases none
    · exact tracked.calm
  · exact tracked

theorem Tracked.capture (tracked : stream.Tracked)
    (alive : stream.panicked = false) : stream.onCapture.Tracked := by
  cases broken : stream.shared.streamError with
  | true =>
      have unchanged : stream.onCapture = stream := by
        obtain ⟨userData, shared, recorder, latest, renegotiated, answered,
          panicked⟩ := stream
        simp_all [onCapture, PipeWireRecorder.capture]
      rw [unchanged]
      exact tracked
  | false =>
      simp only [onCapture, capture_eq stream broken, broken]
      constructor
      · exact tracked.accepted
      · intro delivered
        rw [PipeWireRecorder.newFrame_takeFrame] at delivered
        cases delivered
      · rintro earlier ⟨⟩
        rw [PipeWireRecorder.serve_serve]
      · intro stillAlive
        rw [PipeWireRecorder.serve_serve]
        simpa using stillAlive

theorem Tracked.step (tracked : stream.Tracked) {label : PipeWireStep}
    (moved : stream.step label = some next) : next.Tracked := by
  unfold PipeWireStream.step at moved
  split at moved
  · cases moved
  · rename_i alive
    cases moved
    cases label with
    | stateChanged terminal =>
        simp only [after, onStateChanged]
        split
        · exact ⟨tracked.accepted, tracked.delivered, tracked.settled,
            tracked.calm⟩
        · exact tracked
    | paramChanged change => exact tracked.paramChanged change
    | process buffer => exact tracked.process buffer
    | capture => exact tracked.capture (Bool.eq_false_iff.mpr alive)

/-- A capture that takes a frame. -/
theorem Tracked.capturesSnapshot_delivered (tracked : stream.Tracked)
    (working : stream.shared.streamError = false)
    (delivered : stream.shared.newFrame = true) :
    stream.CapturesSnapshot .capture ↔ stream.TakesOwnFormat .capture := by
  obtain ⟨unanswered, snapshot, isLatest, same⟩ :=
    tracked.delivered delivered
  obtain ⟨taken, hasFrame⟩ :=
    stream.recorder.takeFrame_of_newFrame delivered
  have latest : stream.latest = some snapshot := isLatest
  have accepted := tracked.accepted snapshot isLatest
  simp only [CapturesSnapshot, TakesOwnFormat, working, delivered,
    capture_eq stream working, unanswered, latest, taken, same,
    true_implies, Option.mem_def, Option.some.injEq, forall_eq',
    reduceCtorEq, false_implies, implies_true, and_true]
  rw [eq_comm, relabel_eq_self]
  refine and_congr_right fun describes => not_congr ?_
  have own : (stream.recorder.takeFrame stream.shared).1.snapshot =
      snapshot := by
    rw [taken, same, relabel_eq_self]
    exact describes
  rw [← own] at accepted ⊢
  exact PipeWireRecorder.serve_eq_panic hasFrame accepted

theorem Tracked.capturesSnapshot_iff (tracked : stream.Tracked)
    {label : PipeWireStep} (moved : stream.step label = some next) :
    stream.CapturesSnapshot label ↔ stream.TakesOwnFormat label := by
  have alive : stream.panicked = false := by
    unfold PipeWireStream.step at moved
    split at moved
    · cases moved
    · rename_i alive
      exact Bool.eq_false_iff.mpr alive
  cases label with
  | stateChanged | paramChanged | process => exact Iff.rfl
  | capture =>
      cases working : stream.shared.streamError with
      | true => simp [CapturesSnapshot, TakesOwnFormat, working]
      | false =>
          cases delivered : stream.shared.newFrame with
          | true => exact tracked.capturesSnapshot_delivered working delivered
          | false =>
              -- the frame served before is served again
              have again :=
                stream.recorder.takeFrame_of_not_newFrame delivered
              refine iff_of_true ?_ ?_
              · intro _
                rw [capture_eq stream working, again]
                refine ⟨?_, tracked.calm alive, tracked.settled⟩
                intro taken
                rw [delivered] at taken
                cases taken
              · intro _ taken
                rw [delivered] at taken
                cases taken

/-- Along an execution every capture gets a consistent snapshot, does not
panic and repeats itself without a new frame, exactly if every frame is taken
with its own size and format and no depadded rows overrun their chunk. -/
theorem capturesSnapshot_iff_takesOwnFormat
    (execution : Transition.Execution step new) :
    execution.StepsMeet CapturesSnapshot ↔
      execution.StepsMeet TakesOwnFormat := by
  apply execution.stepsMeet_congr
  intro before label after reached moved
  have tracked : before.Tracked := by
    apply reached.invariant tracked_new
    exact fun _ _ _ tracked moved => tracked.step moved
  exact tracked.capturesSnapshot_iff moved

/-- A frame of four by two pixels, and a new width before it is captured. -/
def resizeBeforeCapture : List PipeWireStep :=
  [.paramChanged (.parsed ⟨.rgbx, 4, 2⟩),
    .process (some [⟨⟨32, 0, 16⟩, .memPtr (some (List.replicate 32 0))⟩]),
    .paramChanged (.parsed ⟨.rgbx, 8, 2⟩)]

/-- The old bytes are read with the new width, and `capture` panics. -/
theorem resizeBeforeCapture_panics :
    ∃ stream, Transition.run step new resizeBeforeCapture = some stream ∧
      (stream.recorder.capture stream.shared).1 = .panic ∧
        ¬ stream.CapturesSnapshot .capture := by
  refine ⟨_, rfl, by decide, fun captures => ?_⟩
  exact (captures rfl).2.1 (by decide)

end PipeWireStream

end Rylus
