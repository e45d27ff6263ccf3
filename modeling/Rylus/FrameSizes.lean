import Rylus.KeyframeRequests

/-!
# The encoder sees frames of its own size

The capture thread remembers the size of the last restart it sent; a width of
zero stands for none.  This file follows that size through the channel to the
encoder, which may be missing behind a restart that failed.
-/

namespace Rylus

/-- The one law of floating-point arithmetic used here: zero times anything
is zero or not a number, and both truncate to zero. -/
class LawfulF64 (F : Type*) [F64 F] : Prop where
  toUsize_zero_mul : ∀ factor : F, F64.toUsize (F64.ofNat 0 * factor) = 0

instance lawfulF64Rat : LawfulF64 ℚ where
  toUsize_zero_mul factor := by
    change ⌊((0 : Nat) : ℚ) * factor⌋.toNat = 0
    simp

variable {F Recorder : Type*} [F64 F]

theorem outputSize_widthIn (maxWidth maxHeight widthIn heightIn : Nat) :
    (outputSize F maxWidth maxHeight widthIn heightIn).widthIn = widthIn := by
  unfold outputSize
  dsimp only
  split <;> rfl

theorem outputSize_heightIn (maxWidth maxHeight widthIn heightIn : Nat) :
    (outputSize F maxWidth maxHeight widthIn heightIn).heightIn =
      heightIn := by
  unfold outputSize
  dsimp only
  split <;> rfl

/-- No encoder opens for a frame without columns. -/
theorem outputSize_widthOut_zero [LawfulF64 F]
    (maxWidth maxHeight heightIn : Nat) :
    (outputSize F maxWidth maxHeight 0 heightIn).widthOut ≤ 1 := by
  unfold outputSize
  dsimp only
  split
  · simp [LawfulF64.toUsize_zero_mul]
  · exact Nat.zero_le 1

/-- The size of the encoder after a command, if one can be live. -/
def EncodeCommand.sizeAfter (size : Option EncoderSize) :
    EncodeCommand → Option EncoderSize
  | .frame _ _ _ => size
  | .restart size => if VideoEncoder.canOpen size then some size else none
  | .stop => none

/-- The size of the encoder after all commands, if one can be live. -/
def settledSize (size : Option EncoderSize)
    (commands : List EncodeCommand) : Option EncoderSize :=
  commands.foldl EncodeCommand.sizeAfter size

/-- A frame has the input size of the encoder. -/
def CapturedFrame.Fits (frame : CapturedFrame) (size : EncoderSize) : Prop :=
  frame.widthIn = size.widthIn ∧ frame.heightIn = size.heightIn

/-- Every frame among the commands meets an encoder of its size or none. -/
def FramesFit : Option EncoderSize → List EncodeCommand → Prop
  | _, [] => True
  | size, command :: commands =>
      (∀ frame keyframe qp, command = .frame frame keyframe qp →
        ∀ live ∈ size, frame.Fits live) ∧
      FramesFit (command.sizeAfter size) commands

theorem framesFit_append (size : Option EncoderSize)
    (first second : List EncodeCommand) :
    FramesFit size (first ++ second) ↔
      FramesFit size first ∧ FramesFit (settledSize size first) second := by
  induction first generalizing size with
  | nil => simp [FramesFit, settledSize]
  | cons command commands ih =>
      simp only [List.cons_append, FramesFit, ih, and_assoc]
      rfl

/-- Without an encoder more frames fit. -/
theorem framesFit_none {size : Option EncoderSize}
    {commands : List EncodeCommand} (fits : FramesFit size commands) :
    FramesFit none commands := by
  induction commands generalizing size with
  | nil => trivial
  | cons command commands ih =>
      obtain ⟨-, rest⟩ := fits
      refine ⟨by simp, ?_⟩
      cases command with
      | frame frame keyframe qp => exact ih rest
      | restart size => exact rest
      | stop => exact rest

/-- Nor does an encoder appear at the end. -/
theorem mem_settledSize_of_none {size : Option EncoderSize}
    {commands : List EncodeCommand} {live : EncoderSize}
    (settled : live ∈ settledSize none commands) :
    live ∈ settledSize size commands := by
  induction commands generalizing size with
  | nil => cases settled
  | cons command commands ih =>
      cases command with
      | frame frame keyframe qp => exact ih settled
      | restart size => exact settled
      | stop => exact settled

/-- What the capture thread remembers of a size at which an encoder can be
live: all of it, or all but the width. -/
def Remembers (encSize size : EncoderSize) : Prop :=
  VideoEncoder.canOpen size = true ∧
    (encSize = size ∨ encSize = { size with widthIn := 0 })

theorem Remembers.forget {encSize size : EncoderSize}
    (remembers : Remembers encSize size) :
    Remembers { encSize with widthIn := 0 } size := by
  obtain ⟨canOpen, rfl | rfl⟩ := remembers
  · exact ⟨canOpen, .inr rfl⟩
  · exact ⟨canOpen, .inr rfl⟩

/-- A frame for which no restart is needed has the size remembered. -/
theorem Remembers.fits [LawfulF64 F] {encSize size : EncoderSize}
    (remembers : Remembers encSize size)
    {maxWidth maxHeight number widthIn heightIn : Nat}
    (same : encSize = outputSize F maxWidth maxHeight widthIn heightIn) :
    (⟨number, widthIn, heightIn⟩ : CapturedFrame).Fits size := by
  obtain ⟨canOpen, rfl | isForgotten⟩ := remembers
  · rw [same]
    exact ⟨(outputSize_widthIn ..).symm, (outputSize_heightIn ..).symm⟩
  · -- the frame has no columns, so the size could not have been opened
    rw [isForgotten] at same
    have widthZero : widthIn = 0 := by
      rw [← outputSize_widthIn (F := F) maxWidth maxHeight widthIn heightIn,
        ← same]
    have narrow : size.widthOut ≤ 1 := by
      have := outputSize_widthOut_zero (F := F) maxWidth maxHeight heightIn
      rwa [← widthZero, ← same] at this
    simp only [VideoEncoder.canOpen, Bool.and_eq_true, decide_eq_true_eq]
      at canOpen
    omega

namespace CaptureThread

/-- What the capture thread knows of the size the encoder settles at. -/
def Tracks (thread : CaptureThread F Recorder)
    (settled : Option EncoderSize) : Prop :=
  match thread.phase with
  | .receiving => ∀ size ∈ settled, Remembers thread.encSize size
  | .restarting frame size => thread.encSize = size ∧ frame.Fits size
  | .offering frame =>
      ∀ size ∈ settled, Remembers thread.encSize size ∧ frame.Fits size
  | .stopping | .ended => True

theorem adjustQuality_encSize (thread : CaptureThread F Recorder) :
    thread.adjustQuality.encSize = thread.encSize := by
  obtain ⟨quality, pendingQp, same⟩ := thread.adjustQuality_eq
  rw [same]

omit [F64 F] in
/-- The less there is known to settle, the easier it is tracked. -/
theorem Tracks.mono {thread : CaptureThread F Recorder}
    {settled fewer : Option EncoderSize} (tracks : thread.Tracks settled)
    (subset : ∀ size ∈ fewer, size ∈ settled) : thread.Tracks fewer := by
  unfold Tracks at tracks ⊢
  split at tracks
  · exact fun size live => tracks size (subset size live)
  · exact tracks
  · exact fun size live => tracks size (subset size live)
  · trivial
  · trivial

/-- A command keeps the size or forgets its width. -/
theorem tracks_command {thread : CaptureThread F Recorder}
    {settled : Option EncoderSize} (command : VideoCommands F Recorder)
    (receiving : thread.phase = .receiving) (tracks : thread.Tracks settled) :
    (thread.command command).Tracks settled := by
  simp only [Tracks, receiving] at tracks
  cases command with
  | start recorder maxWidth maxHeight frameRate =>
      simp only [CaptureThread.command]
      cases frameDurationOf frameRate <;> cases recorder <;>
        simp only [Tracks, receiving]
      all_goals exact fun size live => (tracks size live).forget
  | restart =>
      simp only [CaptureThread.command, Tracks, receiving]
      exact fun size live => (tracks size live).forget
  | _ =>
      simp only [CaptureThread.command, Tracks, receiving]
      exact tracks

theorem tracks_captureFrame [LawfulF64 F]
    {thread : CaptureThread F Recorder} {settled : Option EncoderSize}
    (number : Nat) (size : Option (Nat × Nat))
    (receiving : thread.phase = .receiving) (tracks : thread.Tracks settled) :
    (thread.captureFrame number size).Tracks settled := by
  have remembers : ∀ size ∈ settled, Remembers thread.encSize size := by
    simpa only [Tracks, receiving] using tracks
  unfold captureFrame
  split
  · exact tracks
  · dsimp only
    split <;> simpa only [Tracks, receiving] using remembers
  · dsimp only
    split
    · exact ⟨rfl, (outputSize_widthIn ..).symm, (outputSize_heightIn ..).symm⟩
    · rename_i same
      simp only [ne_eq, not_not] at same
      intro size live
      exact ⟨remembers size live, (remembers size live).fits same⟩

omit [F64 F] in
/-- After an offer, whatever became of the frame. -/
theorem tracks_offered {thread next : CaptureThread F Recorder}
    {settled : Option EncoderSize} {frame : CapturedFrame}
    (offering : thread.phase = .offering frame)
    (tracks : thread.Tracks settled) (receiving : next.phase = .receiving)
    (same : next.encSize = thread.encSize) : next.Tracks settled := by
  simp only [Tracks, offering] at tracks
  simp only [Tracks, receiving, same]
  exact fun size live => (tracks size live).1

end CaptureThread

namespace VideoThreads

variable {threads next : VideoThreads F Recorder}
  {label : VideoStep F Recorder}

/-- The size of the live encoder. -/
def liveSize (threads : VideoThreads F Recorder) : Option EncoderSize :=
  threads.videoEncoder.map (·.size)

/-- All frames on their way will meet an encoder of their size, and the
capture thread knows the size the next one will meet. -/
structure SizesAgree (threads : VideoThreads F Recorder) : Prop where
  fit : FramesFit threads.liveSize threads.commands
  tracks :
    threads.capture.Tracks (settledSize threads.liveSize threads.commands)

omit [F64 F] in
/-- A command that enters the channel. -/
theorem sizesAgree_send (agrees : threads.SizesAgree)
    (room : threads.channel = none) (command : EncodeCommand)
    (capture : CaptureThread F Recorder)
    (fits : ∀ frame keyframe qp, command = .frame frame keyframe qp →
      ∀ live ∈ settledSize threads.liveSize threads.commands, frame.Fits live)
    (tracks : capture.Tracks (command.sizeAfter
      (settledSize threads.liveSize threads.commands))) :
    { threads with
      channel := some command
      capture := capture }.SizesAgree := by
  have appended : { threads with
      channel := some command
      capture := capture }.commands = threads.commands ++ [command] := by
    simp [commands, room]
  constructor
  · rw [appended]
    exact (framesFit_append _ _ _).mpr ⟨agrees.fit, fits, trivial⟩
  · rw [appended]
    change capture.Tracks
      (settledSize threads.liveSize (threads.commands ++ [command]))
    simpa [settledSize] using tracks

/-- A running encode thread is left with fitting frames by every step of the
capture thread. -/
theorem sizesAgree_of_captureMove [LawfulF64 F]
    (running : threads.encode ≠ .ended) (agrees : threads.SizesAgree)
    (moved : threads.CaptureMove label next) : next.SizesAgree := by
  have tracks := agrees.tracks
  cases moved with
  | command command receiving =>
      exact ⟨agrees.fit, CaptureThread.tracks_command command receiving tracks⟩
  | idle size receiving | captured size receiving =>
      exact ⟨agrees.fit, CaptureThread.tracks_captureFrame threads.captured
        size receiving tracks⟩
  | restartLost frame size phase gone => exact absurd gone running
  | restartSent frame size phase there room =>
      simp only [CaptureThread.Tracks, phase] at tracks
      obtain ⟨encSize, fits⟩ := tracks
      apply sizesAgree_send agrees room
      · intro _ _ _ isFrame
        cases isFrame
      · intro live settled
        simp only [EncodeCommand.sizeAfter] at settled
        split at settled
        · cases settled
          exact ⟨⟨‹_›, .inl encSize⟩, fits⟩
        · cases settled
  | offerLost frame phase gone => exact absurd gone running
  | offered frame phase room =>
      apply sizesAgree_send agrees room
      · rintro _ _ _ ⟨⟩ live settled
        simp only [CaptureThread.Tracks, phase] at tracks
        exact (tracks live settled).2
      · apply CaptureThread.tracks_offered phase tracks
        · exact CaptureThread.frameSent_phase _ _
        · exact CaptureThread.adjustQuality_encSize _
  | offerDropped frame phase =>
      refine ⟨agrees.fit, CaptureThread.tracks_offered phase tracks ?_ ?_⟩
      · exact CaptureThread.frameDropped_phase _
      · exact CaptureThread.adjustQuality_encSize _
  | disconnected receiving => exact ⟨agrees.fit, trivial⟩
  | stopLost phase gone => exact absurd gone running
  | stopSent phase room =>
      apply sizesAgree_send agrees room
      · intro _ _ _ isFrame
        cases isFrame
      · trivial

omit [F64 F] in
/-- The encoder that a restart leaves behind, if any, has its size. -/
theorem liveSize_new (size : EncoderSize) (opened : Bool) :
    (VideoEncoder.new size opened).map (·.size) =
        (EncodeCommand.restart size).sizeAfter threads.liveSize ∨
      (VideoEncoder.new size opened).map (·.size) = none := by
  unfold VideoEncoder.new EncodeCommand.sizeAfter
  cases fits : VideoEncoder.canOpen size <;> cases opened <;> simp [fits]

omit [F64 F] in
/-- So does every step of the encode thread, or it ends. -/
theorem sizesAgree_of_encodeMove (agrees : threads.SizesAgree)
    (moved : threads.EncodeMove label next) (running : next.encode ≠ .ended) :
    next.SizesAgree := by
  obtain ⟨fit, tracks⟩ := agrees
  cases moved with
  | dequeued command waiting queued =>
      have same : { threads with
          encode := .executing command
          channel := none }.commands = threads.commands := by
        simp [commands, waiting, queued]
      exact ⟨same ▸ fit, same ▸ tracks⟩
  | missed frame keyframe qp accepted nanos executing noEncoder =>
      simp only [commands, executing] at fit tracks
      exact ⟨fit.2, tracks⟩
  | encoded frame keyframe qp accepted nanos encoder executing isLive =>
      simp only [commands, executing, liveSize, isLive] at fit tracks
      exact ⟨fit.2, tracks⟩
  | restarted size opened executing =>
      simp only [commands, executing] at fit tracks
      rcases threads.liveSize_new size opened with opens | fails
      · constructor
        · simp only [liveSize, opens]
          exact fit.2
        · simp only [liveSize, opens]
          exact tracks
      · constructor
        · simp only [liveSize, fails]
          exact framesFit_none fit.2
        · simp only [liveSize, fails]
          apply tracks.mono
          intro live settled
          change live ∈ settledSize
            ((EncodeCommand.restart size).sizeAfter threads.liveSize)
            threads.channel.toList
          exact mem_settledSize_of_none settled
  | stopped | disconnected => exact absurd rfl running

/-- Every frame that an encoder gets to see has the size of the encoder. -/
theorem dequeued_frame_fits [LawfulF64 F]
    (reached : Transition.Reachable step
      (start : VideoThreads F Recorder) threads)
    {frame : CapturedFrame} {keyframe : Bool} {qp : Option Nat}
    {encoder : VideoEncoder}
    (dequeued : threads.encode = .executing (.frame frame keyframe qp))
    (isLive : threads.videoEncoder = some encoder) :
    frame.widthIn = encoder.size.widthIn ∧
      frame.heightIn = encoder.size.heightIn := by
  have agrees : threads.encode ≠ .ended → threads.SizesAgree := by
    apply reached.invariant
    · intro _
      refine ⟨trivial, ?_⟩
      intro size live
      cases live
    · intro before label after holds moved running
      rcases step_cases moved with captured | encoded
      · have same : after.encode = before.encode := by
          cases captured <;> rfl
        rw [same] at running
        exact sizesAgree_of_captureMove running (holds running) captured
      · have was : before.encode ≠ .ended := by
          cases encoded <;> simp_all
        exact sizesAgree_of_encodeMove (holds was) encoded running
  have fit := (agrees (by simp [dequeued])).fit
  simp only [commands, dequeued, liveSize, isLive] at fit
  exact fit.1 frame keyframe qp rfl encoder.size rfl

/-- The screen is resized while the encoder is busy: the frame that fits only
the old encoder is encoded by it, the next by the new one. -/
theorem dequeued_frame_fits_after_resize :
    ∃ threads, Transition.run step (start : VideoThreads ℚ Unit)
        [.command (.start (some ()) 1920 1080 30), .capture (some (640, 480)),
          .sendRestart, .dequeue, .restartEncoder true, .offer,
          .capture (some (800, 600)), .dequeue, .encodeFrame true 1000,
          .sendRestart, .dequeue, .restartEncoder true, .offer, .dequeue] =
        some threads ∧
      ∃ frame keyframe qp encoder,
        threads.encode = .executing (.frame frame keyframe qp) ∧
          threads.videoEncoder = some encoder ∧ frame.widthIn = 800 ∧
            frame.widthIn = encoder.size.widthIn ∧
              frame.heightIn = encoder.size.heightIn := by
  have observed : (Transition.run step (start : VideoThreads ℚ Unit)
      [.command (.start (some ()) 1920 1080 30), .capture (some (640, 480)),
        .sendRestart, .dequeue, .restartEncoder true, .offer,
        .capture (some (800, 600)), .dequeue, .encodeFrame true 1000,
        .sendRestart, .dequeue, .restartEncoder true, .offer, .dequeue]).any
      (fun threads =>
        match threads.encode with
        | .executing (.frame frame _ _) =>
            frame.widthIn == 800 && threads.videoEncoder.isSome
        | .executing (.restart _) | .executing .stop | .waiting | .ended =>
            false) = true := by
    decide +kernel
  obtain ⟨threads, reached, facts⟩ := (Option.any_eq_true _ _).mp observed
  refine ⟨threads, reached, ?_⟩
  split at facts
  · rename_i frame keyframe qp dequeued
    simp only [Bool.and_eq_true, beq_iff_eq, Option.isSome_iff_exists] at facts
    obtain ⟨wide, encoder, isLive⟩ := facts
    exact ⟨frame, keyframe, qp, encoder, dequeued, isLive, wide,
      dequeued_frame_fits ⟨_, reached⟩ dequeued isLive⟩
  all_goals cases facts

end VideoThreads

end Rylus
