import Rylus.VideoThreads

/-!
# The controller's QP and the encoder's

The quality controller decides the QP on the capture thread; it reaches the
encoder on a frame.  Both agree as long as a new encoder, which starts at
`qpDefault`, is told what the controller has decided before.
-/

namespace Rylus

/-- `set_quality` with the QP that rides along with a frame, if any. -/
def applyQp : Option Nat → Nat → Nat
  | some qp, _ => min qp 51
  | none, current => current

/-- The QPs the encoder may have after a command, `none` when there is no
encoder: whether an encoder opens is up to the codec. -/
def EncodeCommand.qpsAfter (encoder : Option Nat) :
    EncodeCommand → List (Option Nat)
  | .frame _ _ qp => [encoder.map (applyQp qp)]
  | .restart size =>
      if VideoEncoder.canOpen size then [some qpDefault, none] else [none]
  | .stop => [none]

/-- The QPs the encoder may have after all commands. -/
def settledQps (encoder : Option Nat) :
    List EncodeCommand → List (Option Nat)
  | [] => [encoder]
  | command :: commands =>
      (command.qpsAfter encoder).flatMap fun next => settledQps next commands

theorem settledQps_append (encoder : Option Nat)
    (commands : List EncodeCommand) (last : EncodeCommand) :
    settledQps encoder (commands ++ [last]) =
      (settledQps encoder commands).flatMap last.qpsAfter := by
  induction commands generalizing encoder with
  | nil => simp [settledQps]
  | cons command commands ih =>
      simp only [List.cons_append, settledQps, ih, List.flatMap_assoc]

theorem settledQps_ne_nil (encoder : Option Nat)
    (commands : List EncodeCommand) : settledQps encoder commands ≠ [] := by
  induction commands generalizing encoder with
  | nil => simp [settledQps]
  | cons command commands ih =>
      intro empty
      rw [settledQps, List.flatMap_eq_nil_iff] at empty
      cases command with
      | frame frame keyframe qp =>
          exact ih _ (empty _ (List.mem_singleton_self _))
      | restart size =>
          have canFail : none ∈ EncodeCommand.qpsAfter encoder
              (.restart size) := by
            by_cases fits : VideoEncoder.canOpen size <;>
              simp [EncodeCommand.qpsAfter, fits]
          exact ih none (empty none canFail)
      | stop => exact ih _ (empty _ (List.mem_singleton_self _))

variable {F Recorder : Type*} [F64 F]

namespace VideoThreads

/-- The commands the encode thread has yet to execute. -/
def commands (threads : VideoThreads F Recorder) : List EncodeCommand :=
  (match threads.encode with
    | .executing command => [command]
    | .waiting | .ended => []) ++ threads.channel.toList

/-- The QPs a live encoder may have once all queued commands are executed. -/
def queuedQps (threads : VideoThreads F Recorder) : List (Option Nat) :=
  settledQps (threads.videoEncoder.map (·.qp)) threads.commands

/-- Whatever encoder is live once everything queued has been executed: with
the pending QP it has the QP of the controller. -/
def QpAgrees (threads : VideoThreads F Recorder) : Prop :=
  ∀ qp, some qp ∈ threads.queuedQps →
    applyQp threads.capture.pendingQp qp = threads.capture.quality.currentQp

/-- The controller is reset only when it is at the default anyway or no
encoder is left, and an encoder is restarted only when the pending QP makes
the new one agree. -/
def KeepsQp (threads : VideoThreads F Recorder) :
    VideoStep F Recorder → Prop
  | .command .restart =>
      threads.capture.quality.currentQp = qpDefault ∨
        ∀ qp, some qp ∉ threads.queuedQps
  | .sendRestart => ∀ frame size,
      threads.capture.phase = .restarting frame size →
        threads.encode ≠ .ended → VideoEncoder.canOpen size = true →
          applyQp threads.capture.pendingQp qpDefault =
            threads.capture.quality.currentQp
  | _ => True

end VideoThreads

namespace CaptureThread

/-- The quality decision keeps an agreement with the controller. -/
theorem adjustQuality_agrees {thread : CaptureThread F Recorder} {qp : Nat}
    (agrees : applyQp thread.pendingQp qp = thread.quality.currentQp) :
    applyQp thread.adjustQuality.pendingQp qp =
      thread.adjustQuality.quality.currentQp := by
  have decided :=
    thread.quality.decide_spec (F64.asSecs thread.frameDuration)
  unfold adjustQuality
  split
  · rename_i newQp quality chosen
    rw [chosen] at decided
    obtain ⟨current, bounded⟩ := decided
    have small : newQp ≤ 51 := bounded.trans (by decide)
    simp [applyQp, current, small]
  · rename_i quality chosen
    rw [chosen] at decided
    simpa [decided] using agrees

theorem frameSent_agrees {thread : CaptureThread F Recorder} {qp : Nat}
    (agrees : qp = thread.quality.currentQp) (lastEncodeNanos : Nat) :
    applyQp (thread.frameSent lastEncodeNanos).pendingQp qp =
      (thread.frameSent lastEncodeNanos).quality.currentQp := by
  apply adjustQuality_agrees
  simp only [applyQp]
  split
  · exact agrees
  · exact agrees

theorem frameDropped_agrees {thread : CaptureThread F Recorder} {qp : Nat}
    (agrees : applyQp thread.pendingQp qp = thread.quality.currentQp) :
    applyQp thread.frameDropped.pendingQp qp =
      thread.frameDropped.quality.currentQp :=
  adjustQuality_agrees agrees

/-- Commands other than `Restart` leave the QP alone. -/
theorem command_qp (thread : CaptureThread F Recorder)
    (command : VideoCommands F Recorder) (other : command ≠ .restart) :
    (thread.command command).pendingQp = thread.pendingQp ∧
      (thread.command command).quality.currentQp =
        thread.quality.currentQp := by
  cases command with
  | start recorder maxWidth maxHeight frameRate =>
      simp only [CaptureThread.command]
      cases frameDurationOf frameRate <;> cases recorder <;> exact ⟨rfl, rfl⟩
  | restart => exact absurd rfl other
  | _ => exact ⟨rfl, rfl⟩

theorem captureFrame_qp (thread : CaptureThread F Recorder) (number : Nat)
    (size : Option (Nat × Nat)) :
    (thread.captureFrame number size).pendingQp = thread.pendingQp ∧
      (thread.captureFrame number size).quality = thread.quality := by
  unfold captureFrame
  split
  · exact ⟨rfl, rfl⟩
  · dsimp only
    split <;> exact ⟨rfl, rfl⟩
  · dsimp only
    split <;> exact ⟨rfl, rfl⟩

end CaptureThread

namespace VideoThreads

variable {threads next : VideoThreads F Recorder}

omit [F64 F] in
/-- A step that keeps the queued commands, the pending QP and the
controller's. -/
theorem qpAgrees_of_eq (holds : threads.QpAgrees)
    (queued : next.queuedQps = threads.queuedQps)
    (pending : next.capture.pendingQp = threads.capture.pendingQp)
    (current : next.capture.quality.currentQp =
      threads.capture.quality.currentQp) : next.QpAgrees := by
  unfold QpAgrees
  rw [queued, pending, current]
  exact holds

/-- `Restart` resets the controller and not the pending QP. -/
theorem qpAgrees_command_restart_iff (holds : threads.QpAgrees) :
    { threads with
      capture := threads.capture.command .restart }.QpAgrees ↔
        threads.capture.quality.currentQp = qpDefault ∨
          ∀ qp, some qp ∉ threads.queuedQps := by
  constructor
  · intro agrees
    by_cases encoderLeft : ∃ qp, some qp ∈ threads.queuedQps
    · obtain ⟨qp, isQueued⟩ := encoderLeft
      left
      exact (holds qp isQueued).symm.trans (agrees qp isQueued)
    · right
      exact fun qp isQueued => encoderLeft ⟨qp, isQueued⟩
  · rintro (atDefault | noEncoder) qp isQueued
    · exact (holds qp isQueued).trans atDefault
    · exact absurd isQueued (noEncoder qp)

/-- A frame that enters the channel carries the pending QP with it. -/
theorem qpAgrees_frameSent (holds : threads.QpAgrees)
    (room : threads.channel = none) (frame : CapturedFrame) :
    { threads with
      channel := some (.frame frame threads.capture.pendingKeyframe
        threads.capture.pendingQp)
      capture :=
        threads.capture.frameSent threads.lastEncodeNanos }.QpAgrees := by
  intro qp isQueued
  have queued : some qp ∈ settledQps (threads.videoEncoder.map (·.qp))
      (threads.commands ++ [.frame frame threads.capture.pendingKeyframe
        threads.capture.pendingQp]) := by
    simpa [queuedQps, commands, room] using isQueued
  rw [settledQps_append] at queued
  obtain ⟨before, wasQueued, applied⟩ := List.mem_flatMap.mp queued
  cases before with
  | none => simp [EncodeCommand.qpsAfter] at applied
  | some old =>
      have isApplied : qp = applyQp threads.capture.pendingQp old := by
        simpa [EncodeCommand.qpsAfter] using applied
      apply CaptureThread.frameSent_agrees
      rw [isApplied]
      exact holds old wasQueued

omit [F64 F] in
/-- After a restart the encoder may be a new one at the default QP. -/
theorem qpAgrees_sendRestart_iff
    (room : threads.channel = none) (size : EncoderSize)
    (phase : CapturePhase) :
    { threads with
      channel := some (.restart size)
      capture := { threads.capture with phase := phase } }.QpAgrees ↔
        (VideoEncoder.canOpen size = true →
          applyQp threads.capture.pendingQp qpDefault =
            threads.capture.quality.currentQp) := by
  have queued : { threads with
      channel := some (.restart size)
      capture := { threads.capture with phase := phase } }.queuedQps =
        threads.queuedQps.flatMap (EncodeCommand.restart size).qpsAfter := by
    rw [queuedQps, queuedQps, ← settledQps_append]
    simp [commands, room]
  unfold QpAgrees
  rw [queued]
  constructor
  · intro agrees fits
    apply agrees
    obtain ⟨some_, isQueued⟩ := List.exists_mem_of_ne_nil _
      (settledQps_ne_nil (threads.videoEncoder.map (·.qp)) threads.commands)
    exact List.mem_flatMap.mpr
      ⟨some_, isQueued, by simp [EncodeCommand.qpsAfter, fits]⟩
  · intro agrees qp isQueued
    obtain ⟨before, -, restarted⟩ := List.mem_flatMap.mp isQueued
    by_cases fits : VideoEncoder.canOpen size = true
    · have isDefault : qp = qpDefault := by
        simpa [EncodeCommand.qpsAfter, fits] using restarted
      rw [isDefault]
      exact agrees fits
    · simp [EncodeCommand.qpsAfter, fits] at restarted

/-- Steps of the capture thread: the QPs still agree exactly if the step
keeps them. -/
theorem qpAgrees_iff_of_captureMove {label : VideoStep F Recorder}
    (holds : threads.QpAgrees) (moved : threads.CaptureMove label next) :
    next.QpAgrees ↔ threads.KeepsQp label := by
  cases moved with
  | command command receiving =>
      by_cases isRestart : command = .restart
      · subst isRestart
        exact qpAgrees_command_restart_iff holds
      · obtain ⟨pending, current⟩ :=
          threads.capture.command_qp command isRestart
        have keeps : threads.KeepsQp (.command command) := by
          cases command <;> trivial
        simp only [keeps, iff_true]
        apply qpAgrees_of_eq holds
        · rfl
        · exact pending
        · exact current
  | idle size | captured size =>
      obtain ⟨pending, quality⟩ :=
        threads.capture.captureFrame_qp threads.captured size
      simp only [KeepsQp, iff_true]
      apply qpAgrees_of_eq holds
      · rfl
      · exact pending
      · exact congrArg QualityController.currentQp quality
  | restartLost frame size phase gone =>
      apply iff_of_true holds
      intro _ _ _ there
      exact absurd gone there
  | restartSent frame size phase there room =>
      rw [qpAgrees_sendRestart_iff room]
      simp only [KeepsQp, phase]
      constructor
      · rintro agrees _ _ ⟨⟩ - fits
        exact agrees fits
      · intro agrees fits
        exact agrees frame size rfl there fits
  | offered frame phase room =>
      simp only [KeepsQp, iff_true]
      exact qpAgrees_frameSent holds room frame
  | offerDropped frame phase =>
      simp only [KeepsQp, iff_true]
      intro qp isQueued
      exact CaptureThread.frameDropped_agrees (holds qp isQueued)
  | stopSent phase room =>
      simp only [KeepsQp, iff_true]
      intro qp isQueued
      have stopped : some qp ∈ settledQps (threads.videoEncoder.map (·.qp))
          (threads.commands ++ [.stop]) := by
        simpa [queuedQps, commands, room] using isQueued
      rw [settledQps_append] at stopped
      simp [EncodeCommand.qpsAfter] at stopped
  | offerLost | disconnected | stopLost =>
      simp only [KeepsQp, iff_true]
      exact holds

omit [F64 F] in
theorem qpAgrees_of_encodeMove {label : VideoStep F Recorder}
    (holds : threads.QpAgrees) (moved : threads.EncodeMove label next) :
    next.QpAgrees := by
  cases moved with
  | dequeued command waiting queued =>
      refine qpAgrees_of_eq holds ?_ rfl rfl
      simp [queuedQps, commands, waiting, queued]
  | missed frame keyframe qp accepted nanos executing noEncoder =>
      refine qpAgrees_of_eq holds ?_ rfl rfl
      simp [queuedQps, commands, executing, noEncoder, settledQps,
        EncodeCommand.qpsAfter]
  | encoded frame keyframe qp accepted nanos encoder executing isLive =>
      refine qpAgrees_of_eq holds ?_ rfl rfl
      cases qp <;>
        simp [queuedQps, commands, executing, isLive, settledQps,
          EncodeCommand.qpsAfter, applyQp]
  | restarted size opened executing =>
      intro qp isQueued
      apply holds
      have restarted : (VideoEncoder.new size opened).map (·.qp) ∈
          EncodeCommand.qpsAfter (threads.videoEncoder.map (·.qp))
            (.restart size) := by
        unfold VideoEncoder.new
        by_cases fits : VideoEncoder.canOpen size = true <;>
          cases opened <;> simp [EncodeCommand.qpsAfter, fits]
      simp only [queuedQps, commands, executing, List.singleton_append,
        settledQps]
      exact List.mem_flatMap.mpr ⟨_, restarted, by
        simpa [queuedQps, commands] using isQueued⟩
  | stopped executing =>
      refine qpAgrees_of_eq holds ?_ rfl rfl
      simp [queuedQps, commands, executing, settledQps,
        EncodeCommand.qpsAfter]
  | disconnected waiting empty =>
      intro qp isQueued
      simp [queuedQps, commands, empty, settledQps] at isQueued

/-- The controller and the encoder agree throughout an execution exactly if
every reset of the controller and every restart of the encoder keeps the
QP. -/
theorem qpAgrees_along_iff_keepsQp
    (execution : Transition.Execution step
      (start : VideoThreads F Recorder)) :
    execution.Along QpAgrees ↔ execution.StepsMeet KeepsQp := by
  apply execution.along_iff_stepsMeet
  · intro qp isQueued
    simp [start, queuedQps, commands, settledQps] at isQueued
  · intro before label after _ holds moved
    rcases step_cases moved with captured | encoded
    · exact qpAgrees_iff_of_captureMove holds captured
    · apply iff_of_true (qpAgrees_of_encodeMove holds encoded)
      cases encoded <;> trivial

/-- At one frame a second, the client reports a full buffer, the new QP
reaches the encoder with the third frame, and then the screen is resized. -/
def resizeAfterDecision : List (VideoStep ℚ Unit) :=
  [.command (.start (some ()) 1920 1080 1), .capture (some (640, 480)),
    .sendRestart, .dequeue, .restartEncoder true,
    .offer, .dequeue, .encodeFrame true 1000,
    .command (.bufferHealth 5), .capture (some (640, 480)), .offer,
    .dequeue, .encodeFrame true 1000,
    .capture (some (640, 480)), .offer, .dequeue, .encodeFrame true 1000,
    .capture (some (800, 600)), .sendRestart, .dequeue, .restartEncoder true]

/-- The encoder runs at the default QP while the controller has decided on
another. -/
theorem resizeAfterDecision_disagrees :
    ∃ threads, Transition.run step (start : VideoThreads ℚ Unit)
        resizeAfterDecision = some threads ∧ ¬ threads.QpAgrees := by
  have observed : (Transition.run step (start : VideoThreads ℚ Unit)
      resizeAfterDecision).any (fun threads =>
        threads.videoEncoder.map (·.qp) == some 23 &&
          threads.commands.isEmpty && threads.capture.pendingQp.isNone &&
            threads.capture.quality.currentQp == 25) = true := by
    decide +kernel
  obtain ⟨threads, reached, facts⟩ := (Option.any_eq_true _ _).mp observed
  simp only [Bool.and_eq_true, beq_iff_eq, List.isEmpty_iff,
    Option.isNone_iff_eq_none] at facts
  obtain ⟨⟨⟨encoder, settled⟩, pending⟩, current⟩ := facts
  refine ⟨threads, reached, fun agrees => ?_⟩
  have atDefault := agrees 23 (by simp [queuedQps, encoder, settled, settledQps])
  rw [pending, current] at atDefault
  cases atDefault

end VideoThreads

end Rylus
