import Mathlib.Data.List.Sublists
import Rylus.KeyframeRequests

/-!
# Frames stay in the order they are captured

The frames that were encoded, those in flight and the one to be offered form
a line.  A step moves the end of the line on, takes a frame out of it, or puts
the next one captured at its end.  So frames are encoded in the order they are
captured, none of them twice, and a pause lets nothing through but the frames
of the line.
-/

namespace Rylus

variable {F Recorder : Type*} [F64 F]

namespace VideoThreads

variable {threads next : VideoThreads F Recorder}
  {label : VideoStep F Recorder}

/-- The numbers of the frames given to `VideoEncoder::encode`. -/
def encoded (threads : VideoThreads F Recorder) : List Nat :=
  threads.encodeCalls.map EncodeCall.frame

/-- The numbers of the frames encoded, in flight and to be offered. -/
def line (threads : VideoThreads F Recorder) : List Nat :=
  threads.encoded ++ threads.inFlight.map Prod.fst ++
    (threads.capture.phase.frame?.map CapturedFrame.number).toList

/-- No frame leaves its place for another one. -/
def KeepsLine (threads next : VideoThreads F Recorder) : Prop :=
  next.line.Sublist threads.line ∧ next.captured = threads.captured

omit [F64 F] in
theorem keepsLine_of_eq (encodeCalls : next.encodeCalls = threads.encodeCalls)
    (inFlight : next.inFlight = threads.inFlight)
    (offered : next.capture.phase.frame? = threads.capture.phase.frame?)
    (captured : next.captured = threads.captured) :
    threads.KeepsLine next := by
  refine ⟨?_, captured⟩
  rw [line, line, encoded, encoded, encodeCalls, inFlight, offered]

omit [F64 F] in
/-- The frame to be offered is dropped. -/
theorem keepsLine_of_drop (encodeCalls : next.encodeCalls = threads.encodeCalls)
    (inFlight : next.inFlight = threads.inFlight)
    (noFrame : next.capture.phase.frame? = none)
    (captured : next.captured = threads.captured) :
    threads.KeepsLine next := by
  refine ⟨?_, captured⟩
  rw [line, line, encoded, encoded, encodeCalls, inFlight, noFrame,
    Option.map_none, Option.toList_none, List.append_nil]
  exact List.sublist_append_left _ _

/-- A step of the capture thread puts the next frame at the end of the line,
or keeps the line. -/
theorem line_of_captureMove (moved : threads.CaptureMove label next) :
    threads.KeepsLine next ∨
      ((∃ size, label = .capture size) ∧
        next.line = threads.line ++ [threads.captured] ∧
        next.captured = threads.captured + 1) := by
  cases moved with
  | command command receiving =>
      left
      refine keepsLine_of_drop rfl rfl ?_ rfl
      exact threads.capture.command_frame? command receiving
  | idle size receiving stays =>
      left
      refine keepsLine_of_drop rfl rfl ?_ rfl
      simp [stays, CapturePhase.frame?]
  | captured size receiving leaves =>
      right
      refine ⟨⟨size, rfl⟩, ?_, rfl⟩
      rcases (threads.capture.captureFrame_cases threads.captured size).2 with
        same | ⟨frame, number, isFrame⟩
      · exact absurd (same.trans receiving) leaves
      · have noFrame : threads.capture.phase.frame? = none := by
          simp [receiving, CapturePhase.frame?]
        simp [line, encoded, inFlight, commands, isFrame, noFrame, number]
  | restartLost frame size phase | restartSent frame size phase _ room =>
      left
      refine keepsLine_of_eq rfl ?_ ?_ rfl
      · first | rfl | simp [inFlight, commands, room, EncodeCommand.frame?]
      · simp [phase, CapturePhase.frame?]
  | offerLost frame phase => exact .inl (keepsLine_of_drop rfl rfl rfl rfl)
  | offered frame phase room =>
      left
      refine ⟨?_, rfl⟩
      simp [line, encoded, inFlight, commands, room, phase,
        CaptureThread.frameSent_phase, CapturePhase.frame?,
        EncodeCommand.frame?]
  | offerDropped frame phase =>
      left
      refine keepsLine_of_drop rfl rfl ?_ rfl
      simp [CaptureThread.frameDropped_phase, CapturePhase.frame?]
  | disconnected receiving => exact .inl (keepsLine_of_drop rfl rfl rfl rfl)
  | stopLost phase => exact .inl (keepsLine_of_drop rfl rfl rfl rfl)
  | stopSent phase room =>
      left
      refine keepsLine_of_drop rfl ?_ rfl rfl
      simp [inFlight, commands, room, EncodeCommand.frame?]

omit [F64 F] in
/-- A step of the encode thread keeps the line. -/
theorem keepsLine_of_encodeMove (moved : threads.EncodeMove label next) :
    threads.KeepsLine next := by
  cases moved with
  | dequeued command waiting queued =>
      refine keepsLine_of_eq rfl ?_ rfl rfl
      simp [inFlight, commands, waiting, queued]
  | missed frame keyframe qp accepted nanos executing =>
      refine ⟨?_, rfl⟩
      simp only [line, encoded, inFlight, commands, executing]
      simp [EncodeCommand.frame?]
  | encoded frame keyframe qp accepted nanos encoder executing =>
      refine ⟨?_, rfl⟩
      simp [line, VideoThreads.encoded, inFlight, commands, executing,
        EncodeCommand.frame?]
  | restarted size opened executing =>
      refine keepsLine_of_eq rfl ?_ rfl rfl
      simp [inFlight, commands, executing, List.filterMap_cons,
        EncodeCommand.frame?]
  | stopped executing =>
      refine keepsLine_of_eq rfl ?_ rfl rfl
      simp [inFlight, commands, executing, List.filterMap_cons,
        EncodeCommand.frame?]
  | disconnected waiting empty =>
      refine keepsLine_of_eq rfl ?_ rfl rfl
      simp [inFlight, commands, waiting]

theorem line_of_step (taken : threads.step label = some next) :
    threads.KeepsLine next ∨
      ((∃ size, label = .capture size) ∧
        next.line = threads.line ++ [threads.captured] ∧
        next.captured = threads.captured + 1) := by
  rcases step_cases taken with moved | moved
  · exact line_of_captureMove moved
  · exact .inl (keepsLine_of_encodeMove moved)

/-- The line is in the order of capture. -/
structure InLine (threads : VideoThreads F Recorder) : Prop where
  increasing : threads.line.Pairwise (· < ·)
  captured : ∀ number ∈ threads.line, number < threads.captured

theorem inLine_step (inLine : threads.InLine)
    (taken : threads.step label = some next) : next.InLine := by
  rcases line_of_step taken with ⟨kept, captured⟩ | ⟨-, line, captured⟩
  · constructor
    · exact inLine.increasing.sublist kept
    · intro number member
      rw [captured]
      exact inLine.captured number (kept.subset member)
  · constructor
    · rw [line, List.pairwise_append]
      refine ⟨inLine.increasing, List.pairwise_singleton _ _, ?_⟩
      intro number member other isLast
      rw [List.mem_singleton.mp isLast]
      exact inLine.captured number member
    · rw [line, captured]
      intro number member
      rcases List.mem_append.mp member with earlier | isLast
      · exact Nat.lt_succ_of_lt (inLine.captured number earlier)
      · rw [List.mem_singleton.mp isLast]
        exact Nat.lt_succ_self _

/-- Frames are encoded in the order in which they were captured, each at most
once, in every interleaving of the two threads. -/
theorem encoded_increasing_along
    (execution : Transition.Execution step
      (start : VideoThreads F Recorder)) :
    execution.Along fun threads => threads.encoded.Pairwise (· < ·) := by
  have inLine : execution.Along InLine :=
    execution.along_of_kept InLine
      ⟨by simp [start, line, encoded, inFlight, commands,
          CaptureThread.start, CapturePhase.frame?],
        by simp [start, line, encoded, inFlight, commands,
          CaptureThread.start, CapturePhase.frame?]⟩
      fun _ _ _ => inLine_step
  intro taken rest threads split runs
  have first : threads.encoded.Sublist threads.line := by
    rw [line, List.append_assoc]
    exact List.sublist_append_left _ _
  exact (inLine taken rest threads split runs).increasing.sublist first

theorem captureFrame_paused (thread : CaptureThread F Recorder)
    (number : Nat) (size : Option (Nat × Nat)) :
    (thread.captureFrame number size).paused = thread.paused := by
  unfold CaptureThread.captureFrame
  split
  · rfl
  · dsimp only
    split <;> rfl
  · dsimp only
    split <;> rfl

theorem adjustQuality_paused (thread : CaptureThread F Recorder) :
    thread.adjustQuality.paused = thread.paused := by
  obtain ⟨quality, pendingQp, same⟩ := thread.adjustQuality_eq
  rw [same]

theorem command_paused (thread : CaptureThread F Recorder)
    (command : VideoCommands F Recorder) (paused : thread.paused = true)
    (other : command ≠ .resume) : (thread.command command).paused = true := by
  cases command with
  | start recorder maxWidth maxHeight frameRate =>
      simp only [CaptureThread.command]
      cases frameDurationOf frameRate <;> cases recorder <;> exact paused
  | resume => exact absurd rfl other
  | pause => rfl
  | _ => exact paused

/-- Only `Resume` ends a pause. -/
theorem paused_of_step (taken : threads.step label = some next)
    (paused : threads.capture.paused = true)
    (other : label ≠ .command .resume) : next.capture.paused = true := by
  rcases step_cases taken with moved | moved
  · cases moved with
    | command command =>
        exact command_paused _ command paused fun same =>
          other (congrArg VideoStep.command same)
    | idle | captured => exact (captureFrame_paused _ _ _).trans paused
    | offered | offerDropped => exact (adjustQuality_paused _).trans paused
    | _ => exact paused
  · cases moved <;> exact paused

/-- While paused, a step keeps the line. -/
theorem keepsLine_of_paused (taken : threads.step label = some next)
    (paused : threads.capture.paused = true) : threads.KeepsLine next := by
  rcases line_of_step taken with kept | ⟨⟨size, rfl⟩, -⟩
  · exact kept
  · simp only [step, captureStep, paused] at taken
    split at taken <;> cases taken

/-- From a pause to the next `Resume` no frame is captured, and nothing comes
to the encoder but what was in line when the pause began. -/
theorem paused_keepsLine_along (paused : threads.capture.paused = true)
    (execution : Transition.Execution step threads)
    (noResume : ∀ label ∈ execution.labels, label ≠ .command .resume) :
    execution.Along fun later => threads.KeepsLine later := by
  have along : execution.Along fun later =>
      later.capture.paused = true ∧ threads.KeepsLine later := by
    refine execution.along_of_stepsMeet ⟨paused, .refl _, rfl⟩ ?_
      fun taken label rest _ split _ => noResume label (by simp [split])
    rintro before label after - ⟨paused, line, captured⟩ other taken
    obtain ⟨line', captured'⟩ := keepsLine_of_paused taken paused
    exact ⟨paused_of_step taken paused other, line'.trans line,
      captured'.trans captured⟩
  exact fun taken rest later split runs => (along taken rest later split runs).2

/-- A frame is in the channel when the pause begins. -/
def pausedWithFrame : VideoThreads ℚ Unit :=
  let threads : VideoThreads ℚ Unit := .start
  { threads with
    capture := { threads.capture with paused := true }
    channel := some (.frame ⟨0, 16, 16⟩ false none)
    videoEncoder := some ⟨⟨16, 16, 16, 16⟩, qpDefault, true⟩
    captured := 1 }

def encodedInPause : Transition.Execution step pausedWithFrame where
  labels := [.dequeue, .command .pause, .encodeFrame true 5, .disconnect]
  final := _
  runs := rfl

theorem paused_keepsLine_encodedInPause :
    encodedInPause.Along fun later => pausedWithFrame.KeepsLine later :=
  paused_keepsLine_along rfl encodedInPause (by simp [encodedInPause])

end VideoThreads

end Rylus
