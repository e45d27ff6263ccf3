import Rylus.VideoThreads

/-!
# Giving up on a recorder

`handle_video` drops its recorder after `maxCaptureFailures` failures in a
row.  The counter is cleared by a successful capture only, so that a new
recorder goes on counting where the recorders before it stopped.
-/

namespace Rylus

variable {F Recorder : Type*} [F64 F]

/-- The threads together with what has become of the recorders: the failures
since the last successful capture, those before the current recorder was
created (`inherited`) apart from those of the current one (`own`). -/
structure WatchedThreads (F Recorder : Type*) where
  threads : VideoThreads F Recorder
  inherited : Nat
  own : Nat

namespace CaptureThread

/-- The failure counter after a command is that before it. -/
theorem command_failures (thread : CaptureThread F Recorder)
    (command : VideoCommands F Recorder) :
    (thread.command command).consecutiveCaptureFailures =
      thread.consecutiveCaptureFailures := by
  cases command with
  | start recorder maxWidth maxHeight frameRate =>
      cases recorder <;> cases opened : frameDurationOf frameRate <;>
        simp [CaptureThread.command, opened]
  | _ => rfl

theorem captureFrame_missing {thread : CaptureThread F Recorder}
    (missing : thread.recorder = none) (number : Nat)
    (size : Option (Nat × Nat)) :
    thread.captureFrame number size = thread := by
  simp only [captureFrame, missing]

/-- The recorder and the counter after a failed capture. -/
theorem captureFrame_failed {thread : CaptureThread F Recorder}
    {recorder : Recorder} (present : thread.recorder = some recorder)
    (number : Nat) :
    (thread.captureFrame number none).consecutiveCaptureFailures =
        thread.consecutiveCaptureFailures + 1 ∧
      (thread.captureFrame number none).recorder =
        if maxCaptureFailures ≤ thread.consecutiveCaptureFailures + 1 then none
        else some recorder := by
  simp only [captureFrame, present]
  split
  · exact ⟨rfl, rfl⟩
  · exact ⟨rfl, rfl⟩

/-- The recorder and the counter after a successful capture. -/
theorem captureFrame_succeeded {thread : CaptureThread F Recorder}
    {recorder : Recorder} (present : thread.recorder = some recorder)
    (number : Nat) (size : Nat × Nat) :
    (thread.captureFrame number (some size)).consecutiveCaptureFailures = 0 ∧
      (thread.captureFrame number (some size)).recorder = some recorder := by
  simp only [captureFrame, present]
  split
  · exact ⟨rfl, rfl⟩
  · exact ⟨rfl, rfl⟩

theorem adjustQuality_failures (thread : CaptureThread F Recorder) :
    thread.adjustQuality.consecutiveCaptureFailures =
        thread.consecutiveCaptureFailures ∧
      thread.adjustQuality.recorder = thread.recorder := by
  obtain ⟨quality, pendingQp, same⟩ := thread.adjustQuality_eq
  rw [same]
  exact ⟨rfl, rfl⟩

theorem frameSent_failures (thread : CaptureThread F Recorder)
    (lastEncodeNanos : Nat) :
    (thread.frameSent lastEncodeNanos).consecutiveCaptureFailures =
        thread.consecutiveCaptureFailures ∧
      (thread.frameSent lastEncodeNanos).recorder = thread.recorder :=
  adjustQuality_failures _

theorem frameDropped_failures (thread : CaptureThread F Recorder) :
    thread.frameDropped.consecutiveCaptureFailures =
        thread.consecutiveCaptureFailures ∧
      thread.frameDropped.recorder = thread.recorder :=
  adjustQuality_failures _

end CaptureThread

namespace WatchedThreads

/-- The counts after a step that is taken at `capture`. -/
def count (watched : WatchedThreads F Recorder) :
    VideoStep F Recorder → Nat × Nat
  | .command (.start _ _ _ _) => (watched.inherited + watched.own, 0)
  | .capture size =>
      match watched.threads.capture.recorder, size with
      | some _, none => (watched.inherited, watched.own + 1)
      | some _, some _ => (0, 0)
      | none, _ => (watched.inherited, watched.own)
  | _ => (watched.inherited, watched.own)

def step (watched : WatchedThreads F Recorder)
    (label : VideoStep F Recorder) : Option (WatchedThreads F Recorder) :=
  (watched.threads.step label).map fun threads =>
    ⟨threads, (watched.count label).1, (watched.count label).2⟩

def start : WatchedThreads F Recorder :=
  ⟨.start, 0, 0⟩

/-- A capture that drops the recorder ("Screen capture lost") is the last of
enough failures in a row of this recorder. -/
def GivesUpEarned (watched : WatchedThreads F Recorder) :
    VideoStep F Recorder → Prop
  | .capture size => watched.threads.capture.recorder.isSome →
      (watched.threads.capture.captureFrame watched.threads.captured
        size).recorder = none →
      maxCaptureFailures ≤ watched.own + 1
  | _ => True

/-- When a capture fails, the recorder has inherited no failures since the
last successful capture, or these are too few together with its own. -/
def InheritsTooFew (watched : WatchedThreads F Recorder) :
    VideoStep F Recorder → Prop
  | .capture none => watched.threads.capture.recorder.isSome →
      watched.inherited = 0 ∨
        watched.inherited + (watched.own + 1) < maxCaptureFailures
  | _ => True

/-- The counter is over both kinds of failures, and a recorder is there only
as long as the counter has not led to its end. -/
structure Counted (watched : WatchedThreads F Recorder) : Prop where
  counter : watched.threads.capture.consecutiveCaptureFailures =
    watched.inherited + watched.own
  spared : watched.threads.capture.recorder.isSome → 0 < watched.own →
    watched.inherited + watched.own < maxCaptureFailures

variable {before after : WatchedThreads F Recorder}
  {label : VideoStep F Recorder}

theorem step_eq_some (taken : before.step label = some after) :
    ∃ threads, before.threads.step label = some threads ∧
      after = ⟨threads, (before.count label).1, (before.count label).2⟩ := by
  rw [step, Option.map_eq_some_iff] at taken
  obtain ⟨threads, moved, rfl⟩ := taken
  exact ⟨threads, moved, rfl⟩

omit [F64 F] in
/-- A step that leaves the recorder, the counter and the counts. -/
theorem Counted.congr (holds : before.Counted)
    (counter : after.threads.capture.consecutiveCaptureFailures =
      before.threads.capture.consecutiveCaptureFailures)
    (recorder : after.threads.capture.recorder =
      before.threads.capture.recorder)
    (inherited : after.inherited = before.inherited)
    (own : after.own = before.own) : after.Counted where
  counter := by rw [counter, inherited, own, holds.counter]
  spared := by
    rw [recorder, inherited, own]
    exact holds.spared

theorem Counted.command {command : VideoCommands F Recorder}
    {threads : VideoThreads F Recorder} (holds : before.Counted)
    (capture : threads.capture = before.threads.capture.command command) :
    Counted ⟨threads, (before.count (.command command)).1,
      (before.count (.command command)).2⟩ := by
  have failures := before.threads.capture.command_failures command
  cases command with
  | start recorder maxWidth maxHeight frameRate =>
      refine ⟨?_, fun _ positive => absurd positive (Nat.lt_irrefl 0)⟩
      rw [capture, failures]
      exact holds.counter
  | _ => exact holds.congr (by rw [capture]; rfl) (by rw [capture]; rfl) rfl rfl

theorem Counted.captureFrame {size : Option (Nat × Nat)}
    {threads : VideoThreads F Recorder} (holds : before.Counted)
    (capture : threads.capture =
      before.threads.capture.captureFrame before.threads.captured size) :
    Counted ⟨threads, (before.count (.capture size)).1,
      (before.count (.capture size)).2⟩ := by
  cases present : before.threads.capture.recorder with
  | none =>
      rw [CaptureThread.captureFrame_missing present] at capture
      refine holds.congr (by rw [capture]) (by rw [capture]) ?_ ?_
      all_goals simp only [count, present]
  | some recorder =>
      cases size with
      | none =>
          obtain ⟨counter, left⟩ := CaptureThread.captureFrame_failed present
            before.threads.captured
          simp only [count, present]
          refine ⟨?_, ?_⟩
          · rw [capture, counter, holds.counter]
            rfl
          · intro there _
            rw [capture, left, holds.counter] at there
            split at there
            · cases there
            · dsimp only
              omega
      | some size =>
          obtain ⟨counter, left⟩ := CaptureThread.captureFrame_succeeded present
            before.threads.captured size
          simp only [count, present]
          exact ⟨capture ▸ counter,
            fun _ positive => absurd positive (Nat.lt_irrefl 0)⟩

theorem Counted.kept (holds : before.Counted)
    (taken : before.step label = some after) : after.Counted := by
  obtain ⟨threads, moved, rfl⟩ := step_eq_some taken
  rcases VideoThreads.step_cases moved with moved | moved
  · cases moved with
    | command command receiving => exact holds.command rfl
    | idle size receiving stays => exact holds.captureFrame rfl
    | captured size receiving leaves => exact holds.captureFrame rfl
    | offered frame phase room =>
        obtain ⟨counter, recorder⟩ :=
          before.threads.capture.frameSent_failures
            before.threads.lastEncodeNanos
        exact holds.congr counter recorder rfl rfl
    | offerDropped frame phase =>
        obtain ⟨counter, recorder⟩ :=
          before.threads.capture.frameDropped_failures
        exact holds.congr counter recorder rfl rfl
    | _ => exact holds.congr rfl rfl rfl rfl
  · cases moved with
    | _ => exact holds.congr rfl rfl rfl rfl

/-- A recorder is dropped by failures of its own exactly if it has not
inherited those that complete the number. -/
theorem Counted.givesUpEarned_iff (holds : before.Counted) :
    before.GivesUpEarned label ↔ before.InheritsTooFew label := by
  cases label with
  | capture size =>
      cases present : before.threads.capture.recorder with
      | none =>
          cases size with
          | none => simp [GivesUpEarned, InheritsTooFew, present]
          | some size => simp [GivesUpEarned, InheritsTooFew, present]
      | some recorder =>
          cases size with
          | none =>
              have spared := holds.spared (by rw [present]; rfl)
              obtain ⟨-, left⟩ := CaptureThread.captureFrame_failed present
                before.threads.captured
              simp only [GivesUpEarned, InheritsTooFew, present, left,
                holds.counter, Option.isSome_some, true_implies]
              have several : 1 < maxCaptureFailures := by decide
              by_cases gone : maxCaptureFailures ≤
                  before.inherited + before.own + 1
              · rw [if_pos gone]
                simp only [true_implies]
                omega
              · rw [if_neg gone]
                simp only [reduceCtorEq, false_implies, true_iff]
                omega
          | some size =>
              obtain ⟨-, left⟩ := CaptureThread.captureFrame_succeeded present
                before.threads.captured size
              simp [GivesUpEarned, InheritsTooFew, left]
  | _ => exact Iff.rfl

/-- In a run of `handle_video` every recorder is given up for its own failures
only, exactly if no recorder inherits failures that complete the number. -/
theorem givesUpEarned_iff_inheritsTooFew
    (execution : Transition.Execution
      (step : WatchedThreads F Recorder → _ → _) start) :
    execution.StepsMeet GivesUpEarned ↔
      execution.StepsMeet InheritsTooFew := by
  apply execution.stepsMeet_congr
  intro before label after reached _
  have holds : before.Counted := reached.invariant
    ⟨rfl, fun there => absurd there (by simp [start, VideoThreads.start,
      CaptureThread.start])⟩
    fun _ _ _ => Counted.kept
  exact holds.givesUpEarned_iff

/-- All captures but one of the number fail, then the client starts again. -/
def startAgain : List (VideoStep ℚ Unit) :=
  .command (.start (some ()) 1920 1080 30) ::
    List.replicate 29 (.capture none) ++
      [.command (.start (some ()) 1920 1080 30)]

/-- The first failure of the second recorder is its last. -/
theorem startAgain_not_givesUpEarned :
    ∃ state, Transition.run step start startAgain = some state ∧
      (state.step (.capture none)).isSome ∧
      ¬ state.GivesUpEarned (.capture none) := by
  have observed : (Transition.run step start startAgain).any (fun state =>
      (state.step (.capture none)).isSome &&
        (state.threads.capture.recorder.isSome &&
          (state.threads.capture.captureFrame state.threads.captured
            none).recorder.isNone &&
          state.own == 0)) = true := by
    decide +kernel
  obtain ⟨state, runs, facts⟩ := (Option.any_eq_true _ _).mp observed
  simp only [Bool.and_eq_true, beq_iff_eq, Option.isNone_iff_eq_none] at facts
  obtain ⟨enabled, ⟨present, dropped⟩, noFailure⟩ := facts
  refine ⟨state, runs, enabled, ?_⟩
  intro earned
  have enough := earned present dropped
  rw [noFailure] at enough
  revert enough
  decide

end WatchedThreads

end Rylus
