import Rylus.QpAgreement

/-!
# Keyframe requests survive the encode channel

A request travels from the sticky flag of the capture thread to a frame in the
channel, and from there to the encoder's own flag.  A frame may be dropped
before the channel or reach a missing encoder behind it; this file follows the
request through all of it.
-/

namespace Rylus

/-- The number of a frame on its way, and whether it asks for a keyframe. -/
def EncodeCommand.frame? : EncodeCommand → Option (Nat × Bool)
  | .frame captured keyframe _ => some (captured.number, keyframe)
  | .restart _ | .stop => none

/-- The frame that is captured and not offered to the channel yet. -/
def CapturePhase.frame? : CapturePhase → Option CapturedFrame
  | .restarting frame _ | .offering frame => some frame
  | .receiving | .stopping | .ended => none

variable {F Recorder : Type*} [F64 F]

namespace CaptureThread

/-- A decision on the quality keeps the sticky flag. -/
theorem adjustQuality_pendingKeyframe (thread : CaptureThread F Recorder) :
    thread.adjustQuality.pendingKeyframe = thread.pendingKeyframe := by
  obtain ⟨quality, pendingQp, same⟩ := thread.adjustQuality_eq
  rw [same]

/-- A dropped frame leaves its request behind. -/
theorem frameDropped_pendingKeyframe (thread : CaptureThread F Recorder) :
    thread.frameDropped.pendingKeyframe = thread.pendingKeyframe :=
  adjustQuality_pendingKeyframe _

/-- A command never takes back a request, and no frame is on its way while
it is executed. -/
theorem command_pendingKeyframe (thread : CaptureThread F Recorder)
    (command : VideoCommands F Recorder)
    (isPending : thread.pendingKeyframe = true) :
    (thread.command command).pendingKeyframe = true := by
  cases command with
  | start recorder maxWidth maxHeight frameRate =>
      simp only [CaptureThread.command]
      cases frameDurationOf frameRate <;> cases recorder <;> exact isPending
  | requestKeyframe => rfl
  | _ => exact isPending

theorem command_frame? (thread : CaptureThread F Recorder)
    (command : VideoCommands F Recorder)
    (receiving : thread.phase = .receiving) :
    (thread.command command).phase.frame? = none := by
  cases command with
  | start recorder maxWidth maxHeight frameRate =>
      simp only [CaptureThread.command]
      cases frameDurationOf frameRate <;> cases recorder <;>
        simp [receiving, CapturePhase.frame?]
  | _ => simp [CaptureThread.command, receiving, CapturePhase.frame?]

/-- Capturing yields a frame with the next number, or none. -/
theorem captureFrame_cases (thread : CaptureThread F Recorder) (number : Nat)
    (size : Option (Nat × Nat)) :
    (thread.captureFrame number size).pendingKeyframe =
        thread.pendingKeyframe ∧
      ((thread.captureFrame number size).phase = thread.phase ∨
        ∃ frame, frame.number = number ∧
          (thread.captureFrame number size).phase.frame? = some frame) := by
  unfold captureFrame
  split
  · exact ⟨rfl, .inl rfl⟩
  · dsimp only
    split <;> exact ⟨rfl, .inl rfl⟩
  · rename_i widthIn heightIn _
    refine ⟨?_, .inr ⟨⟨number, widthIn, heightIn⟩, rfl, ?_⟩⟩
    · dsimp only
      split <;> rfl
    · dsimp only
      split <;> rfl

end CaptureThread

namespace VideoThreads

variable {threads next : VideoThreads F Recorder}

/-- The frames accepted by the channel and not executed yet. -/
def inFlight (threads : VideoThreads F Recorder) : List (Nat × Bool) :=
  threads.commands.filterMap EncodeCommand.frame?

/-- The first call of `encode` for a frame captured after each request has
`force_keyframe` set. -/
def KeyframesHonoured (threads : VideoThreads F Recorder) : Prop :=
  ∀ since ∈ threads.requests, ∀ call,
    threads.encodeCalls.find? (fun call => since ≤ call.frame) = some call →
      call.forceKeyframe = true

/-- Where an open request is: on the capture thread, on the first frame in
flight that was captured after it, or, after that frame has reached a missing
encoder, on any encoder there may be. -/
inductive RequestAt (threads : VideoThreads F Recorder) (since : Nat) : Prop
  | pending (isPending : threads.capture.pendingKeyframe = true)
      (older : ∀ frame ∈ threads.inFlight, frame.1 < since)
  | onFrame (number : Nat)
      (first : threads.inFlight.find? (fun frame => since ≤ frame.1) =
        some (number, true))
  | onEncoder (newer : ∀ frame ∈ threads.inFlight, since ≤ frame.1)
      (forced : ∀ encoder, threads.videoEncoder = some encoder →
        encoder.forceKeyframe = true)

/-- A request is honoured, or open and somewhere. -/
inductive RequestState (threads : VideoThreads F Recorder) (since : Nat) :
    Prop
  | honoured (call : EncodeCall)
      (first : threads.encodeCalls.find? (fun call => since ≤ call.frame) =
        some call) (forced : call.forceKeyframe = true)
  | awaited
      (none : threads.encodeCalls.find? (fun call => since ≤ call.frame) =
        none) (isAt : threads.RequestAt since)

/-- Frames are numbered in the order they are captured, offered and
executed. -/
structure InOrder (threads : VideoThreads F Recorder) : Prop where
  latest : ∀ frame, threads.capture.phase.frame? = some frame →
    frame.number + 1 = threads.captured
  requested : ∀ since ∈ threads.requests, since ≤ threads.captured ∧
    ∀ frame, threads.capture.phase.frame? = some frame →
      since ≤ frame.number
  flying : ∀ frame ∈ threads.inFlight, frame.1 < threads.captured ∧
    ∀ offered, threads.capture.phase.frame? = some offered →
      frame.1 < offered.number
  increasing : threads.inFlight.Pairwise fun first second =>
    first.1 < second.1

/-- Frames stay in order, and every request is accounted for. -/
structure Tracked (threads : VideoThreads F Recorder) : Prop extends
    InOrder threads where
  called : ∀ call ∈ threads.encodeCalls, call.frame < threads.captured
  tracked : ∀ since ∈ threads.requests, threads.RequestState since

omit [F64 F] in
theorem Tracked.keyframesHonoured (holds : threads.Tracked) :
    threads.KeyframesHonoured := by
  intro since member call first
  cases holds.tracked since member with
  | honoured honouredCall firstCall forced =>
      rw [firstCall] at first
      cases first
      exact forced
  | awaited none isAt =>
      rw [none] at first
      cases first

theorem tracked_start : (start : VideoThreads F Recorder).Tracked where
  latest := by simp [start, CaptureThread.start, CapturePhase.frame?]
  requested := by simp [start]
  flying := by simp [start, inFlight, commands]
  increasing := by simp [start, inFlight, commands]
  called := by simp [start]
  tracked := by simp [start]

omit [F64 F] in
/-- While `encode` is not called a request is as honoured as before, or moves
while it is open. -/
theorem RequestState.of_requestAt {since : Nat}
    (isState : threads.RequestState since)
    (encodeCalls : next.encodeCalls = threads.encodeCalls)
    (moves : threads.RequestAt since → next.RequestAt since) :
    next.RequestState since := by
  cases isState with
  | honoured call first forced =>
      exact .honoured call (by rw [encodeCalls, first]) forced
  | awaited none isAt =>
      exact .awaited (by rw [encodeCalls, none]) (moves isAt)

omit [F64 F] in
/-- A request stays where it is while no frame and no call moves and no flag
is set back. -/
theorem RequestState.of_same {since : Nat}
    (isState : threads.RequestState since)
    (inFlight : next.inFlight = threads.inFlight)
    (encodeCalls : next.encodeCalls = threads.encodeCalls)
    (pending : threads.capture.pendingKeyframe = true →
      next.capture.pendingKeyframe = true)
    (forced : ∀ encoder, next.videoEncoder = some encoder →
      threads.videoEncoder = some encoder ∨ encoder.forceKeyframe = true) :
    next.RequestState since := by
  apply isState.of_requestAt encodeCalls
  intro isAt
  cases isAt with
  | pending isPending older =>
      exact .pending (pending isPending) (by rwa [inFlight])
  | onFrame number first =>
      exact .onFrame number (by rwa [inFlight])
  | onEncoder newer isForced =>
      refine .onEncoder (by rwa [inFlight]) ?_
      intro encoder isLive
      rcases forced encoder isLive with same | new
      · exact isForced encoder same
      · exact new

omit [F64 F] in
/-- A step that moves no frame, call or request, and sets no flag back. -/
theorem Tracked.of_same (holds : threads.Tracked)
    (frame : ∀ frame, next.capture.phase.frame? = some frame →
      threads.capture.phase.frame? = some frame)
    (captured : next.captured = threads.captured)
    (inFlight : next.inFlight = threads.inFlight)
    (encodeCalls : next.encodeCalls = threads.encodeCalls)
    (requests : next.requests = threads.requests)
    (pending : threads.capture.pendingKeyframe = true →
      next.capture.pendingKeyframe = true)
    (forced : ∀ encoder, next.videoEncoder = some encoder →
      threads.videoEncoder = some encoder ∨ encoder.forceKeyframe = true) :
    next.Tracked where
  latest := by
    intro offered isOffered
    rw [captured]
    exact holds.latest offered (frame offered isOffered)
  requested := by
    rw [requests, captured]
    intro since member
    obtain ⟨past, before⟩ := holds.requested since member
    exact ⟨past, fun offered isOffered =>
      before offered (frame offered isOffered)⟩
  flying := by
    rw [inFlight, captured]
    intro flying member
    obtain ⟨past, before⟩ := holds.flying flying member
    exact ⟨past, fun offered isOffered =>
      before offered (frame offered isOffered)⟩
  increasing := by
    rw [inFlight]
    exact holds.increasing
  called := by
    rw [encodeCalls, captured]
    exact holds.called
  tracked := by
    rw [requests]
    intro since member
    exact (holds.tracked since member).of_same inFlight encodeCalls pending
      forced

/-- The command `RequestKeyframe` asks for a keyframe of every frame captured
from now on. -/
theorem Tracked.requestKeyframe (holds : threads.Tracked)
    (receiving : threads.capture.phase = .receiving) :
    { threads with
      capture := threads.capture.command .requestKeyframe
      requests := threads.requests ++ [threads.captured] }.Tracked where
  latest := by
    simp [threads.capture.command_frame? .requestKeyframe receiving]
  requested := by
    intro since member
    refine ⟨?_, by
      simp [threads.capture.command_frame? .requestKeyframe receiving]⟩
    rcases List.mem_append.mp member with old | new
    · exact (holds.requested since old).1
    · exact (List.mem_singleton.mp new).le
  flying := by
    intro frame member
    exact ⟨(holds.flying frame member).1, by
      simp [threads.capture.command_frame? .requestKeyframe receiving]⟩
  increasing := holds.increasing
  called := holds.called
  tracked := by
    intro since member
    rcases List.mem_append.mp member with old | new
    · exact (holds.tracked since old).of_same rfl rfl (fun _ => rfl)
        (fun _ isLive => .inl isLive)
    · rw [List.mem_singleton.mp new]
      refine .awaited ?_ (.pending rfl fun frame member =>
        (holds.flying frame member).1)
      rw [List.find?_eq_none]
      intro call member
      simpa using holds.called call member

omit [F64 F] in
/-- A new frame is captured after every request. -/
theorem Tracked.captured (holds : threads.Tracked)
    {capture : CaptureThread F Recorder} {frame : CapturedFrame}
    (number : frame.number = threads.captured)
    (isFrame : capture.phase.frame? = some frame)
    (pending : capture.pendingKeyframe = threads.capture.pendingKeyframe) :
    { threads with
      capture := capture
      captured := threads.captured + 1 }.Tracked where
  latest := by
    intro offered isOffered
    rw [isFrame] at isOffered
    cases isOffered
    rw [number]
  requested := by
    intro since member
    have past := (holds.requested since member).1
    refine ⟨past.trans (Nat.le_succ _), ?_⟩
    intro offered isOffered
    rw [isFrame] at isOffered
    cases isOffered
    rw [number]
    exact past
  flying := by
    intro flying member
    have past := (holds.flying flying member).1
    refine ⟨past.trans (Nat.lt_succ_self _), ?_⟩
    intro offered isOffered
    rw [isFrame] at isOffered
    cases isOffered
    rw [number]
    exact past
  increasing := holds.increasing
  called := fun call member =>
    (holds.called call member).trans (Nat.lt_succ_self _)
  tracked := by
    intro since member
    exact (holds.tracked since member).of_same rfl rfl
      (fun isPending => pending.trans isPending) (fun _ isLive => .inl isLive)

omit [F64 F] in
/-- The channel takes a frame, and the pending request with it. -/
theorem Tracked.offered (holds : threads.Tracked) {frame : CapturedFrame}
    (isFrame : threads.capture.phase.frame? = some frame)
    (encodeCalls : next.encodeCalls = threads.encodeCalls)
    (videoEncoder : next.videoEncoder = threads.videoEncoder)
    (captured : next.captured = threads.captured)
    (requests : next.requests = threads.requests)
    (noFrame : next.capture.phase.frame? = none)
    (inFlight : next.inFlight = threads.inFlight ++
      [(frame.number, threads.capture.pendingKeyframe)]) :
    next.Tracked where
  latest := by simp [noFrame]
  requested := by
    rw [requests, captured]
    intro since member
    exact ⟨(holds.requested since member).1, by simp [noFrame]⟩
  flying := by
    rw [inFlight, captured]
    intro flying member
    refine ⟨?_, by simp [noFrame]⟩
    rcases List.mem_append.mp member with old | new
    · exact (holds.flying flying old).1
    · rw [List.mem_singleton.mp new]
      have latest := holds.latest frame isFrame
      omega
  increasing := by
    rw [inFlight, List.pairwise_append]
    refine ⟨holds.increasing, List.pairwise_singleton _ _, ?_⟩
    intro first isFirst second isSecond
    rw [List.mem_singleton.mp isSecond]
    exact (holds.flying first isFirst).2 frame isFrame
  called := by
    rw [encodeCalls, captured]
    exact holds.called
  tracked := by
    rw [requests]
    intro since member
    have newest : since ≤ frame.number :=
      (holds.requested since member).2 frame isFrame
    apply (holds.tracked since member).of_requestAt encodeCalls
    intro isAt
    cases isAt with
    | pending isPending older =>
        refine .onFrame frame.number ?_
        have passed : threads.inFlight.find?
            (fun frame => since ≤ frame.1) = Option.none := by
          rw [List.find?_eq_none]
          intro flying isFlying
          simpa using older flying isFlying
        rw [inFlight, List.find?_append, passed, isPending]
        simp [newest]
    | onFrame number first =>
        refine .onFrame number ?_
        rw [inFlight, List.find?_append, first]
        rfl
    | onEncoder newer forced =>
        refine .onEncoder ?_ (by rwa [videoEncoder])
        rw [inFlight]
        intro flying isFlying
        rcases List.mem_append.mp isFlying with old | new
        · exact newer flying old
        · rw [List.mem_singleton.mp new]
          exact newest

omit [F64 F] in
/-- The encode thread takes the oldest frame in flight. -/
theorem InOrder.frameTaken (holds : threads.InOrder)
    {frame : Nat × Bool}
    (inFlight : threads.inFlight = frame :: next.inFlight)
    (capture : next.capture = threads.capture)
    (captured : next.captured = threads.captured)
    (requests : next.requests = threads.requests) : next.InOrder where
  latest := by
    rw [capture, captured]
    exact holds.latest
  requested := by
    rw [capture, captured, requests]
    exact holds.requested
  flying := by
    rw [capture, captured]
    intro flying member
    apply holds.flying
    rw [inFlight]
    exact List.mem_cons_of_mem _ member
  increasing := by
    have increasing := holds.increasing
    rw [inFlight] at increasing
    exact increasing.tail

omit [F64 F] in
/-- A request made after the oldest frame in flight stays where it is when
that frame is taken. -/
theorem RequestAt.frameTaken {since number : Nat} {keyframe : Bool}
    (isAt : threads.RequestAt since)
    (inFlight : threads.inFlight = (number, keyframe) :: next.inFlight)
    (capture : next.capture = threads.capture) (unreached : ¬ since ≤ number) :
    next.RequestAt since := by
  cases isAt with
  | pending isPending older =>
      refine .pending (by rwa [capture]) ?_
      intro flying isFlying
      apply older
      rw [inFlight]
      exact List.mem_cons_of_mem _ isFlying
  | onFrame carrier first =>
      refine .onFrame carrier ?_
      rw [inFlight, List.find?_cons_of_neg (by simpa using unreached)] at first
      exact first
  | onEncoder newer forced =>
      have isNewer := newer (number, keyframe) (by
        rw [inFlight]
        exact List.mem_cons_self)
      exact absurd isNewer unreached

omit [F64 F] in
/-- The oldest frame in flight reaches a missing encoder: its request is kept
by whichever encoder is created next. -/
theorem Tracked.frameMissed (holds : threads.Tracked) {number : Nat}
    {keyframe : Bool}
    (inFlight : threads.inFlight = (number, keyframe) :: next.inFlight)
    (capture : next.capture = threads.capture)
    (encodeCalls : next.encodeCalls = threads.encodeCalls)
    (videoEncoder : next.videoEncoder = none)
    (captured : next.captured = threads.captured)
    (requests : next.requests = threads.requests) : next.Tracked where
  toInOrder := holds.toInOrder.frameTaken inFlight capture captured requests
  called := by
    rw [encodeCalls, captured]
    exact holds.called
  tracked := by
    rw [requests]
    intro since member
    have increasing := holds.increasing
    rw [inFlight, List.pairwise_cons] at increasing
    apply (holds.tracked since member).of_requestAt encodeCalls
    intro isAt
    by_cases reached : since ≤ number
    · refine .onEncoder ?_ (by simp [videoEncoder])
      intro flying isFlying
      exact reached.trans (increasing.1 flying isFlying).le
    · exact isAt.frameTaken inFlight capture reached

omit [F64 F] in
/-- The oldest frame in flight is passed to `encode`: it is the first after a
request exactly if the request is on this frame or on the encoder. -/
theorem Tracked.frameEncoded (holds : threads.Tracked) {number : Nat}
    {keyframe : Bool} {encoder : VideoEncoder}
    (isLive : threads.videoEncoder = some encoder)
    (inFlight : threads.inFlight = (number, keyframe) :: next.inFlight)
    (capture : next.capture = threads.capture)
    (encodeCalls : next.encodeCalls = threads.encodeCalls ++
      [⟨number, keyframe || encoder.forceKeyframe⟩])
    (captured : next.captured = threads.captured)
    (requests : next.requests = threads.requests) : next.Tracked where
  toInOrder := holds.toInOrder.frameTaken inFlight capture captured requests
  called := by
    rw [encodeCalls, captured]
    intro call member
    rcases List.mem_append.mp member with old | new
    · exact holds.called call old
    · rw [List.mem_singleton.mp new]
      refine (holds.flying (number, keyframe) ?_).1
      rw [inFlight]
      exact List.mem_cons_self
  tracked := by
    rw [requests]
    intro since member
    cases holds.tracked since member with
    | honoured call first forced =>
        refine .honoured call ?_ forced
        rw [encodeCalls, List.find?_append, first]
        rfl
    | awaited none isAt =>
        by_cases reached : since ≤ number
        · refine .honoured ⟨number, keyframe || encoder.forceKeyframe⟩ ?_ ?_
          · rw [encodeCalls, List.find?_append, none]
            simp [reached]
          · cases isAt with
            | pending isPending older =>
                have isOlder := older (number, keyframe) (by
                  rw [inFlight]
                  exact List.mem_cons_self)
                exact absurd reached (Nat.not_le.mpr isOlder)
            | onFrame carrier first =>
                rw [inFlight, List.find?_cons_of_pos (by simpa using reached)]
                  at first
                cases first
                rfl
            | onEncoder newer forced =>
                simp [forced encoder isLive]
        · refine .awaited ?_ ?_
          · rw [encodeCalls, List.find?_append, none]
            simpa using reached
          · exact isAt.frameTaken inFlight capture reached

theorem tracked_of_captureMove {label : VideoStep F Recorder}
    (holds : threads.Tracked) (moved : threads.CaptureMove label next) :
    next.Tracked := by
  cases moved with
  | command command receiving =>
      by_cases isRequest : command = .requestKeyframe
      · subst isRequest
        exact holds.requestKeyframe receiving
      · have noRequest : threads.noteRequest command = threads.requests := by
          cases command <;> first | rfl | exact absurd rfl isRequest
        refine holds.of_same ?_ rfl rfl rfl noRequest
          (threads.capture.command_pendingKeyframe command)
          (fun _ isLive => .inl isLive)
        simp [threads.capture.command_frame? command receiving]
  | idle size receiving stays =>
      obtain ⟨pending, -⟩ :=
        threads.capture.captureFrame_cases threads.captured size
      refine holds.of_same ?_ rfl rfl rfl rfl
        (fun isPending => pending.trans isPending)
        (fun _ isLive => .inl isLive)
      simp [stays, CapturePhase.frame?]
  | captured size receiving leaves =>
      obtain ⟨pending, same | ⟨frame, number, isFrame⟩⟩ :=
        threads.capture.captureFrame_cases threads.captured size
      · exact absurd (same.trans receiving) leaves
      · exact holds.captured number isFrame pending
  | restartLost frame size phase gone =>
      refine holds.of_same ?_ rfl rfl rfl rfl id
        (fun _ isLive => .inl isLive)
      simp [phase, CapturePhase.frame?]
  | restartSent frame size phase there room =>
      refine holds.of_same ?_ rfl ?_ rfl rfl id
        (fun _ isLive => .inl isLive)
      · simp [phase, CapturePhase.frame?]
      · simp [inFlight, commands, room, EncodeCommand.frame?]
  | offered frame phase room =>
      have isFrame : threads.capture.phase.frame? = some frame := by
        rw [phase]
        rfl
      refine holds.offered isFrame rfl rfl rfl rfl ?_ ?_
      · rw [CaptureThread.frameSent_phase]
        rfl
      · simp [inFlight, commands, room, EncodeCommand.frame?]
  | offerDropped frame phase =>
      refine holds.of_same ?_ rfl rfl rfl rfl ?_
        (fun _ isLive => .inl isLive)
      · simp [CaptureThread.frameDropped_phase, CapturePhase.frame?]
      · intro isPending
        exact threads.capture.frameDropped_pendingKeyframe.trans isPending
  | stopSent phase room =>
      refine holds.of_same ?_ rfl ?_ rfl rfl id
        (fun _ isLive => .inl isLive)
      · simp [CapturePhase.frame?]
      · simp [inFlight, commands, room, EncodeCommand.frame?]
  | offerLost | disconnected | stopLost =>
      refine holds.of_same ?_ rfl rfl rfl rfl id
        (fun _ isLive => .inl isLive)
      simp [CapturePhase.frame?]

omit [F64 F] in
/-- The frame the encode thread executes is the oldest in flight. -/
theorem inFlight_of_executing {frame : CapturedFrame} {keyframe : Bool}
    {qp : Option Nat}
    (executing : threads.encode = .executing (.frame frame keyframe qp)) :
    threads.inFlight = (frame.number, keyframe) ::
      threads.channel.toList.filterMap EncodeCommand.frame? := by
  simp [inFlight, commands, executing, EncodeCommand.frame?]

omit [F64 F] in
theorem tracked_of_encodeMove {label : VideoStep F Recorder}
    (holds : threads.Tracked) (moved : threads.EncodeMove label next) :
    next.Tracked := by
  cases moved with
  | dequeued command waiting queued =>
      refine holds.of_same (fun _ => id) rfl ?_ rfl rfl id
        (fun _ isLive => .inl isLive)
      simp [inFlight, commands, waiting, queued]
  | missed frame keyframe qp accepted nanos executing noEncoder =>
      exact holds.frameMissed (inFlight_of_executing executing) rfl rfl
        noEncoder rfl rfl
  | encoded frame keyframe qp accepted nanos encoder executing isLive =>
      exact holds.frameEncoded isLive (inFlight_of_executing executing) rfl
        rfl rfl rfl
  | restarted size opened executing =>
      refine holds.of_same (fun _ => id) rfl ?_ rfl rfl id ?_
      · simp [inFlight, commands, executing, List.filterMap_cons,
          EncodeCommand.frame?]
      · intro encoder isNew
        right
        simp only [VideoEncoder.new, Option.ite_none_right_eq_some] at isNew
        obtain ⟨-, isNew⟩ := isNew
        cases isNew
        rfl
  | stopped executing =>
      refine holds.of_same (fun _ => id) rfl ?_ rfl rfl id (by simp)
      simp [inFlight, commands, executing, List.filterMap_cons,
        EncodeCommand.frame?]
  | disconnected waiting empty =>
      refine holds.of_same (fun _ => id) rfl ?_ rfl rfl id (by simp)
      simp [inFlight, commands, waiting, empty]

/-- No keyframe request is lost: throughout an execution, the first frame
captured after a request that is passed to `encode` is forced to be a
keyframe. -/
theorem keyframesHonoured_along
    (execution : Transition.Execution step
      (start : VideoThreads F Recorder)) :
    execution.Along KeyframesHonoured := by
  intro taken rest threads _ runs
  have reached : Transition.Reachable step start threads := ⟨taken, runs⟩
  apply Tracked.keyframesHonoured
  apply reached.invariant
  · exact tracked_start
  · intro before label after holds moved
    rcases step_cases moved with captured | encoded
    · exact tracked_of_captureMove holds captured
    · exact tracked_of_encodeMove holds encoded

/-- The frame that carries the request reaches a missing encoder; the next
frame, at a new size, is still forced to be a keyframe. -/
example : ((Transition.run step (start : VideoThreads ℚ Unit)
    [.command (.start (some ()) 1920 1080 30), .command .requestKeyframe,
      .capture (some (640, 480)), .sendRestart, .dequeue,
      .restartEncoder false, .offer, .dequeue, .encodeFrame true 1000,
      .capture (some (800, 600)), .sendRestart, .dequeue,
      .restartEncoder true, .offer, .dequeue, .encodeFrame true 1000]).map
        fun threads => (threads.requests, threads.encodeCalls)) =
    some ([0], [⟨1, true⟩]) := by
  decide +kernel

end VideoThreads

end Rylus
