import Rylus.ClientSession

/-!
# What a session has left to do

Some messages of the client are answered by the session thread, a `Config`
that is accepted by the video thread, and a restart is announced by the encode
thread.  All of these answers take room in the one channel to the writer.
-/

namespace Rylus

/-- The messages a session sends because of one inbound message: an answer of
its own, or the outcome of a `Start`. -/
def MessageInbound.answers {Number : Type*} : MessageInbound Number → Nat
  | .hello _ | .getCapturableList | .config _ | .heartbeat
  | .chooseCustomInputAreas => 1
  | .pointerEvent _ | .batchedPointerEvents _ | .wheelEvent _
  | .keyboardEvent _ | .pauseVideo | .resumeVideo | .restartVideo
  | .bufferHealth _ | .requestKeyframe | .clientRtt _ => 0

/-- The session thread itself answers the message, whatever it finds. -/
def MessageInbound.answersItself {Number : Type*} :
    MessageInbound Number → Nat
  | .config _ => 0
  | message => message.answers

def SessionCommand.answers {F Capturable : Type*} :
    SessionCommand F Capturable → Nat
  | .start _ => 1
  | .pause | .resume | .restart | .bufferHealth _ | .requestKeyframe
  | .clientRtt _ => 0

/-- A restart announces a stream and, if the encoder opens, its codec. -/
def EncodeCommand.answers : EncodeCommand → Nat
  | .restart _ => 2
  | .frame _ _ _ | .stop => 0

/-- Once a restart is executed, its announcement is owed already. -/
def EncodeTask.answers : EncodeTask → Nat
  | .executing (.restart _) => 1
  | _ => 0

def CapturePhase.answers : CapturePhase → Nat
  | .restarting _ _ => 2
  | .receiving | .offering _ | .stopping | .ended => 0

/-- What a command costs the encode thread, with what it sends. -/
def EncodeCommand.work : EncodeCommand → Nat
  | .restart _ => 4
  | .frame _ _ _ | .stop => 2

def EncodeTask.work : EncodeTask → Nat
  | .executing (.restart _) => 3
  | .executing (.frame _ _ _) | .executing .stop => 2
  | .waiting => 1
  | .ended => 0

def CapturePhase.work : CapturePhase → Nat
  | .restarting _ _ => 12
  | .offering _ => 7
  | .receiving => 4
  | .stopping => 3
  | .ended => 0

namespace VideoThreads

variable {F Recorder : Type*}

/-- Messages that restarts under way lead to. -/
def answers (threads : VideoThreads F Recorder) : Nat :=
  threads.capture.phase.answers + (threads.channel.elim 0 (·.answers)) +
    threads.encode.answers

/-- What both threads have left to do when no command is left. -/
def work (threads : VideoThreads F Recorder) : Nat :=
  threads.capture.phase.work + (threads.channel.elim 0 (·.work)) +
    threads.encode.work

variable [F64 F] {threads next : VideoThreads F Recorder}
  {label : VideoStep F Recorder}

theorem sent_frameSent (thread : CaptureThread F Recorder)
    (lastEncodeNanos : Nat) :
    (thread.frameSent lastEncodeNanos).sent = thread.sent := by
  unfold CaptureThread.frameSent
  dsimp only
  obtain ⟨quality, pendingQp, same⟩ := CaptureThread.adjustQuality_eq
    { thread with
      phase := .receiving
      pendingKeyframe := false
      pendingQp := none
      quality :=
        if 0.0 < (F64.ofNat lastEncodeNanos / 1e9 : F) then
          thread.quality.recordEncodeTime (F64.ofNat lastEncodeNanos / 1e9)
        else
          thread.quality }
  rw [same]

theorem sent_frameDropped (thread : CaptureThread F Recorder) :
    thread.frameDropped.sent = thread.sent := by
  unfold CaptureThread.frameDropped
  obtain ⟨quality, pendingQp, same⟩ := CaptureThread.adjustQuality_eq
    { thread with
      phase := .receiving
      quality := thread.quality.recordEncodeTime
        (F64.asSecs thread.frameDuration) }
  rw [same]

/-- The capture thread is past its last command, or in the middle of a
frame. -/
def IsSending : VideoStep F Recorder → Prop
  | .sendRestart | .offer | .sendStop => True
  | _ => False

/-- Sending to the encode thread makes no new messages and less work. -/
theorem CaptureMove.quiet (move : threads.CaptureMove label next)
    (sending : IsSending label) :
    next.capture.sent = threads.capture.sent ∧
      next.answers ≤ threads.answers ∧ next.work < threads.work := by
  cases move with
  | command | idle | captured | disconnected => cases sending
  | restartLost frame size phase gone =>
      refine ⟨rfl, ?_, ?_⟩
      · simp [answers, phase, CapturePhase.answers]
      · simp [work, phase, CapturePhase.work]
  | restartSent frame size phase there room =>
      refine ⟨rfl, ?_, ?_⟩
      · simp [answers, phase, room, CapturePhase.answers,
          EncodeCommand.answers]
      · simp [work, phase, room, CapturePhase.work, EncodeCommand.work]
  | offerLost frame phase gone =>
      refine ⟨rfl, ?_, ?_⟩
      · simp [answers, phase, CapturePhase.answers]
      · simp [work, phase, CapturePhase.work]
  | offered frame phase room =>
      refine ⟨sent_frameSent _ _, ?_, ?_⟩
      · simp [answers, phase, room, CapturePhase.answers,
          EncodeCommand.answers, CaptureThread.frameSent_phase]
      · simp [work, phase, room, CapturePhase.work, EncodeCommand.work,
          CaptureThread.frameSent_phase]
  | offerDropped frame phase =>
      refine ⟨sent_frameDropped _, ?_, ?_⟩
      · simp [answers, phase, CapturePhase.answers,
          CaptureThread.frameDropped_phase]
      · simp [work, phase, CapturePhase.work,
          CaptureThread.frameDropped_phase]
  | stopLost phase gone =>
      refine ⟨rfl, ?_, ?_⟩
      · simp [answers, phase, CapturePhase.answers]
      · simp [work, phase, CapturePhase.work]
  | stopSent phase room =>
      refine ⟨rfl, ?_, ?_⟩
      · simp [answers, phase, room, CapturePhase.answers,
          EncodeCommand.answers]
      · simp [work, phase, room, CapturePhase.work, EncodeCommand.work]

/-- What the capture thread has to send it can send, unless it waits for
room in the channel to the encode thread. -/
theorem exists_sending
    (busy : threads.capture.phase ≠ .receiving ∧
      threads.capture.phase ≠ .ended)
    (room : threads.channel = none ∨ threads.encode = .ended) :
    ∃ label next, IsSending label ∧
      threads.captureStep label = some next := by
  cases phase : threads.capture.phase with
  | receiving => exact absurd phase busy.1
  | ended => exact absurd phase busy.2
  | restarting frame size =>
      rcases room with empty | gone
      · cases encode : threads.encode <;>
          exact ⟨.sendRestart, _, trivial, by
            simp only [captureStep, phase, encode, empty]; rfl⟩
      · exact ⟨.sendRestart, _, trivial, by
          simp only [captureStep, phase, gone]; rfl⟩
  | offering frame =>
      rcases room with empty | gone
      · cases encode : threads.encode <;>
          exact ⟨.offer, _, trivial, by
            simp only [captureStep, phase, encode, empty]; rfl⟩
      · exact ⟨.offer, _, trivial, by
          simp only [captureStep, phase, gone]; rfl⟩
  | stopping =>
      rcases room with empty | gone
      · cases encode : threads.encode <;>
          exact ⟨.sendStop, _, trivial, by
            simp only [captureStep, phase, encode, empty]; rfl⟩
      · exact ⟨.sendStop, _, trivial, by
          simp only [captureStep, phase, gone]; rfl⟩

omit [F64 F] in
/-- The encode thread gets on as long as a command waits for it or the
capture thread is gone. -/
theorem exists_encodeStep (alive : threads.encode ≠ .ended)
    (busy : threads.channel ≠ none ∨ threads.capture.phase = .ended) :
    ∃ label next, threads.encodeStep label = some next := by
  cases encode : threads.encode with
  | ended => exact absurd encode alive
  | waiting =>
      cases queued : threads.channel with
      | some command =>
          exact ⟨.dequeue, _, by simp only [encodeStep, encode, queued]; rfl⟩
      | none =>
          have gone := busy.resolve_left fun some => some queued
          exact ⟨.finish, _, by
            simp only [encodeStep, encode, queued, gone]; rfl⟩
  | executing command =>
      cases command with
      | frame frame keyframe qp =>
          cases live : threads.videoEncoder <;>
            exact ⟨.encodeFrame false 0, _, by
              simp only [encodeStep, encode, live]; rfl⟩
      | restart size =>
          exact ⟨.restartEncoder true, _, by
            simp only [encodeStep, encode]; rfl⟩
      | stop =>
          exact ⟨.finish, _, by simp only [encodeStep, encode]; rfl⟩

omit [F64 F] in
theorem length_encodeMessages_le (threads : VideoThreads F Recorder)
    (codecString : String) (label : VideoStep F Recorder) :
    (ClientSession.encodeMessages threads codecString label).length ≤ 1 := by
  unfold ClientSession.encodeMessages
  split
  · split <;> simp
  · split <;> simp
  · simp

omit [F64 F] in
/-- The encode thread owes no more than was to be expected of it. -/
theorem EncodeMove.owes (move : threads.EncodeMove label next)
    (codecString : String) :
    next.capture = threads.capture ∧
      (ClientSession.encodeMessages next codecString label).length +
        next.answers ≤ threads.answers ∧
      (ClientSession.encodeMessages next codecString label).length +
        next.work < threads.work := by
  have few := length_encodeMessages_le next codecString label
  cases move with
  | dequeued command waiting queued =>
      refine ⟨rfl, ?_, ?_⟩
      · cases command with
        | frame | stop =>
            simp only [ClientSession.encodeMessages, answers, waiting, queued,
              EncodeCommand.answers, EncodeTask.answers, Option.elim,
              List.length_nil]
            omega
        | restart size =>
            simp only [ClientSession.encodeMessages, answers, waiting, queued,
              EncodeCommand.answers, EncodeTask.answers, Option.elim,
              List.length_singleton]
            omega
      · cases command with
        | frame | stop =>
            simp only [ClientSession.encodeMessages, work, waiting, queued,
              EncodeCommand.work, EncodeTask.work, Option.elim,
              List.length_nil]
            omega
        | restart size =>
            simp only [ClientSession.encodeMessages, work, waiting, queued,
              EncodeCommand.work, EncodeTask.work, Option.elim,
              List.length_singleton]
            omega
  | missed frame keyframe qp accepted nanos executing noEncoder =>
      refine ⟨rfl, ?_, ?_⟩
      · simp [ClientSession.encodeMessages, answers, EncodeTask.answers]
      · simp [ClientSession.encodeMessages, work, executing, EncodeTask.work]
  | encoded frame keyframe qp accepted nanos encoder executing isLive =>
      refine ⟨rfl, ?_, ?_⟩
      · simp [ClientSession.encodeMessages, answers, EncodeTask.answers]
      · simp [ClientSession.encodeMessages, work, executing, EncodeTask.work]
  | restarted size opened executing =>
      refine ⟨rfl, ?_, ?_⟩
      · simp only [answers, executing, EncodeTask.answers] at few ⊢
        omega
      · simp only [work, executing, EncodeTask.work] at few ⊢
        omega
  | stopped executing =>
      refine ⟨rfl, ?_, ?_⟩
      · simp [ClientSession.encodeMessages, answers, EncodeTask.answers]
      · simp [ClientSession.encodeMessages, work, executing, EncodeTask.work]
  | disconnected waiting empty =>
      refine ⟨rfl, ?_, ?_⟩
      · simp [ClientSession.encodeMessages, answers, EncodeTask.answers]
      · simp [ClientSession.encodeMessages, work, waiting, EncodeTask.work]

end VideoThreads

namespace ClientSession

variable {F Capturable Recorder Chunk : Type*}

/-- Reader ended, session thread joined, client no longer counted. -/
def Terminated (session : ClientSession F Capturable Recorder Chunk) : Prop :=
  session.tasks.reader.isEnded = true ∧ session.phase = .ended ∧
    session.counted = false

/-- Messages that have reached the server and not the session thread. -/
def unhandled (session : ClientSession F Capturable Recorder Chunk) :
    List (MessageInbound F) :=
  (session.tasks.inbound ++ session.tasks.inHand).map Arrival.content

/-- The messages that threads wait to send. -/
def owedCount (owed : MessageSender → List (MessageOutbound F)) : Nat :=
  (owed .session).length + (owed .video).length + (owed .encode).length

/-- Messages in the outbound channel, and all that will be sent to it if
nothing new arrives. -/
def load (session : ClientSession F Capturable Recorder Chunk) : Nat :=
  session.connection.control.length + owedCount session.owed +
    (session.unhandled.map MessageInbound.answers).sum +
    (session.commands.map SessionCommand.answers).sum +
    session.threads.answers

/-- The part of it that only the session thread can send. -/
def sessionLoad (session : ClientSession F Capturable Recorder Chunk) : Nat :=
  session.connection.control.length + (session.owed .session).length +
    (session.unhandled.map MessageInbound.answersItself).sum

/-- What the threads have left to do before the session is over, with the
messages they owe. -/
def work (session : ClientSession F Capturable Recorder Chunk) : Nat :=
  (match session.phase with
    | .running => 2
    | .joining => 1
    | .ended => 0) +
  (match session.tasks.reader with
    | .forwarding _ => 6
    | .reading => 1
    | .ended => 0) +
  4 * session.tasks.inbound.length + 2 * session.commands.length +
    owedCount session.owed + session.threads.work

variable {session next : ClientSession F Capturable Recorder Chunk}

/-! ### One message -/

theorem setHandler_eq {handler : RylusClientHandler F Capturable}
    {answer : List (MessageOutbound F)}
    {started : List (VideoConfig F Capturable)}
    (sends : handler.sent = session.handler.sent ++ answer)
    (starts : handler.started = session.handler.started ++ started) :
    session.setHandler handler =
      { session with
        handler := handler
        commands := session.commands ++ started.map .start
        owed := Function.update session.owed .session answer } := by
  simp [setHandler, sends, starts]

/-- A `Config` is answered or starts the video. -/
theorem answer_or_start {handler after : RylusClientHandler F Capturable}
    {config : ClientConfiguration F} {creation : DeviceCreation}
    {videoAlive : Bool}
    (move : handler.ConfigMove config creation videoAlive after) :
    ∃ answer started, after.sent = handler.sent ++ answer ∧
      after.started = handler.started ++ started ∧
        answer.length + started.length = 1 := by
  cases move with
  | outOfRange text isOut =>
      exact ⟨[.configError text], [], rfl, by simp, rfl⟩
  | creationFails text inaccessible fails =>
      exact ⟨[.configError text], [], rfl, by simp, rfl⟩
  | started capturable device isListed chosen noFailure alive =>
      exact ⟨[], [_], by simp, rfl, rfl⟩
  | videoGone text device inRange chosen noFailure gone =>
      exact ⟨[.error text], [], rfl, by simp, rfl⟩

theorem sum_answers_start (started : List (VideoConfig F Capturable)) :
    ((started.map SessionCommand.start).map SessionCommand.answers).sum =
      started.length := by
  induction started with
  | nil => rfl
  | cons video started ih =>
      simp only [List.map_cons, List.sum_cons, ih, SessionCommand.answers,
        List.length_cons]
      omega

/-- One message of the client leads to at most one answer or one command. -/
theorem handleMessage_eq (name : Capturable → String)
    (session : ClientSession F Capturable Recorder Chunk)
    (environment : HandlerEnvironment Capturable)
    (message : MessageInbound F) (idle : session.owed .session = []) :
    ∃ handler commands answer,
      session.handleMessage name environment message =
        { session with
          handler := handler
          commands := session.commands ++ commands
          owed := Function.update session.owed .session answer } ∧
      answer.length + (commands.map SessionCommand.answers).sum ≤
        message.answers ∧
      message.answersItself ≤ answer.length ∧
      answer.length + commands.length ≤ 1 := by
  have silent : Function.update session.owed .session [] = session.owed := by
    rw [← idle, Function.update_eq_self]
  have replied (answer : MessageOutbound F) : session.reply answer =
      { session with
        commands := session.commands ++ []
        owed := Function.update session.owed .session [answer] } := by
    simp [reply]
  have posted (command : SessionCommand F Capturable)
      (quiet : command.answers = 0) :
      ∃ handler commands answer, session.post command =
        { session with
          handler := handler
          commands := session.commands ++ commands
          owed := Function.update session.owed .session answer } ∧
        answer.length + (commands.map SessionCommand.answers).sum ≤ 0 ∧
          0 ≤ answer.length ∧ answer.length + commands.length ≤ 1 := by
    unfold post
    split
    · exact ⟨session.handler, [], [], by simp [silent], by simp, by simp,
        by simp⟩
    · exact ⟨session.handler, [command], [], by simp [silent],
        by simp [quiet], by simp, by simp⟩
  cases message with
  | hello | heartbeat | chooseCustomInputAreas =>
      exact ⟨session.handler, [], _, replied _, Nat.le_refl _, Nat.le_refl _,
        Nat.le_refl _⟩
  | getCapturableList =>
      have starts : (session.handler.sendCapturableList name
          environment.capturables).started = session.handler.started ++ [] :=
        (List.append_nil _).symm
      exact ⟨_, [], [_], setHandler_eq rfl starts, Nat.le_refl _,
        Nat.le_refl _, Nat.le_refl _⟩
  | config config =>
      obtain ⟨answer, started, sends, starts, one⟩ := answer_or_start
        (session.handler.configMove_of_updateConfig config
          environment.creation (!session.videoEnded))
      refine ⟨_, started.map .start, answer, setHandler_eq sends starts, ?_,
        Nat.zero_le _, ?_⟩
      · rw [sum_answers_start]
        exact Nat.le_of_eq one
      · rw [List.length_map]
        omega
  | pauseVideo => exact posted .pause rfl
  | resumeVideo => exact posted .resume rfl
  | restartVideo => exact posted .restart rfl
  | bufferHealth seconds => exact posted (.bufferHealth seconds) rfl
  | requestKeyframe => exact posted .requestKeyframe rfl
  | clientRtt millis => exact posted (.clientRtt millis) rfl
  | pointerEvent | batchedPointerEvents | wheelEvent | keyboardEvent =>
      refine ⟨session.handler, [], [], ?_, Nat.le_refl _, Nat.le_refl _,
        Nat.zero_le _⟩
      rw [silent]
      simp [handleMessage]

end ClientSession

end Rylus
