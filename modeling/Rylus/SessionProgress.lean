import Rylus.SessionSteps
import Rylus.WriterWakeups

/-!
# How a session in shutdown gets on

After a shutdown permit the reader ends at its next `select!`, and the other
threads follow one after the other.  Each of them first sends what it owes.
While the socket is stalled, the channel of control messages is all the room
there is for that.
-/

namespace Rylus

/-- A step that waits neither for the peer nor for the idle timeout. -/
def SessionStep.IsPrompt {F Capturable Recorder Chunk : Type*} :
    SessionStep F Capturable Recorder Chunk → Prop
  | .peerSends _ | .peerReads | .writer (.write false) | .idleTimeout => False
  | _ => True

namespace ClientSession

variable {F Capturable Recorder Chunk : Type*}

variable [F64 F]

/-- The session can terminate without any step of the peer. -/
def CanTerminate (name : Capturable → String)
    (parse : String → Option (MessageInbound F))
    (session : ClientSession F Capturable Recorder Chunk) : Prop :=
  Transition.CanReach (step name parse) (fun label => ¬ label.IsPeer)
    Terminated session

/-- The session can terminate without any step of the peer and without the
idle timeout. -/
def CanTerminatePromptly (name : Capturable → String)
    (parse : String → Option (MessageInbound F))
    (session : ClientSession F Capturable Recorder Chunk) : Prop :=
  Transition.CanReach (step name parse) SessionStep.IsPrompt Terminated session

theorem CanTerminatePromptly.canTerminate {name : Capturable → String}
    {parse : String → Option (MessageInbound F)}
    {session : ClientSession F Capturable Recorder Chunk}
    (promptly : session.CanTerminatePromptly name parse) :
    session.CanTerminate name parse := by
  obtain ⟨labels, final, prompt, runs, terminated⟩ := promptly
  refine ⟨labels, final, ?_, runs, terminated⟩
  intro label member isPeer
  have own := prompt label member
  unfold SessionStep.IsPeer at isPeer
  split at isPeer <;> first | exact own | exact isPeer

/-- What the server has to send fits into the channel while the socket is
stalled. -/
def FitsChannel (session : ClientSession F Capturable Recorder Chunk) : Prop :=
  session.stalled = true → session.load ≤ controlBufferSize

/-- A step on the way to the end of a session. -/
structure Lowers (session next : ClientSession F Capturable Recorder Chunk) :
    Prop where
  permit : next.permit = session.permit
  stalled : next.stalled = session.stalled
  load : next.load ≤ session.load
  work : next.work < session.work

variable {session next : ClientSession F Capturable Recorder Chunk}
  {name : Capturable → String} {parse : String → Option (MessageInbound F)}

/-- A session thread that owes nothing handles the next message. -/
theorem exists_handle (running : session.phase = .running)
    (idle : session.owed .session = [])
    {arrival : Arrival (MessageInbound F)}
    {inbound : List (Arrival (MessageInbound F))}
    (waiting : session.tasks.inbound = arrival :: inbound)
    (environment : HandlerEnvironment Capturable) :
    ∃ next, session.step name parse (.handle environment) = some next ∧
      session.Lowers next := by
  let tasks : SocketTasks F :=
    { session.tasks with
      inbound := inbound
      handled := session.tasks.handled ++ SocketTasks.callsOf arrival }
  have taken : session.tasks.step parse .handle = some tasks := by
    simp [SocketTasks.step, waiting, tasks]
  obtain ⟨handler, commands, answer, same, few, -, one⟩ :=
    handleMessage_eq name { session with tasks := tasks } environment
      arrival.content idle
  refine ⟨{ session with tasks := tasks }.handleMessage name environment
    arrival.content, ?_, ?_⟩
  · simp [step, running, idle, waiting, taken]
  · rw [same]
    refine ⟨rfl, rfl, ?_, ?_⟩
    · simp only [load, owedCount, unhandled, idle, waiting, tasks, SocketTasks.inHand,
        Function.update_self, ne_eq, reduceCtorEq, not_false_eq_true,
        Function.update_of_ne, List.map_append, List.sum_append,
        List.map_cons, List.sum_cons, List.length_nil, List.cons_append]
      omega
    · simp only [work, owedCount, idle, waiting, tasks, Function.update_self, ne_eq,
        reduceCtorEq, not_false_eq_true, Function.update_of_ne,
        List.length_append, List.length_cons, List.length_nil]
      omega

omit [F64 F] in
theorem owedCount_tail (owed : MessageSender → List (MessageOutbound F))
    {sender : MessageSender} {message : MessageOutbound F}
    {rest : List (MessageOutbound F)} (owes : owed sender = message :: rest) :
    owedCount (Function.update owed sender rest) + 1 = owedCount owed := by
  cases sender <;> simp [owedCount, owes] <;> omega

/-- While the socket is not stalled the writer gets on by itself. -/
theorem run_writer (flows : session.stalled = false)
    (labels : List WriterStep) :
    Transition.run (step name parse) session (labels.map .writer) =
      (Transition.run Connection.step session.connection labels).map
        fun connection => { session with connection := connection } := by
  have lifted := Transition.run_component (step name parse) Connection.step
    (fun connection => { session with connection := connection })
    (.writer : WriterStep → SessionStep F Capturable Recorder Chunk)
  apply lifted
  intro connection label
  cases label with
  | write sent => simp [step, flows]
  | drain | pollNotified | pollRecv | wake => rfl

/-- A thread that owes a message can send it: what is owed fits, or the
writer makes room. -/
theorem exists_send (fits : session.FitsChannel) {sender : MessageSender}
    (owes : session.owed sender ≠ []) :
    ∃ labels connection rest,
      (∀ label ∈ labels, SessionStep.IsPrompt label) ∧
        Transition.run (step name parse) session labels =
          some { session with
            connection := connection
            owed := Function.update session.owed sender rest } ∧
        owedCount (Function.update session.owed sender rest) <
          owedCount session.owed ∧
        FitsChannel { session with
          connection := connection
          owed := Function.update session.owed sender rest } := by
  obtain ⟨message, rest, owes⟩ := List.exists_cons_of_ne_nil owes
  have fewer := owedCount_tail session.owed owes
  cases stalled : session.stalled with
  | true =>
      have load := fits stalled
      have room : session.connection.HasRoom := by
        right
        unfold ClientSession.load at load
        omega
      obtain ⟨connection, sent, longer⟩ :=
        Connection.exists_sendMessage room message
      refine ⟨[.send sender], connection, rest, by simp [SessionStep.IsPrompt],
        by simp [step, owes, sent, stalled], by omega, ?_⟩
      intro _
      simp only [ClientSession.load, unhandled] at load ⊢
      omega
  | false =>
      obtain ⟨labels, roomy, succeed, runs, room⟩ :=
        session.connection.canReach_hasRoom
      obtain ⟨connection, sent, -⟩ :=
        Connection.exists_sendMessage room message
      refine ⟨labels.map .writer ++ [.send sender], connection, rest, ?_, ?_,
        by omega, ?_⟩
      · intro label member
        rcases List.mem_append.mp member with isWriter | isSend
        · obtain ⟨label', isLabel, rfl⟩ := List.mem_map.mp isWriter
          have succeeds := succeed label' isLabel
          unfold SessionStep.IsPrompt
          split <;> simp_all
        · rw [List.mem_singleton.mp isSend]
          trivial
      · rw [Transition.run_append, run_writer stalled, runs]
        simp [step, owes, sent, stalled]
      · intro isStalled
        cases isStalled

/-- With a permit and an empty inbound channel the reader forwards what it
holds, or ends; once it has ended the session thread leaves its loop. -/
theorem exists_leave (running : session.phase = .running)
    (idle : session.owed .session = []) (handled : session.tasks.inbound = [])
    (permit : session.permit = true) :
    ∃ label next, SessionStep.IsPrompt label ∧
      session.step name parse label = some next ∧ session.Lowers next := by
  cases reader : session.tasks.reader with
  | reading =>
      have taken : session.tasks.step parse .endReader =
          some { session.tasks with reader := .ended } := by
        simp [SocketTasks.step, reader]
      refine ⟨.endReader, _, trivial,
        (if_pos permit).trans (congrArg (Option.map _) taken), ?_⟩
      refine ⟨rfl, rfl, ?_, ?_⟩
      · simp [load, unhandled, SocketTasks.inHand, handled, reader,
          ReaderTask.isEnded]
      · simp [work, reader]
  | forwarding arrival =>
      have taken : session.tasks.step parse .forward =
          some { session.tasks with
            reader := .reading
            inbound := [arrival] } := by
        simp [SocketTasks.step, reader, handled, channelBufferSize]
      refine ⟨.forward, _, trivial, congrArg (Option.map _) taken, ?_⟩
      refine ⟨rfl, rfl, ?_, ?_⟩
      · simp [load, unhandled, SocketTasks.inHand, handled, reader,
          ReaderTask.isEnded]
      · simp [work, reader, handled]
  | ended =>
      refine ⟨.finishLoop, { session with phase := .joining }, trivial, ?_, ?_⟩
      · simp [step, running, idle, handled, reader]
      · refine ⟨rfl, rfl, Nat.le_refl _, ?_⟩
        simp [work, running]

omit [F64 F] in
/-- A step of the threads below, with the messages it makes a thread owe. -/
theorem lowers_of_threads {sender : MessageSender}
    {messages : List (MessageOutbound F)} (idle : session.owed sender = [])
    (tasks : next.tasks = session.tasks) (phase : next.phase = session.phase)
    (connection : next.connection = session.connection)
    (permit : next.permit = session.permit)
    (stalled : next.stalled = session.stalled)
    (owes : next.owed = Function.update session.owed sender messages)
    (answers : messages.length + next.threads.answers +
      (next.commands.map SessionCommand.answers).sum ≤
        session.threads.answers +
          (session.commands.map SessionCommand.answers).sum)
    (work : messages.length + next.threads.work + 2 * next.commands.length <
      session.threads.work + 2 * session.commands.length) :
    session.Lowers next := by
  have owed : owedCount next.owed =
      owedCount session.owed + messages.length := by
    rw [owes]
    cases sender <;> simp [owedCount, idle] <;> omega
  refine ⟨permit, stalled, ?_, ?_⟩
  · simp only [load, unhandled, tasks, connection, owed]
    omega
  · simp only [ClientSession.work, tasks, phase, owed]
    omega

/-- Only `Start` makes the video thread send anything, one message, and only
it can end the thread. -/
theorem command_spec (thread : CaptureThread F Recorder)
    (command : SessionCommand F Capturable) (recorder : Option Recorder) :
    ((thread.command (command.toVideo recorder)).sent.drop
        thread.sent.length).length = command.answers ∧
      ((thread.command (command.toVideo recorder)).phase = thread.phase ∨
        (thread.command (command.toVideo recorder)).phase = .ended) := by
  cases command with
  | start config =>
      simp only [SessionCommand.toVideo, CaptureThread.command,
        SessionCommand.answers]
      cases frameDurationOf config.frameRate <;> cases recorder <;> simp
  | pause | resume | restart | bufferHealth | requestKeyframe | clientRtt =>
      simp [SessionCommand.toVideo, CaptureThread.command,
        SessionCommand.answers]

/-- A video thread that owes nothing takes the next command. -/
theorem exists_takeCommand (idle : session.owed .video = [])
    (receiving : session.threads.capture.phase = .receiving)
    {command : SessionCommand F Capturable}
    {commands : List (SessionCommand F Capturable)}
    (queued : session.commands = command :: commands) :
    ∃ next, session.step name parse (.takeCommand none) = some next ∧
      session.Lowers next := by
  obtain ⟨sends, phase⟩ :=
    command_spec session.threads.capture command (none : Option Recorder)
  let threads : VideoThreads F Recorder :=
    { session.threads with
      capture := session.threads.capture.command (command.toVideo none)
      requests := session.threads.noteRequest (command.toVideo none) }
  have taken : session.threads.captureStep
      (.command (command.toVideo none)) = some threads := by
    simp only [VideoThreads.captureStep, receiving]
    rfl
  have calm : threads.answers = session.threads.answers ∧
      threads.work ≤ session.threads.work := by
    rw [receiving] at phase
    simp only [VideoThreads.answers, VideoThreads.work, threads, receiving]
    rcases phase with same | ended
    · rw [same]
      exact ⟨rfl, Nat.le_refl _⟩
    · rw [ended]
      simp [CapturePhase.answers, CapturePhase.work]
  refine ⟨_, by simp only [step, idle, queued, taken]; rfl, ?_⟩
  refine lowers_of_threads idle rfl rfl rfl rfl rfl rfl ?_ ?_
  · show (List.drop _ threads.capture.sent).length + threads.answers + _ ≤ _
    rw [sends, calm.1, queued, List.map_cons, List.sum_cons]
    show _ + (commands.map SessionCommand.answers).sum ≤ _
    omega
  · show (List.drop _ threads.capture.sent).length + threads.work +
      2 * commands.length < _
    have one : command.answers ≤ 1 := by
      cases command <;> simp [SessionCommand.answers]
    rw [sends, queued, List.length_cons]
    omega

/-- The session thread has dropped its sender of commands. -/
theorem exists_disconnect (joining : session.phase = .joining)
    (idle : session.owed .video = [])
    (receiving : session.threads.capture.phase = .receiving)
    (empty : session.commands = []) :
    ∃ next, session.step name parse .disconnect = some next ∧
      session.Lowers next := by
  have taken : session.threads.captureStep .disconnect =
      some { session.threads with
        capture := { session.threads.capture with phase := .stopping } } := by
    simp [VideoThreads.captureStep, receiving]
  refine ⟨_, by simp only [step, joining, idle, empty, taken]; rfl, ?_⟩
  refine lowers_of_threads idle rfl rfl rfl rfl rfl rfl ?_ ?_
  · simp [setCapture, VideoThreads.answers, receiving, CapturePhase.answers]
  · simp [setCapture, VideoThreads.work, receiving, CapturePhase.work]

theorem exists_video (idle : session.owed .video = [])
    (busy : session.threads.capture.phase ≠ .receiving ∧
      session.threads.capture.phase ≠ .ended)
    (room : session.threads.channel = none ∨
      session.threads.encode = .ended) :
    ∃ label next, session.step name parse (.video label) = some next ∧
      session.Lowers next := by
  obtain ⟨label, threads, sending, taken⟩ :=
    VideoThreads.exists_sending busy room
  obtain ⟨quiet, answers, work⟩ :=
    (VideoThreads.captureMove_of_captureStep taken).quiet sending
  have allowed : session.videoAllows label = true := by
    revert sending
    cases label <;> simp [VideoThreads.IsSending, videoAllows, idle]
  refine ⟨label, session.setCapture threads, by simp [step, allowed, taken], ?_⟩
  refine lowers_of_threads idle rfl rfl rfl rfl rfl rfl ?_ ?_
  · simpa [setCapture, quiet] using answers
  · simpa [setCapture, quiet] using work

theorem exists_encode (idle : session.owed .encode = [])
    (videoIdle : session.owed .video = [])
    (alive : session.threads.encode ≠ .ended)
    (busy : session.threads.channel ≠ none ∨
      session.threads.capture.phase = .ended) :
    ∃ label next, session.step name parse (.encode label "") = some next ∧
      session.Lowers next := by
  obtain ⟨label, threads, taken⟩ := VideoThreads.exists_encodeStep alive busy
  obtain ⟨-, answers, work⟩ :=
    (VideoThreads.encodeMove_of_encodeStep taken).owes ""
  have allowed : session.encodeAllows label = true := by
    cases label <;> simp [encodeAllows, idle, videoIdle]
  refine ⟨label, _, by simp only [step, allowed, taken]; rfl, ?_⟩
  refine lowers_of_threads idle rfl rfl rfl rfl rfl rfl ?_ ?_
  · exact Nat.add_le_add_right answers _
  · exact Nat.add_lt_add_right work _

/-- Once the session thread waits for the video thread, one of the threads
below gets on, or the wait is over. -/
theorem exists_join (joining : session.phase = .joining)
    (idle : ∀ sender, session.owed sender = []) :
    ∃ label next, SessionStep.IsPrompt label ∧
      session.step name parse label = some next ∧ session.Lowers next := by
  by_cases receiving : session.threads.capture.phase = .receiving
  · cases queued : session.commands with
    | nil =>
        obtain ⟨next, moved, lowers⟩ :=
          exists_disconnect joining (idle .video) receiving queued
        exact ⟨_, next, by trivial, moved, lowers⟩
    | cons command commands =>
        obtain ⟨next, moved, lowers⟩ :=
          exists_takeCommand (idle .video) receiving queued
        exact ⟨_, next, by trivial, moved, lowers⟩
  by_cases gone : session.threads.encode = .ended
  · by_cases ended : session.threads.capture.phase = .ended
    · refine ⟨.join, { session with phase := .ended, counted := false }, trivial,
        ?_, ?_⟩
      · simp [step, joining, videoEnded, encodeEnded, ended, gone,
          idle .video]
      · refine ⟨rfl, rfl, Nat.le_refl _, ?_⟩
        simp [work, joining]
    · obtain ⟨label, next, moved, lowers⟩ :=
        exists_video (idle .video) ⟨receiving, ended⟩ (Or.inr gone)
      exact ⟨_, next, by trivial, moved, lowers⟩
  · by_cases busy : session.threads.channel ≠ none ∨
      session.threads.capture.phase = .ended
    · obtain ⟨label, next, moved, lowers⟩ :=
        exists_encode (idle .encode) (idle .video) gone busy
      exact ⟨_, next, by trivial, moved, lowers⟩
    · obtain ⟨room, ended⟩ := not_or.mp busy
      obtain ⟨label, next, moved, lowers⟩ := exists_video (idle .video)
        ⟨receiving, ended⟩ (Or.inl (not_not.mp room))
      exact ⟨_, next, by trivial, moved, lowers⟩

/-! ### Termination -/

/-- A session in shutdown that is not over gets on. -/
theorem exists_progress (permit : session.permit = true)
    (fits : session.FitsChannel) (closing : session.Closing)
    (going : ¬ session.Terminated) :
    ∃ labels next, (∀ label ∈ labels, SessionStep.IsPrompt label) ∧
      Transition.run (step name parse) session labels = some next ∧
        (next.permit = true ∧ next.FitsChannel ∧ next.Closing) ∧
          next.work < session.work := by
  have single {label : SessionStep F Capturable Recorder Chunk}
      {next : ClientSession F Capturable Recorder Chunk}
      (prompt : SessionStep.IsPrompt label)
      (moved : session.step name parse label = some next)
      (lowers : session.Lowers next) :
      ∃ labels next, (∀ label ∈ labels, SessionStep.IsPrompt label) ∧
        Transition.run (step name parse) session labels = some next ∧
          (next.permit = true ∧ next.FitsChannel ∧ next.Closing) ∧
            next.work < session.work := by
    refine ⟨[label], next, by simpa using prompt, by simp [moved],
      ⟨lowers.permit.trans permit, ?_, closing.step moved⟩, lowers.work⟩
    intro stalled
    rw [lowers.stalled] at stalled
    exact Nat.le_trans lowers.load (fits stalled)
  by_cases idle : ∀ sender, session.owed sender = []
  · cases phase : session.phase with
    | running =>
        cases waiting : session.tasks.inbound with
        | nil =>
            obtain ⟨label, next, isOwn, moved, lowers⟩ :=
              exists_leave phase (idle .session) waiting permit
            exact single isOwn moved lowers
        | cons arrival inbound =>
            obtain ⟨next, moved, lowers⟩ := exists_handle phase
              (idle .session) waiting ⟨[], ⟨none, none, none, none⟩, 0⟩
            exact single (by trivial) moved lowers
    | joining =>
        obtain ⟨label, next, isOwn, moved, lowers⟩ := exists_join phase idle
        exact single isOwn moved lowers
    | ended =>
        refine absurd ⟨closing.reader ?_, phase, closing.counted phase⟩ going
        simp [phase]
  · obtain ⟨sender, owes⟩ := not_forall.mp idle
    obtain ⟨labels, connection, rest, isOwn, runs, fewer, stillFits⟩ :=
      exists_send fits owes
    refine ⟨labels, _, isOwn, runs,
      ⟨permit, stillFits, closing.reader, closing.counted⟩, ?_⟩
    simp only [work]
    omega

/-- A session whose shutdown has begun can terminate, if what it has to send
fits into the channel while the socket is stalled. -/
theorem canTerminatePromptly (permit : session.permit = true)
    (fits : session.FitsChannel) (closing : session.Closing) :
    session.CanTerminatePromptly name parse := by
  refine Transition.canReach_of_measure
    (fun session => session.permit = true ∧ session.FitsChannel ∧
      session.Closing) work ?_ ⟨permit, fits, closing⟩
  rintro session ⟨permit, fits, closing⟩ going
  exact exists_progress permit fits closing going

end ClientSession

end Rylus
