import Rylus.SessionLoad

/-!
# What one step of a session changes

Most steps do not concern the session thread.  The reader only adds to what
that thread has to handle, and the writer only moves the connection.
-/

namespace Rylus

namespace ClientSession

variable {F Capturable Recorder Chunk : Type*}

variable [F64 F] {session next : ClientSession F Capturable Recorder Chunk}
  {name : Capturable → String} {parse : String → Option (MessageInbound F)}

/-- A step that leaves alone what the session thread still has to send. -/
structure Spares (session next : ClientSession F Capturable Recorder Chunk) :
    Prop where
  inbound : next.tasks.inbound = session.tasks.inbound
  reader : next.tasks.reader = session.tasks.reader
  owed : next.owed .session = session.owed .session
  phase : next.phase = session.phase
  counted : next.counted = session.counted
  control : next.connection.control = session.connection.control
  writer : next.connection.writer = session.connection.writer
  stalled : next.stalled = session.stalled

/-- Labels of the video and encode threads, and what only adds frames of the
peer, a permit or a frame of video. -/
def SparesSession : SessionStep F Capturable Recorder Chunk → Prop
  | .receive | .forward | .endReader | .idleTimeout | .handle _ | .send _
  | .finishLoop | .join | .peerReads | .stall | .writer _ => False
  | .peerSends _ | .shutdown | .takeCommand _ | .disconnect | .video _
  | .encode _ _ | .sendVideo _ | .dropSenders => True

theorem spares_step {label : SessionStep F Capturable Recorder Chunk}
    (moved : session.step name parse label = some next)
    (elsewhere : SparesSession label) :
    session.Spares next := by
  cases label with
  | receive | forward | endReader | idleTimeout | handle | send | finishLoop
  | join | peerReads | stall | writer => exact elsewhere.elim
  | peerSends | shutdown =>
      cases moved
      exact ⟨rfl, rfl, rfl, rfl, rfl, rfl, rfl, rfl⟩
  | sendVideo | dropSenders =>
      simp only [step] at moved
      split at moved <;> cases moved
      exact ⟨rfl, rfl, rfl, rfl, rfl, rfl, rfl, rfl⟩
  | takeCommand recorder =>
      simp only [step] at moved
      split at moved
      · obtain ⟨threads, -, rfl⟩ := Option.map_eq_some_iff.mp moved
        exact ⟨rfl, rfl, by simp [setCapture], rfl, rfl, rfl, rfl, rfl⟩
      · cases moved
  | disconnect =>
      simp only [step] at moved
      split at moved
      · cases moved
      · obtain ⟨threads, -, rfl⟩ := Option.map_eq_some_iff.mp moved
        exact ⟨rfl, rfl, by simp [setCapture], rfl, rfl, rfl, rfl, rfl⟩
      · cases moved
  | video | encode =>
      simp only [step] at moved
      split at moved
      · obtain ⟨threads, -, rfl⟩ := Option.map_eq_some_iff.mp moved
        exact ⟨rfl, rfl, by simp [setCapture], rfl, rfl, rfl, rfl, rfl⟩
      · cases moved

omit [F64 F] in
/-- The reader only adds to what the session thread has to handle, and takes
no step once it has ended. -/
theorem reader_step {tasks after : SocketTasks F} {label : TaskStep}
    (isReader : label ≠ .handle)
    (moved : tasks.step parse label = some after) :
    tasks.reader.isEnded = false ∧ ∃ more,
      after.inbound ++ after.inHand =
        (tasks.inbound ++ tasks.inHand) ++ more := by
  cases SocketTasks.move_of_step moved with
  | ends isEnd | skips goesOn | forwards | stops =>
      exact ⟨rfl, [], by simp [SocketTasks.inHand]⟩
  | carries goesOn carried =>
      exact ⟨rfl, [_], by simp [SocketTasks.inHand]; rfl⟩
  | handles => exact absurd rfl isReader

omit [F64 F] in
theorem read_spec {label : TaskStep} (isReader : label ≠ .handle)
    (moved : session.read parse label = some next) :
    session.tasks.reader.isEnded = false ∧ next.owed = session.owed ∧
      next.phase = session.phase ∧ next.counted = session.counted ∧
      next.stalled = session.stalled ∧
      next.connection.control = session.connection.control ∧
      next.connection.writer = session.connection.writer ∧
      ∃ more, next.unhandled = session.unhandled ++ more := by
  obtain ⟨tasks, taken, rfl⟩ := Option.map_eq_some_iff.mp moved
  obtain ⟨reads, more, added⟩ := reader_step isReader taken
  refine ⟨reads, rfl, rfl, rfl, rfl, ?_, ?_, more.map Arrival.content, ?_⟩
  · dsimp only
    split <;> rfl
  · dsimp only
    split <;> rfl
  · simp only [unhandled, added, List.map_append]

/-- Labels of the reader task. -/
def IsReader : SessionStep F Capturable Recorder Chunk → Prop
  | .receive | .forward | .endReader | .idleTimeout => True
  | _ => False

theorem exists_read {label : SessionStep F Capturable Recorder Chunk}
    (moved : session.step name parse label = some next)
    (isReader : IsReader label) :
    ∃ taskLabel, taskLabel ≠ .handle ∧
      session.read parse taskLabel = some next := by
  cases label with
  | receive => exact ⟨.receive, by simp, moved⟩
  | forward => exact ⟨.forward, by simp, moved⟩
  | idleTimeout => exact ⟨.endReader, by simp, moved⟩
  | endReader =>
      simp only [step] at moved
      split at moved
      · exact ⟨.endReader, by simp, moved⟩
      · cases moved
  | _ => exact isReader.elim

theorem handle_spec {environment : HandlerEnvironment Capturable}
    (moved : session.step name parse (.handle environment) = some next) :
    session.phase = .running ∧ session.owed .session = [] ∧
      ∃ arrival inbound handled handler commands answer,
        session.tasks.inbound = arrival :: inbound ∧
        next = { session with
          tasks := { session.tasks with
            inbound := inbound
            handled := handled }
          handler := handler
          commands := commands
          owed := Function.update session.owed .session answer } ∧
        arrival.content.answersItself ≤ answer.length := by
  simp only [step] at moved
  split at moved
  · rename_i arrival inbound running idle waiting
    obtain ⟨tasks, taken, rfl⟩ := Option.map_eq_some_iff.mp moved
    simp only [SocketTasks.step, waiting, Option.some.injEq] at taken
    subst taken
    obtain ⟨handler, commands, answer, same, -, itself, -⟩ :=
      handleMessage_eq name
        { session with
          tasks := { session.tasks with
            inbound := inbound
            handled := session.tasks.handled ++
              SocketTasks.callsOf arrival } }
        environment arrival.content idle
    exact ⟨running, idle, arrival, inbound, _, handler, _, answer, waiting,
      same, itself⟩
  · cases moved

theorem send_spec {sender : MessageSender}
    (moved : session.step name parse (.send sender) = some next) :
    ∃ message rest connection, session.owed sender = message :: rest ∧
      session.connection.sendMessage message = some connection ∧
        next = { session with
          connection := connection
          owed := Function.update session.owed sender rest } := by
  simp only [step] at moved
  split at moved
  · rename_i message rest owes
    obtain ⟨connection, sent, rfl⟩ := Option.map_eq_some_iff.mp moved
    exact ⟨message, rest, connection, owes, sent, rfl⟩
  · cases moved

/-- A write ends the stall, and succeeds only when there is none. -/
theorem writer_spec {label : WriterStep}
    (moved : session.step name parse (.writer label) = some next) :
    ∃ connection stalled, session.connection.step label = some connection ∧
      next = { session with connection := connection, stalled := stalled } ∧
        ((∃ sent, label = .write sent) → stalled = false) ∧
        (stalled = true → session.stalled = true) ∧
        (label = .write true → session.stalled = false) := by
  cases label with
  | write sent =>
      simp only [step] at moved
      split at moved
      · cases moved
      · rename_i flows
        obtain ⟨connection, wrote, rfl⟩ := Option.map_eq_some_iff.mp moved
        refine ⟨connection, _, wrote, rfl, fun _ => Bool.eq_false_iff.mpr flows,
          fun stalled => absurd stalled flows, ?_⟩
        rintro ⟨⟩
        simpa using flows
  | drain | pollNotified | pollRecv | wake =>
      obtain ⟨connection, wrote, rfl⟩ := Option.map_eq_some_iff.mp moved
      refine ⟨connection, session.stalled, wrote, rfl, ?_, id, ?_⟩
      · rintro ⟨sent, isWrite⟩
        cases isWrite
      · rintro ⟨⟩

/-! ### The end of the session thread -/

/-- The reader has ended when the session thread leaves its loop, and the
client is counted until the thread ends. -/
structure Closing (session : ClientSession F Capturable Recorder Chunk) :
    Prop where
  reader : session.phase ≠ .running → session.tasks.reader.isEnded = true
  counted : session.phase = .ended → session.counted = false

/-- Nothing has happened to the session thread but a message. -/
def IsFrame (session next : ClientSession F Capturable Recorder Chunk) :
    Prop :=
  (session.tasks.reader.isEnded = true → next.tasks.reader.isEnded = true) ∧
    next.phase = session.phase ∧ next.counted = session.counted

/-- Only the session thread itself leaves its loop and ends. -/
theorem step_frame {label : SessionStep F Capturable Recorder Chunk}
    (moved : session.step name parse label = some next) :
    session.IsFrame next ∨
      next.phase = .joining ∧ next.tasks.reader.isEnded = true ∨
        next.tasks = session.tasks ∧ session.phase = .joining ∧
          next.phase = .ended ∧ next.counted = false := by
  cases label with
  | finishLoop =>
      simp only [step] at moved
      split at moved <;> cases moved
      rename_i reader
      refine Or.inr (Or.inl ⟨rfl, ?_⟩)
      rw [reader]
      rfl
  | join =>
      simp only [step] at moved
      split at moved <;> cases moved
      rename_i joins
      exact Or.inr (Or.inr ⟨rfl, joins.1, rfl, rfl⟩)
  | receive | forward | endReader | idleTimeout =>
      obtain ⟨taskLabel, isReader, taken⟩ := exists_read moved trivial
      obtain ⟨reads, -, phase, counted, -⟩ := read_spec isReader taken
      refine Or.inl ⟨fun ended => ?_, phase, counted⟩
      rw [reads] at ended
      cases ended
  | handle environment =>
      obtain ⟨-, -, _, _, _, _, _, _, -, rfl, -⟩ := handle_spec moved
      exact Or.inl ⟨id, rfl, rfl⟩
  | send sender =>
      obtain ⟨_, _, _, -, -, rfl⟩ := send_spec moved
      exact Or.inl ⟨id, rfl, rfl⟩
  | peerReads =>
      cases moved
      exact Or.inl ⟨id, rfl, rfl⟩
  | stall =>
      simp only [step] at moved
      split at moved <;> cases moved <;> exact Or.inl ⟨id, rfl, rfl⟩
  | writer label =>
      obtain ⟨_, _, -, rfl, -⟩ := writer_spec moved
      exact Or.inl ⟨id, rfl, rfl⟩
  | peerSends | shutdown | takeCommand | disconnect | video | encode
  | sendVideo | dropSenders =>
      have spares := spares_step moved trivial
      refine Or.inl ⟨fun ended => ?_, spares.phase, spares.counted⟩
      rw [spares.reader]
      exact ended

theorem Closing.step (closing : session.Closing)
    {label : SessionStep F Capturable Recorder Chunk}
    (moved : session.step name parse label = some next) : next.Closing := by
  rcases step_frame moved with ⟨stays, phase, counted⟩ | ⟨phase, ended⟩ |
    ⟨tasks, joining, phase, counted⟩
  · constructor
    · rw [phase]
      exact fun left => stays (closing.reader left)
    · rw [phase, counted]
      exact closing.counted
  · constructor
    · exact fun _ => ended
    · simp [phase]
  · constructor
    · intro _
      rw [tasks]
      apply closing.reader
      simp [joining]
    · exact fun _ => counted

theorem closing_start :
    (start : ClientSession F Capturable Recorder Chunk).Closing where
  reader := fun left => absurd rfl left
  counted := by
    intro ended
    cases ended

end ClientSession

end Rylus
