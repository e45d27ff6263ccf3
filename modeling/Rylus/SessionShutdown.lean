import Rylus.SessionProgress

/-!
# Shutdown of a session whose peer does not read

A session terminates after a shutdown permit if what it has left to send fits
into the channel while the socket is stalled.  If the session thread alone has
more to send, it never does, whatever the other threads do.
-/

namespace Rylus

namespace Connection

variable {Message Chunk : Type*} {connection next : Connection Message Chunk}

theorem length_control_step {label : WriterStep}
    (moved : connection.step label = some next) :
    next.control.length ≤ connection.control.length := by
  cases writerMove_of_step moved with
  | received message control _ waiting =>
      rw [waiting]
      exact Nat.le_succ _
  | foundEmpty | drained | wroteLast | wroteChunk | wroteText | failed
  | notified | released | registered | parks | disconnected | wakes =>
      exact Nat.le_refl _

/-- A writer that writes does nothing else. -/
theorem exists_write (writing : connection.writer.IsWriting)
    {label : WriterStep} (moved : connection.step label = some next) :
    ∃ sent, label = .write sent := by
  have elsewhere {writer : WriterTask Message Chunk}
      (stands : connection.writer = writer) : writer.IsWriting := by
    rw [← stands]
    exact writing
  cases writerMove_of_step moved with
  | wroteLast | wroteChunk | wroteText => exact ⟨true, rfl⟩
  | failed => exact ⟨false, rfl⟩
  | foundEmpty stands | drained _ _ stands | notified stands
  | released stands | registered stands | received _ _ stands | parks stands
  | disconnected stands | wakes stands => exact (elsewhere stands).elim

/-- A message that is sent has found room, or no writer. -/
theorem length_control_sendMessage {message : Message}
    (bounded : connection.control.length ≤ controlBufferSize)
    (sent : connection.sendMessage message = some next) :
    next.control.length ≤ controlBufferSize := by
  unfold sendMessage at sent
  split at sent
  · cases sent
    exact bounded
  · split at sent <;> cases sent
    rename_i room
    simp only [List.length_append, List.length_singleton]
    omega

end Connection

namespace ClientSession

variable {F Capturable Recorder Chunk : Type*}

section Shutdown

variable [F64 F] {session next : ClientSession F Capturable Recorder Chunk}
  {name : Capturable → String} {parse : String → Option (MessageInbound F)}

/-! ### What cannot be sent -/

/-- The channel is bounded, a stalled socket is one with a write under way,
and the session thread leaves its loop with everything handled. -/
structure Sound (session : ClientSession F Capturable Recorder Chunk) :
    Prop where
  closing : session.Closing
  bounded : session.connection.control.length ≤ controlBufferSize
  stalls : session.stalled = true → session.connection.writer.IsWriting
  handled : session.phase ≠ .running →
    session.tasks.inbound = [] ∧ session.owed .session = []

theorem Sound.of_spares (sound : session.Sound)
    {label : SessionStep F Capturable Recorder Chunk}
    (moved : session.step name parse label = some next)
    (spares : session.Spares next) : next.Sound := by
  refine ⟨sound.closing.step moved, ?_, ?_, ?_⟩
  · rw [spares.control]
    exact sound.bounded
  · rw [spares.stalled, spares.writer]
    exact sound.stalls
  · rw [spares.phase, spares.inbound, spares.owed]
    exact sound.handled

theorem Sound.step (sound : session.Sound)
    {label : SessionStep F Capturable Recorder Chunk}
    (moved : session.step name parse label = some next) : next.Sound := by
  have closing := sound.closing.step moved
  cases label with
  | receive | forward | endReader | idleTimeout =>
      obtain ⟨taskLabel, isReader, taken⟩ := exists_read moved trivial
      obtain ⟨reads, -, phase, -, stalled, control, writer, -⟩ :=
        read_spec isReader taken
      refine ⟨closing, by rw [control]; exact sound.bounded, ?_, ?_⟩
      · rw [stalled, writer]
        exact sound.stalls
      · intro left
        rw [phase] at left
        rw [sound.closing.reader left] at reads
        cases reads
  | handle environment =>
      obtain ⟨running, -, _, _, _, _, _, _, -, rfl, -⟩ := handle_spec moved
      exact ⟨closing, sound.bounded, sound.stalls,
        fun left => absurd running left⟩
  | send sender =>
      obtain ⟨message, rest, connection, owes, sent, rfl⟩ := send_spec moved
      obtain ⟨-, writer, -⟩ := Connection.sendMessage_spec sent
      refine ⟨closing,
        Connection.length_control_sendMessage sound.bounded sent, ?_, ?_⟩
      · rw [writer]
        exact sound.stalls
      · intro left
        obtain ⟨empty, idle⟩ := sound.handled left
        refine ⟨empty, ?_⟩
        have other : MessageSender.session ≠ sender := by
          rintro rfl
          rw [owes] at idle
          cases idle
        simpa [Function.update_of_ne other] using idle
  | finishLoop =>
      simp only [ClientSession.step] at moved
      split at moved <;> cases moved
      rename_i idle empty _
      exact ⟨closing, sound.bounded, sound.stalls, fun _ => ⟨empty, idle⟩⟩
  | join =>
      simp only [ClientSession.step] at moved
      split at moved <;> cases moved
      rename_i joins
      refine ⟨closing, sound.bounded, sound.stalls, fun _ => ?_⟩
      apply sound.handled
      simp [joins.1]
  | stall =>
      simp only [ClientSession.step] at moved
      split at moved <;> cases moved
      · rename_i sending
        refine ⟨closing, sound.bounded, fun _ => ?_, sound.handled⟩
        rw [sending]
        trivial
      · rename_i writing
        refine ⟨closing, sound.bounded, fun _ => ?_, sound.handled⟩
        rw [writing]
        trivial
  | writer label =>
      obtain ⟨connection, stalled, wrote, rfl, ends, still, -⟩ :=
        writer_spec moved
      refine ⟨closing, Nat.le_trans (Connection.length_control_step wrote)
        sound.bounded, ?_, sound.handled⟩
      intro isStalled
      have isWrite := Connection.exists_write
        (sound.stalls (still isStalled)) wrote
      rw [ends isWrite] at isStalled
      cases isStalled
  | peerReads =>
      cases moved
      refine ⟨closing, sound.bounded, ?_, sound.handled⟩
      rintro ⟨⟩
  | peerSends | shutdown | takeCommand | disconnect | video | encode
  | sendVideo | dropSenders =>
      exact sound.of_spares moved (spares_step moved trivial)

theorem sound_start :
    (start : ClientSession F Capturable Recorder Chunk).Sound where
  closing := closing_start
  bounded := Nat.zero_le _
  stalls := by
    intro stalled
    cases stalled
  handled := fun left => absurd rfl left

/-- While the socket is stalled, nothing that the session thread has to send
goes away without the peer. -/
theorem Sound.sessionLoad_le (sound : session.Sound)
    (stalled : session.stalled = true)
    {label : SessionStep F Capturable Recorder Chunk}
    (isOwn : ¬ label.IsPeer)
    (moved : session.step name parse label = some next) :
    next.stalled = true ∧ session.sessionLoad ≤ next.sessionLoad := by
  have writing := sound.stalls stalled
  cases label with
  | receive | forward | endReader | idleTimeout =>
      obtain ⟨taskLabel, isReader, taken⟩ := exists_read moved trivial
      obtain ⟨-, owed, -, -, same, control, -, more, added⟩ :=
        read_spec isReader taken
      refine ⟨same.trans stalled, ?_⟩
      simp only [sessionLoad, owed, control, added, List.map_append,
        List.sum_append]
      omega
  | handle environment =>
      obtain ⟨-, idle, arrival, inbound, handled, handler, commands, answer,
        waiting, rfl, itself⟩ := handle_spec moved
      refine ⟨stalled, ?_⟩
      simp only [sessionLoad, unhandled, SocketTasks.inHand, idle, waiting,
        Function.update_self, List.cons_append, List.map_cons, List.sum_cons,
        List.length_nil]
      omega
  | send sender =>
      obtain ⟨message, rest, connection, owes, sent, rfl⟩ := send_spec moved
      obtain ⟨-, -, -, control⟩ := Connection.sendMessage_spec sent
      have alive : session.connection.writer ≠ .ended := by
        intro ended
        rw [ended] at writing
        exact writing
      refine ⟨stalled, ?_⟩
      simp only [sessionLoad, unhandled, control alive, List.length_append,
        List.length_singleton]
      cases sender with
      | session =>
          rw [owes, Function.update_self, List.length_cons]
          omega
      | video | encode =>
          rw [Function.update_of_ne (by simp)]
          omega
  | finishLoop | join | stall =>
      simp only [ClientSession.step] at moved
      split at moved <;> cases moved <;> exact ⟨by simp [stalled], Nat.le_refl _⟩
  | writer label =>
      obtain ⟨connection, -, wrote, -, -, -, flows⟩ := writer_spec moved
      obtain ⟨sent, rfl⟩ := Connection.exists_write writing wrote
      cases sent with
      | true =>
          rw [flows rfl] at stalled
          cases stalled
      | false => exact absurd trivial isOwn
  | peerReads | peerSends => exact absurd trivial isOwn
  | shutdown | takeCommand | disconnect | video | encode | sendVideo
  | dropSenders =>
      have spares := spares_step moved trivial
      refine ⟨spares.stalled.trans stalled, Nat.le_of_eq ?_⟩
      simp only [sessionLoad, unhandled, SocketTasks.inHand, spares.inbound,
        spares.reader, spares.owed, spares.control]

omit [F64 F] in
/-- A session that has ended has sent all that its thread had to send. -/
theorem Sound.sessionLoad_of_terminated (sound : session.Sound)
    (terminated : session.Terminated) :
    session.sessionLoad ≤ controlBufferSize := by
  obtain ⟨ended, phase, -⟩ := terminated
  have left : session.phase ≠ .running := by simp [phase]
  obtain ⟨empty, idle⟩ := sound.handled left
  have inHand : session.tasks.inHand = [] := by
    unfold SocketTasks.inHand
    revert ended
    cases session.tasks.reader <;> simp [ReaderTask.isEnded]
  simpa [sessionLoad, unhandled, empty, idle, inHand] using sound.bounded

/-- While the socket is stalled, a session thread that has more to send than
the channel holds never gets to its end. -/
theorem Sound.not_canTerminate (sound : session.Sound)
    (stalled : session.stalled = true)
    (exceeds : controlBufferSize < session.sessionLoad) :
    ¬ session.CanTerminate name parse := by
  refine Transition.not_canReach_of_invariant
    (fun session => session.Sound ∧ session.stalled = true ∧
      controlBufferSize < session.sessionLoad) ?_ ?_ ⟨sound, stalled, exceeds⟩
  · rintro before label after ⟨sound, stalled, exceeds⟩ isOwn moved
    obtain ⟨still, more⟩ := sound.sessionLoad_le stalled isOwn moved
    exact ⟨sound.step moved, still, Nat.lt_of_lt_of_le exceeds more⟩
  · rintro session ⟨sound, -, exceeds⟩ terminated
    exact absurd (sound.sessionLoad_of_terminated terminated)
      (Nat.not_le_of_lt exceeds)

/-! ### Shutdown in every execution -/

/-- The reader waits for room in the channel to the session thread, the
session thread for room in the channel to the writer, and the writer for the
peer. -/
def IsBlocked (session : ClientSession F Capturable Recorder Chunk) : Prop :=
  session.tasks.inHand ≠ [] ∧
    session.tasks.inbound.length = channelBufferSize ∧
    session.owed .session ≠ [] ∧
    session.connection.control.length = controlBufferSize ∧
    session.stalled = true

instance (session : ClientSession F Capturable Recorder Chunk) :
    Decidable session.IsBlocked :=
  inferInstanceAs (Decidable (_ ∧ _))

omit [F64 F] in
theorem IsBlocked.lt_sessionLoad (blocked : session.IsBlocked) :
    controlBufferSize < session.sessionLoad := by
  obtain ⟨-, -, owes, full, -⟩ := blocked
  have some := List.length_pos_iff.mpr owes
  unfold sessionLoad
  omega

omit [F64 F] in
theorem not_isBlocked (fits : session.FitsChannel) : ¬ session.IsBlocked := by
  intro blocked
  obtain ⟨-, -, owes, full, stalled⟩ := blocked
  have load := fits stalled
  have some := List.length_pos_iff.mpr owes
  simp only [ClientSession.load, owedCount] at load
  omega

theorem sound_of_reachable
    (reached : Transition.Reachable (step name parse) start session) :
    session.Sound :=
  reached.invariant sound_start
    fun _ _ _ sound moved => sound.step moved

/-- In every state of every execution, what has to be sent while the socket
is stalled decides: if all of it fits into the channel no wait is circular and
a shutdown permit lets the session terminate without the peer and without the
idle timeout, and if the part of the session thread alone does not fit, the
session cannot terminate. -/
theorem canTerminate_along (name : Capturable → String)
    (parse : String → Option (MessageInbound F))
    (execution : Transition.Execution (step name parse)
      (start : ClientSession F Capturable Recorder Chunk)) :
    execution.Along fun session =>
      (session.FitsChannel → ¬ session.IsBlocked ∧
        (session.permit = true →
          session.CanTerminatePromptly name parse ∧
            session.CanTerminate name parse)) ∧
      (session.stalled = true → controlBufferSize < session.sessionLoad →
        ¬ session.CanTerminate name parse) := by
  intro taken rest session _ runs
  have sound : session.Sound := sound_of_reachable ⟨taken, runs⟩
  refine ⟨fun fits => ⟨not_isBlocked fits, fun permit => ?_⟩,
    fun stalled exceeds => sound.not_canTerminate stalled exceeds⟩
  have promptly : session.CanTerminatePromptly name parse :=
    canTerminatePromptly permit fits sound.closing
  exact ⟨promptly, promptly.canTerminate⟩

end Shutdown

/-! ### A peer that sends and does not read -/

/-- Only a heartbeat parses. -/
def parseHeartbeat (json : String) : Option (MessageInbound ℚ) :=
  if json = "\"Heartbeat\"" then some .heartbeat else none

/-- A heartbeat arrives and reaches the reader. -/
def heartbeatArrives : List (SessionStep ℚ Unit Unit Unit) :=
  [.peerSends (.text "\"Heartbeat\""), .receive]

/-- The session thread takes a heartbeat from the channel. -/
def heartbeatHandled : List (SessionStep ℚ Unit Unit Unit) :=
  heartbeatArrives ++ [.forward, .handle ⟨[], ⟨none, none, none, none⟩, 0⟩]

/-- The peer sends 67 heartbeats and reads none of the answers.  One answer is
being written, 32 are in the channel to the writer and one waits for room; 32
heartbeats are in the channel to the session thread and one waits for room. -/
def floodedSteps : List (SessionStep ℚ Unit Unit Unit) :=
  heartbeatHandled ++
    [.send .session, .writer .drain, .writer .pollNotified,
      .writer .pollRecv, .stall] ++
    (List.replicate 32 (heartbeatHandled ++ [.send .session])).flatten ++
    heartbeatHandled ++
    (List.replicate 32 (heartbeatArrives ++ [.forward])).flatten ++
    heartbeatArrives ++ [.shutdown]

/-- After the shutdown permit the three waits are a circle, and without the
peer the session never terminates. -/
theorem flooded_not_canTerminate :
    ∃ session, Transition.run (step (fun _ => "") parseHeartbeat) start
        floodedSteps = some session ∧
      session.permit = true ∧ session.IsBlocked ∧
        ¬ session.CanTerminate (fun _ => "") parseHeartbeat := by
  have blocks : ∃ session ∈ Transition.run
      (step (fun _ => "") parseHeartbeat) start floodedSteps,
      session.permit = true ∧ session.IsBlocked := by
    decide +kernel
  obtain ⟨session, runs, permit, blocked⟩ := blocks
  have sound : session.Sound := sound_of_reachable ⟨floodedSteps, runs⟩
  refine ⟨session, runs, permit, blocked, ?_⟩
  exact sound.not_canTerminate blocked.2.2.2.2 blocked.lt_sessionLoad

end ClientSession

end Rylus
