import Rylus.LabelledExecution
import Rylus.VideoQueue

/-!
# The writer task of a WebSocket

The writer merges two sources: the video queue, which it drains first, and
the bounded channel of control messages.  Its `select!` polls
`notify.notified()` before `receiver_outbound.recv()`; each poll is a step of
its own, since the producers run on other threads.
-/

namespace Rylus

/-- `CHANNEL_BUFFER_SIZE`: capacity of the channel of control messages. -/
def controlBufferSize : Nat := 32

/-- What the writer puts on the socket. -/
inductive WsFrame (Message Chunk : Type*) where
  | text (message : Message)
  | binary (chunk : Chunk)
  deriving DecidableEq

/-- Where the writer stands: before a drain, writing a drained chunk with more
to come, before either poll of its `select!`, suspended there, writing a
message, or gone. -/
inductive WriterTask (Message Chunk : Type*) where
  | draining
  | sending (data : Chunk) (frames : List Chunk)
  | polling
  | receiving
  | parked
  | writing (message : Message)
  | ended
  deriving DecidableEq

/-- The outbound half of a WebSocket and the frames written so far. -/
structure Connection (Message Chunk : Type*) where
  queue : VideoQueue Chunk
  control : List Message
  sendersAlive : Bool
  writer : WriterTask Message Chunk
  written : List (WsFrame Message Chunk)

inductive WriterStep where
  | drain
  | write (sent : Bool)
  | pollNotified
  | pollRecv
  | wake

namespace Connection

variable {Message Chunk : Type*}

def new : Connection Message Chunk where
  queue := .new
  control := []
  sendersAlive := true
  writer := .draining
  written := []

/-- `send_video`: never blocks. -/
def sendVideo (connection : Connection Message Chunk) (bytes : Chunk) :
    Connection Message Chunk :=
  { connection with queue := connection.queue.push bytes }

/-- `send_message`: blocks while the channel is full, and fails, with a
warning only, once the writer is gone. -/
def sendMessage (connection : Connection Message Chunk) (message : Message) :
    Option (Connection Message Chunk) :=
  match connection.writer with
  | .ended => some connection
  | _ =>
      if connection.control.length < controlBufferSize then
        some { connection with control := connection.control ++ [message] }
      else
        none

def step (connection : Connection Message Chunk) :
    WriterStep → Option (Connection Message Chunk)
  | .drain =>
      match connection.writer with
      | .draining =>
          let (frames, queue) := connection.queue.drain
          match frames with
          | [] => some { connection with queue := queue, writer := .polling }
          | data :: frames =>
              some { connection with
                queue := queue
                writer := .sending data frames }
      | _ => none
  | .write sent =>
      match connection.writer with
      | .sending data frames =>
          if sent then
            some { connection with
              written := connection.written ++ [.binary data]
              writer :=
                match frames with
                | [] => .draining
                | data :: frames => .sending data frames }
          else
            some { connection with writer := .ended }
      | .writing message =>
          if sent then
            some { connection with
              written := connection.written ++ [.text message]
              writer := .draining }
          else
            some { connection with writer := .ended }
      | _ => none
  | .pollNotified =>
      match connection.writer with
      | .polling =>
          let (ready, notify) := connection.queue.notify.pollNotified
          let queue := { connection.queue with notify := notify }
          if ready then
            if queue.closed && queue.inner.isEmpty then
              some { connection with queue := queue, writer := .ended }
            else
              some { connection with queue := queue, writer := .draining }
          else
            some { connection with queue := queue, writer := .receiving }
      | _ => none
  | .pollRecv =>
      match connection.writer with
      | .receiving =>
          -- leaving the `select!` drops the future of `notified()`
          let queue := { connection.queue with
            notify := connection.queue.notify.dropNotified }
          match connection.control with
          | message :: control =>
              some { connection with
                queue := queue
                control := control
                writer := .writing message }
          | [] =>
              if connection.sendersAlive then
                some { connection with writer := .parked }
              else
                some { connection with queue := queue, writer := .ended }
      | _ => none
  | .wake =>
      match connection.writer with
      | .parked =>
          if connection.queue.notify.waiter = .notified ∨
              connection.control ≠ [] ∨ connection.sendersAlive = false then
            some { connection with writer := .polling }
          else
            none
      | _ => none

/-- The message taken from the channel and not written yet. -/
def inHand (connection : Connection Message Chunk) : List Message :=
  match connection.writer with
  | .writing message => [message]
  | _ => []

/-- The chunks drained and not written yet. -/
def unsent (connection : Connection Message Chunk) : List Chunk :=
  match connection.writer with
  | .sending data frames => data :: frames
  | _ => []

end Connection

/-- The messages among the frames written, in order. -/
def textsOf {Message Chunk : Type*} (written : List (WsFrame Message Chunk)) :
    List Message :=
  written.filterMap fun
    | .text message => some message
    | .binary _ => none

section TextsOf

variable {Message Chunk : Type*}

@[simp]
theorem textsOf_append (first second : List (WsFrame Message Chunk)) :
    textsOf (first ++ second) = textsOf first ++ textsOf second :=
  List.filterMap_append

@[simp]
theorem textsOf_text (message : Message) :
    textsOf [(.text message : WsFrame Message Chunk)] = [message] :=
  rfl

@[simp]
theorem textsOf_map_binary (chunks : List Chunk) :
    textsOf (chunks.map (.binary : Chunk → WsFrame Message Chunk)) = [] := by
  simp [textsOf]

end TextsOf

/-- A write to the socket is under way. -/
def WriterTask.IsWriting {Message Chunk : Type*} :
    WriterTask Message Chunk → Prop
  | .sending _ _ | .writing _ => True
  | .draining | .polling | .receiving | .parked | .ended => False

namespace Connection

variable {Message Chunk : Type*}

/-- The messages the writer has taken from the channel. -/
def received (connection : Connection Message Chunk) : List Message :=
  textsOf connection.written ++ connection.inHand

/-- The messages sent to the writer, in order. -/
def messages (connection : Connection Message Chunk) : List Message :=
  connection.received ++ connection.control

variable {connection next : Connection Message Chunk}

theorem sendMessage_spec {message : Message}
    (sent : connection.sendMessage message = some next) :
    next.queue = connection.queue ∧ next.writer = connection.writer ∧
      next.written = connection.written ∧
        (connection.writer ≠ .ended →
          next.control = connection.control ++ [message]) := by
  unfold sendMessage at sent
  split at sent
  · rename_i gone
    cases sent
    exact ⟨rfl, rfl, rfl, fun alive => absurd gone alive⟩
  · split at sent
    · cases sent
      exact ⟨rfl, rfl, rfl, fun _ => rfl⟩
    · cases sent

/-- What a step of the writer does. -/
inductive WriterMove (connection : Connection Message Chunk) :
    WriterStep → Connection Message Chunk → Prop
  | foundEmpty (draining : connection.writer = .draining)
      (empty : connection.queue.inner = []) :
      WriterMove connection .drain
        { connection with
          queue := connection.queue.drain.2
          writer := .polling }
  | drained (data : Chunk) (frames : List Chunk)
      (draining : connection.writer = .draining)
      (queued : connection.queue.inner = data :: frames) :
      WriterMove connection .drain
        { connection with
          queue := connection.queue.drain.2
          writer := .sending data frames }
  | wroteLast (data : Chunk) (sending : connection.writer = .sending data []) :
      WriterMove connection (.write true)
        { connection with
          written := connection.written ++ [.binary data]
          writer := .draining }
  | wroteChunk (data first : Chunk) (frames : List Chunk)
      (sending : connection.writer = .sending data (first :: frames)) :
      WriterMove connection (.write true)
        { connection with
          written := connection.written ++ [.binary data]
          writer := .sending first frames }
  | wroteText (message : Message)
      (writing : connection.writer = .writing message) :
      WriterMove connection (.write true)
        { connection with
          written := connection.written ++ [.text message]
          writer := .draining }
  | failed (writing : connection.writer.IsWriting) :
      WriterMove connection (.write false) { connection with writer := .ended }
  | notified (polling : connection.writer = .polling)
      (ready : connection.queue.notify.pollNotified.1 = true)
      (goesOn : ¬ (connection.queue.closed = true ∧
        connection.queue.inner = [])) :
      WriterMove connection .pollNotified
        { connection with
          queue := { connection.queue with
            notify := connection.queue.notify.pollNotified.2 }
          writer := .draining }
  | released (polling : connection.writer = .polling)
      (ready : connection.queue.notify.pollNotified.1 = true)
      (closed : connection.queue.closed = true)
      (empty : connection.queue.inner = []) :
      WriterMove connection .pollNotified
        { connection with
          queue := { connection.queue with
            notify := connection.queue.notify.pollNotified.2 }
          writer := .ended }
  | registered (polling : connection.writer = .polling)
      (notReady : connection.queue.notify.pollNotified.1 = false) :
      WriterMove connection .pollNotified
        { connection with
          queue := { connection.queue with
            notify := connection.queue.notify.pollNotified.2 }
          writer := .receiving }
  | received (message : Message) (control : List Message)
      (receiving : connection.writer = .receiving)
      (waiting : connection.control = message :: control) :
      WriterMove connection .pollRecv
        { connection with
          queue := { connection.queue with
            notify := connection.queue.notify.dropNotified }
          control := control
          writer := .writing message }
  | parks (receiving : connection.writer = .receiving)
      (alive : connection.sendersAlive = true) :
      WriterMove connection .pollRecv { connection with writer := .parked }
  | disconnected (receiving : connection.writer = .receiving)
      (gone : connection.sendersAlive = false) :
      WriterMove connection .pollRecv
        { connection with
          queue := { connection.queue with
            notify := connection.queue.notify.dropNotified }
          writer := .ended }
  | wakes (parked : connection.writer = .parked) :
      WriterMove connection .wake { connection with writer := .polling }

theorem writerMove_of_step {label : WriterStep}
    (moved : connection.step label = some next) :
    connection.WriterMove label next := by
  cases label with
  | drain =>
      simp only [step] at moved
      split at moved
      · split at moved
        · rename_i empty
          cases moved
          exact .foundEmpty ‹_› empty
        · rename_i queued
          cases moved
          exact .drained _ _ ‹_› queued
      · cases moved
  | write sent =>
      simp only [step] at moved
      split at moved
      · rename_i data frames sending
        split at moved <;> cases moved
        · rename_i isSent
          rw [isSent]
          cases frames with
          | nil => exact .wroteLast data sending
          | cons first frames => exact .wroteChunk data first frames sending
        · rename_i fails
          rw [Bool.eq_false_iff.mpr fails]
          exact .failed (by rw [sending]; trivial)
      · rename_i message writing
        split at moved <;> cases moved
        · rename_i isSent
          rw [isSent]
          exact .wroteText message writing
        · rename_i fails
          rw [Bool.eq_false_iff.mpr fails]
          exact .failed (by rw [writing]; trivial)
      · cases moved
  | pollNotified =>
      simp only [step] at moved
      split at moved
      · split at moved
        · rename_i ready
          split at moved <;> cases moved
          · rename_i finished
            simp only [Bool.and_eq_true, List.isEmpty_iff] at finished
            exact .released ‹_› ready finished.1 finished.2
          · rename_i goesOn
            simp only [Bool.and_eq_true, List.isEmpty_iff] at goesOn
            exact .notified ‹_› ready goesOn
        · rename_i notReady
          cases moved
          exact .registered ‹_› (Bool.eq_false_iff.mpr notReady)
      · cases moved
  | pollRecv =>
      simp only [step] at moved
      split at moved
      · split at moved
        · cases moved
          exact .received _ _ ‹_› ‹_›
        · split at moved <;> cases moved
          · exact .parks ‹_› ‹_›
          · rename_i gone
            exact .disconnected ‹_› (Bool.eq_false_iff.mpr gone)
      · cases moved
  | wake =>
      simp only [step] at moved
      split at moved
      · split at moved <;> cases moved
        exact .wakes ‹_›
      · cases moved

theorem step_ended (gone : connection.writer = .ended) (label : WriterStep) :
    connection.step label = none := by
  cases label <;> simp [step, gone]

/-- A writer that goes on loses no message and takes chunks only from the
queue. -/
theorem step_spec {label : WriterStep}
    (moved : connection.step label = some next) (alive : next.writer ≠ .ended) :
    next.messages = connection.messages ∧
      ∀ chunk ∈ next.queue.inner, chunk ∈ connection.queue.inner := by
  unfold messages received
  cases writerMove_of_step moved with
  | foundEmpty draining | drained _ _ draining =>
      exact ⟨by simp [inHand, draining], by simp [VideoQueue.drain]⟩
  | wroteLast _ sending | wroteChunk _ _ _ sending =>
      exact ⟨by simp [inHand, sending, textsOf], fun _ => id⟩
  | wroteText _ writing => exact ⟨by simp [inHand, writing], fun _ => id⟩
  | failed | released | disconnected => exact absurd rfl alive
  | notified polling | registered polling =>
      exact ⟨by simp [inHand, polling], fun _ => id⟩
  | received _ _ receiving waiting =>
      exact ⟨by simp [inHand, receiving, waiting], fun _ => id⟩
  | parks receiving => exact ⟨by simp [inHand, receiving], fun _ => id⟩
  | wakes parked => exact ⟨by simp [inHand, parked], fun _ => id⟩

/-- One step writes nothing, or the next drained chunk, or the message in
hand; only a drain puts new chunks before the socket. -/
theorem written_step {label : WriterStep}
    (moved : connection.step label = some next) :
    (next.written = connection.written ∧
      (next.unsent = [] ∨ label = .drain ∧ connection.inHand = [] ∧
        next.unsent = connection.queue.inner)) ∨
    (∃ data, connection.unsent = data :: next.unsent ∧
      next.written = connection.written ++ [.binary data]) ∨
    ∃ message, next.unsent = [] ∧
      next.written = connection.written ++ [.text message] := by
  cases writerMove_of_step moved with
  | drained data frames draining queued =>
      left
      exact ⟨rfl, Or.inr ⟨rfl, by simp [inHand, draining], queued.symm⟩⟩
  | wroteLast data sending | wroteChunk data _ _ sending =>
      right; left
      exact ⟨data, by simp [unsent, sending], rfl⟩
  | wroteText message =>
      right; right
      exact ⟨message, rfl, rfl⟩
  | foundEmpty | failed | notified | released | registered | received | parks
  | disconnected | wakes =>
      left
      exact ⟨rfl, Or.inl rfl⟩

/-- A drained batch can be written to the end. -/
theorem run_write (connection : Connection Message Chunk) :
    ∃ final, Transition.run step connection
        (List.replicate connection.unsent.length (.write true)) =
          some final ∧
      final.written = connection.written ++ connection.unsent.map .binary := by
  obtain ⟨queue, control, sendersAlive, writer, written⟩ := connection
  cases writer with
  | sending data frames =>
      induction frames generalizing data written with
      | nil => exact ⟨_, rfl, rfl⟩
      | cons first frames ih =>
          obtain ⟨final, finished, wrote⟩ :=
            ih (written ++ [.binary data]) first
          refine ⟨final, finished, ?_⟩
          rw [wrote]
          simp [unsent]
  | _ => exact ⟨_, rfl, by simp [unsent]⟩

end Connection

end Rylus
