import Rylus.LabelledExecution
import Rylus.Protocol

/-!
# The tasks behind one WebSocket, inbound direction

The reader task takes frames from the connection, parses text frames and
forwards the messages through a bounded channel to the session thread, where
`RylusClientHandler::run` passes each to its handler.  Every frame carries a
mark that the tasks hand on without looking at it; statements use it to say
when the frame arrived.
-/

namespace Rylus

/-- What `RylusClientHandler::run` does with messages. -/
inductive HandlerCall (Number : Type*) where
  | handleHello (protocolVersion : UInt32)
  | processPointerEvent (event : PointerEvent Number)
  | processWheelEvent (event : WheelEvent)
  | processKeyboardEvent (event : KeyboardEvent)
  | sendCapturableList
  | updateConfig (config : ClientConfiguration Number)
  | pauseVideo
  | resumeVideo
  | restartVideo
  | bufferHealth (bufferSeconds : Number)
  | requestKeyframe
  | clientRtt (rttMs : UInt32)
  | acknowledgeHeartbeat
  | refuseInputAreas
  deriving DecidableEq

/-- The calls that control the machine: input events and the configuration. -/
def HandlerCall.IsControl {Number : Type*} : HandlerCall Number → Prop
  | .processPointerEvent _ | .processWheelEvent _
  | .processKeyboardEvent _ | .updateConfig _ => True
  | _ => False

namespace MessageInbound

variable {Number : Type*}

/-- The `match` of `RylusClientHandler::run`. -/
def handlerCalls : MessageInbound Number → List (HandlerCall Number)
  | .hello version => [.handleHello version]
  | .pointerEvent event => [.processPointerEvent event]
  | .batchedPointerEvents events => events.map .processPointerEvent
  | .wheelEvent event => [.processWheelEvent event]
  | .keyboardEvent event => [.processKeyboardEvent event]
  | .getCapturableList => [.sendCapturableList]
  | .config settings => [.updateConfig settings]
  | .pauseVideo => [.pauseVideo]
  | .resumeVideo => [.resumeVideo]
  | .restartVideo => [.restartVideo]
  | .bufferHealth seconds => [.bufferHealth seconds]
  | .requestKeyframe => [.requestKeyframe]
  | .clientRtt millis => [.clientRtt millis]
  | .heartbeat => [.acknowledgeHeartbeat]
  | .chooseCustomInputAreas => [.refuseInputAreas]

/-- No handler this message reaches controls the machine. -/
def Harmless (message : MessageInbound Number) : Prop :=
  ∀ call ∈ message.handlerCalls, ¬ call.IsControl

end MessageInbound

/-- `MAX_TEXT_FRAME_SIZE`: 64 KB. -/
def maxTextFrameSize : Nat := 64 * 1024

/-- `CHANNEL_BUFFER_SIZE`: capacity of the channel to the session thread. -/
def channelBufferSize : Nat := 32

/-- What `read.next()` yields.  The end of the stream counts as an error. -/
inductive Frame where
  | text (json : String)
  | other
  | close
  | error

/-- Frames at which the reader task leaves its loop. -/
def Frame.EndsReading : Frame → Prop
  | .close | .error => True
  | _ => False

instance : (frame : Frame) → Decidable frame.EndsReading
  | .close | .error => isTrue trivial
  | .text _ | .other => isFalse id

/-- The message a frame carries: a text frame that is not too large and that
parses. -/
def Frame.message? {Number : Type*}
    (parse : String → Option (MessageInbound Number)) :
    Frame → Option (MessageInbound Number)
  | .text json =>
      if maxTextFrameSize < json.utf8ByteSize then none else parse json
  | .other | .close | .error => none

/-- Something on its way from the peer to a handler, with its mark. -/
structure Arrival (Content : Type*) where
  content : Content
  revoked : Bool
  deriving DecidableEq

/-- The reader waits for a frame, or for room in the channel. -/
inductive ReaderTask (Number : Type*) where
  | reading
  | forwarding (arrival : Arrival (MessageInbound Number))
  | ended

def ReaderTask.isEnded {Number : Type*} : ReaderTask Number → Bool
  | .ended => true
  | .reading | .forwarding _ => false

structure SocketTasks (Number : Type*) where
  reader : ReaderTask Number
  incoming : List (Arrival Frame)
  inbound : List (Arrival (MessageInbound Number))
  handled : List (Arrival (HandlerCall Number))

inductive TaskStep where
  | receive
  | forward
  | handle
  | endReader

namespace SocketTasks

variable {Number : Type*}

def new : SocketTasks Number where
  reader := .reading
  incoming := []
  inbound := []
  handled := []

/-- The reader still reads, and no frame that ends it has arrived. -/
def IsLive (tasks : SocketTasks Number) : Prop :=
  tasks.reader.isEnded = false ∧
    ∀ arrival ∈ tasks.incoming, ¬ arrival.content.EndsReading

instance (tasks : SocketTasks Number) : Decidable tasks.IsLive :=
  inferInstanceAs (Decidable (_ ∧ _))

/-- The calls one message in the channel leads to. -/
def callsOf (arrival : Arrival (MessageInbound Number)) :
    List (Arrival (HandlerCall Number)) :=
  arrival.content.handlerCalls.map fun call => ⟨call, arrival.revoked⟩

/-- One step of the reader task or of the session thread.  The reader also
ends on its own, at shutdown or after `IDLE_TIMEOUT`. -/
def step (parse : String → Option (MessageInbound Number))
    (tasks : SocketTasks Number) : TaskStep → Option (SocketTasks Number)
  | .receive =>
      match tasks.reader, tasks.incoming with
      | .reading, arrival :: incoming =>
          let tasks := { tasks with incoming := incoming }
          if arrival.content.EndsReading then
            some { tasks with reader := .ended }
          else
            match arrival.content.message? parse with
            | some message =>
                some { tasks with
                  reader := .forwarding ⟨message, arrival.revoked⟩ }
            | none => some tasks
      | _, _ => none
  | .forward =>
      match tasks.reader with
      | .forwarding arrival =>
          -- `sender_inbound.send(msg).await` waits for room
          if tasks.inbound.length < channelBufferSize then
            some { tasks with
              reader := .reading
              inbound := tasks.inbound ++ [arrival] }
          else
            none
      | _ => none
  | .handle =>
      match tasks.inbound with
      | arrival :: inbound =>
          some { tasks with
            inbound := inbound
            handled := tasks.handled ++ callsOf arrival }
      | [] => none
  | .endReader =>
      match tasks.reader with
      | .reading => some { tasks with reader := .ended }
      | _ => none

/-- What a step of the tasks is. -/
inductive Move (parse : String → Option (MessageInbound Number)) :
    SocketTasks Number → TaskStep → SocketTasks Number → Prop
  | ends {arrival incoming inbound handled}
      (isEnd : arrival.content.EndsReading) :
      Move parse ⟨.reading, arrival :: incoming, inbound, handled⟩ .receive
        ⟨.ended, incoming, inbound, handled⟩
  | carries {arrival incoming inbound handled message}
      (goesOn : ¬ arrival.content.EndsReading)
      (carried : arrival.content.message? parse = some message) :
      Move parse ⟨.reading, arrival :: incoming, inbound, handled⟩ .receive
        ⟨.forwarding ⟨message, arrival.revoked⟩, incoming, inbound, handled⟩
  | skips {arrival incoming inbound handled}
      (goesOn : ¬ arrival.content.EndsReading) :
      Move parse ⟨.reading, arrival :: incoming, inbound, handled⟩ .receive
        ⟨.reading, incoming, inbound, handled⟩
  | forwards {arrival incoming inbound handled} :
      Move parse ⟨.forwarding arrival, incoming, inbound, handled⟩ .forward
        ⟨.reading, incoming, inbound ++ [arrival], handled⟩
  | handles {reader incoming arrival inbound handled} :
      Move parse ⟨reader, incoming, arrival :: inbound, handled⟩ .handle
        ⟨reader, incoming, inbound, handled ++ callsOf arrival⟩
  | stops {incoming inbound handled} :
      Move parse ⟨.reading, incoming, inbound, handled⟩ .endReader
        ⟨.ended, incoming, inbound, handled⟩

theorem move_of_step {parse : String → Option (MessageInbound Number)}
    {tasks next : SocketTasks Number} {label : TaskStep}
    (taken : tasks.step parse label = some next) :
    Move parse tasks label next := by
  obtain ⟨reader, incoming, inbound, handled⟩ := tasks
  cases label with
  | receive =>
      simp only [step] at taken
      split at taken
      · rename_i arrival rest
        split at taken
        · rename_i isEnd
          cases taken
          exact .ends isEnd
        · rename_i goesOn
          split at taken
          · rename_i message carried
            cases taken
            exact .carries goesOn carried
          · cases taken
            exact .skips goesOn
      · cases taken
  | forward =>
      simp only [step] at taken
      split at taken
      · split at taken
        · cases taken
          exact .forwards
        · cases taken
      · cases taken
  | handle =>
      simp only [step] at taken
      split at taken
      · cases taken
        exact .handles
      · cases taken
  | endReader =>
      simp only [step] at taken
      split at taken
      · cases taken
        exact .stops
      · cases taken

/-! ### Everything received can be handled -/

theorem run_handle (parse : String → Option (MessageInbound Number))
    (tasks : SocketTasks Number) :
    Transition.run (step parse) tasks
        (List.replicate tasks.inbound.length .handle) =
      some { tasks with
        inbound := []
        handled := tasks.handled ++ tasks.inbound.flatMap callsOf } := by
  obtain ⟨reader, incoming, inbound, handled⟩ := tasks
  induction inbound generalizing handled with
  | nil => simp
  | cons arrival inbound ih =>
      simpa [List.replicate_succ, step] using ih (handled ++ callsOf arrival)

/-- The message the reader is about to put into the channel. -/
def inHand (tasks : SocketTasks Number) :
    List (Arrival (MessageInbound Number)) :=
  match tasks.reader with
  | .forwarding arrival => [arrival]
  | .reading | .ended => []

/-- A reader that has not ended can get back to reading with all messages
received so far handled. -/
theorem exists_run_reading (parse : String → Option (MessageInbound Number))
    {tasks : SocketTasks Number} (reads : tasks.reader.isEnded = false) :
    ∃ steps ready, Transition.run (step parse) tasks steps = some ready ∧
      ready.reader = .reading ∧ ready.incoming = tasks.incoming ∧
        ready.handled = tasks.handled ++
          (tasks.inbound ++ tasks.inHand).flatMap callsOf := by
  have handled := run_handle parse tasks
  obtain ⟨reader, incoming, inbound, done⟩ := tasks
  cases reader with
  | reading => exact ⟨_, _, handled, rfl, rfl, by simp [inHand]⟩
  | forwarding arrival =>
      refine ⟨List.replicate inbound.length .handle ++ [.forward, .handle],
        ⟨.reading, incoming, [], done ++
          (inbound ++ [arrival]).flatMap callsOf⟩, ?_, rfl, rfl, rfl⟩
      rw [Transition.run_append, handled]
      simp [step, channelBufferSize]
  | ended => cases reads

/-- A reader that reads takes the next frame, and goes on unless the frame
ends it. -/
theorem exists_receive (parse : String → Option (MessageInbound Number))
    (tasks : SocketTasks Number) {first : Arrival Frame}
    {rest : List (Arrival Frame)} (reads : tasks.reader = .reading)
    (queued : tasks.incoming = first :: rest)
    (goesOn : ¬ first.content.EndsReading) :
    ∃ next, tasks.step parse .receive = some next ∧
      next.reader.isEnded = false ∧ next.incoming = rest ∧
        ∀ message, first.content.message? parse = some message →
          next.inHand = [⟨message, first.revoked⟩] := by
  cases carried : first.content.message? parse with
  | none =>
      refine ⟨{ tasks with incoming := rest }, ?_, ?_, rfl, by simp⟩
      · simp [step, reads, queued, goesOn, carried]
      · simp [reads, ReaderTask.isEnded]
  | some message =>
      refine ⟨{ tasks with
        reader := .forwarding ⟨message, first.revoked⟩
        incoming := rest }, ?_, rfl, rfl, ?_⟩
      · simp [step, reads, queued, goesOn, carried]
      · rintro _ ⟨⟩
        rfl

/-- A message that arrived behind frames that do not end the reader can reach
its handlers. -/
theorem exists_run_handled (parse : String → Option (MessageInbound Number))
    (tasks : SocketTasks Number)
    {ahead : List (Arrival Frame)} {arrival : Arrival Frame}
    {message : MessageInbound Number}
    (reads : tasks.reader.isEnded = false)
    (queued : tasks.incoming = ahead ++ [arrival])
    (goesOn : ∀ other ∈ ahead, ¬ other.content.EndsReading)
    (carries : arrival.content.message? parse = some message) :
    ∃ steps final, Transition.run (step parse) tasks steps = some final ∧
      ∀ call ∈ message.handlerCalls,
        (⟨call, arrival.revoked⟩ : Arrival _) ∈ final.handled := by
  induction ahead generalizing tasks with
  | nil =>
      have goesOn : ¬ arrival.content.EndsReading := by
        intro ends
        obtain ⟨frame, revoked⟩ := arrival
        cases frame with
        | text json => exact ends
        | other => exact ends
        | close => simp [Frame.message?] at carries
        | error => simp [Frame.message?] at carries
      obtain ⟨steps, ready, settled, reading, incoming, -⟩ :=
        exists_run_reading parse reads
      obtain ⟨next, received, stillReads, -, inHand⟩ :=
        exists_receive parse ready reading (incoming.trans queued) goesOn
      obtain ⟨more, final, finished, -, -, handled⟩ :=
        exists_run_reading parse stillReads
      refine ⟨steps ++ .receive :: more, final, ?_, ?_⟩
      · rw [Transition.run_append, settled, Option.bind_some,
          Transition.run_cons, received, Option.bind_some, finished]
      · intro call member
        rw [handled, inHand message carries]
        simp [callsOf, member]
  | cons first ahead ih =>
      obtain ⟨steps, ready, settled, reading, incoming, -⟩ :=
        exists_run_reading parse reads
      obtain ⟨next, received, stillReads, shorter, -⟩ :=
        exists_receive parse ready reading (incoming.trans queued)
          (goesOn first (by simp))
      obtain ⟨more, final, finished, handled⟩ :=
        ih next stillReads shorter
        fun other member => goesOn other (by simp [member])
      refine ⟨steps ++ .receive :: more, final, ?_, handled⟩
      rw [Transition.run_append, settled, Option.bind_some,
        Transition.run_cons, received, Option.bind_some, finished]

end SocketTasks

end Rylus
