import Mathlib.Logic.Function.Basic
import Rylus.ClientHandler
import Rylus.SocketTasks
import Rylus.VideoThreads
import Rylus.WriterTask

/-!
# The threads and tasks of one session

The reader task, the session thread, the video and encode threads and the
writer task of one client, with everything that is on its way between them.
Three threads send control messages, and each waits in `send_message` until
the channel has room.
-/

namespace Rylus

/-- A command on its way to the video thread. -/
inductive SessionCommand (F Capturable : Type*) where
  | start (config : VideoConfig F Capturable)
  | pause
  | resume
  | restart
  | bufferHealth (bufferSecs : F)
  | requestKeyframe
  | clientRtt (rttMs : UInt32)

/-- The command with the outcome of creating a recorder for it. -/
def SessionCommand.toVideo {F Capturable Recorder : Type*}
    (recorder : Option Recorder) :
    SessionCommand F Capturable → VideoCommands F Recorder
  | .start config =>
      .start recorder config.maxWidth.toNat config.maxHeight.toNat
        config.frameRate
  | .pause => .pause
  | .resume => .resume
  | .restart => .restart
  | .bufferHealth bufferSecs => .bufferHealth bufferSecs
  | .requestKeyframe => .requestKeyframe
  | .clientRtt rttMs => .clientRtt rttMs.toNat

/-- `run` is in its loop, waits for the video thread, or has returned, after
which the session thread takes the client off `num_clients`. -/
inductive SessionPhase where
  | running
  | joining
  | ended
  deriving DecidableEq

/-- The threads with a clone of the sender. -/
inductive MessageSender where
  | session
  | video
  | encode
  deriving DecidableEq

/-- A session; `owed` are the messages that a thread is about to send.  The
socket is stalled while a write waits for the peer to read. -/
structure ClientSession (F Capturable Recorder Chunk : Type*) where
  tasks : SocketTasks F
  phase : SessionPhase
  handler : RylusClientHandler F Capturable
  commands : List (SessionCommand F Capturable)
  threads : VideoThreads F Recorder
  videoPanicked : Bool
  owed : MessageSender → List (MessageOutbound F)
  connection : Connection (MessageOutbound F) Chunk
  stalled : Bool
  permit : Bool
  counted : Bool

/-- What the handlers find in their environment. -/
structure HandlerEnvironment (Capturable : Type*) where
  capturables : List Capturable
  creation : DeviceCreation
  serverTsMs : UInt64

inductive SessionStep (F Capturable Recorder Chunk : Type*) where
  | peerSends (frame : Frame)
  | peerReads
  | stall
  | shutdown
  | receive
  | forward
  | endReader
  | idleTimeout
  | handle (environment : HandlerEnvironment Capturable)
  | send (sender : MessageSender)
  | finishLoop
  | join
  | takeCommand (recorder : Option Recorder)
  | disconnect
  | video (label : VideoStep F Recorder)
  | encode (label : VideoStep F Recorder) (codecString : String)
  | sendVideo (bytes : Chunk)
  | dropSenders
  | writer (label : WriterStep)

/-- The peer reads, sends or goes away. -/
def SessionStep.IsPeer {F Capturable Recorder Chunk : Type*} :
    SessionStep F Capturable Recorder Chunk → Prop
  | .peerSends _ | .peerReads | .writer (.write false) => True
  | _ => False

/-- `PROTOCOL_VERSION`. -/
def currentProtocolVersion : UInt32 := 3

/-- `MIN_CLIENT_PROTOCOL_VERSION`. -/
def minClientProtocolVersion : UInt32 := 2

namespace ClientSession

variable {F Capturable Recorder Chunk : Type*}

/-- `handle_hello`. -/
def helloReply (version : UInt32) : MessageOutbound F :=
  if version < minClientProtocolVersion then
    .helloNack currentProtocolVersion minClientProtocolVersion
      "Client is too old — reload the page to pick up the new bundle."
  else
    .hello currentProtocolVersion

def start [F64 F] : ClientSession F Capturable Recorder Chunk where
  tasks := .new
  phase := .running
  handler := .new
  commands := []
  threads := .start
  videoPanicked := false
  owed := fun _ => []
  connection := .new
  stalled := false
  permit := false
  counted := true

/-- `handle_video` has returned or panicked. -/
def videoEnded (session : ClientSession F Capturable Recorder Chunk) : Bool :=
  match session.threads.capture.phase with
  | .ended => (session.owed .video).isEmpty
  | _ => false

def encodeEnded (session : ClientSession F Capturable Recorder Chunk) : Bool :=
  match session.threads.encode with
  | .ended => true
  | _ => false

/-! ### The session thread -/

/-- The handler is about to send a message. -/
def reply (session : ClientSession F Capturable Recorder Chunk)
    (message : MessageOutbound F) :
    ClientSession F Capturable Recorder Chunk :=
  { session with owed := Function.update session.owed .session [message] }

/-- `video_sender.send`, which fails once the video thread is gone. -/
def post (session : ClientSession F Capturable Recorder Chunk)
    (command : SessionCommand F Capturable) :
    ClientSession F Capturable Recorder Chunk :=
  if session.videoEnded then session
  else { session with commands := session.commands ++ [command] }

/-- What the handler has sent and started on top of what it had before. -/
def setHandler (session : ClientSession F Capturable Recorder Chunk)
    (handler : RylusClientHandler F Capturable) :
    ClientSession F Capturable Recorder Chunk :=
  { session with
    handler := handler
    commands := session.commands ++
      (handler.started.drop session.handler.started.length).map .start
    owed := Function.update session.owed .session
      (handler.sent.drop session.handler.sent.length) }

/-- The `match` of `run`.  Input events reach the input device only. -/
def handleMessage (name : Capturable → String)
    (session : ClientSession F Capturable Recorder Chunk)
    (environment : HandlerEnvironment Capturable) :
    MessageInbound F → ClientSession F Capturable Recorder Chunk
  | .hello version => session.reply (helloReply version)
  | .getCapturableList =>
      session.setHandler
        (session.handler.sendCapturableList name environment.capturables)
  | .config config =>
      session.setHandler (session.handler.updateConfig config
        environment.creation (!session.videoEnded))
  | .pauseVideo => session.post .pause
  | .resumeVideo => session.post .resume
  | .restartVideo => session.post .restart
  | .bufferHealth seconds => session.post (.bufferHealth seconds)
  | .requestKeyframe => session.post .requestKeyframe
  | .clientRtt millis => session.post (.clientRtt millis)
  | .heartbeat => session.reply (.heartbeatAck environment.serverTsMs)
  | .chooseCustomInputAreas =>
      session.reply (.configError
        "Custom input areas are not available in this version.")
  | .pointerEvent _ | .batchedPointerEvents _ | .wheelEvent _
  | .keyboardEvent _ => session

/-! ### Steps -/

/-- A step of the reader task, which closes the video queue when it ends. -/
def read (parse : String → Option (MessageInbound F))
    (session : ClientSession F Capturable Recorder Chunk) (label : TaskStep) :
    Option (ClientSession F Capturable Recorder Chunk) :=
  (session.tasks.step parse label).map fun tasks =>
    { session with
      tasks := tasks
      connection :=
        if tasks.reader.isEnded then
          { session.connection with queue := session.connection.queue.close }
        else
          session.connection }

section Video

variable [F64 F]

/-- The video thread moves on and owes the messages it has just logged. -/
def setCapture (session : ClientSession F Capturable Recorder Chunk)
    (threads : VideoThreads F Recorder) :
    ClientSession F Capturable Recorder Chunk :=
  { session with
    threads := threads
    owed := Function.update session.owed .video
      (threads.capture.sent.drop session.threads.capture.sent.length) }

/-- Commands and the end of the channel come from the session, and frames are
captured while no command waits. -/
def videoAllows (session : ClientSession F Capturable Recorder Chunk) :
    VideoStep F Recorder → Bool
  | .command _ | .disconnect => false
  | .capture _ => (session.owed .video).isEmpty && session.commands.isEmpty
  | _ => (session.owed .video).isEmpty

/-- The encode thread sees the end of its channel once the video thread is
gone. -/
def encodeAllows (session : ClientSession F Capturable Recorder Chunk) :
    VideoStep F Recorder → Bool
  | .finish => (session.owed .encode).isEmpty && (session.owed .video).isEmpty
  | _ => (session.owed .encode).isEmpty

/-- `NewVideo` comes before the encoder is created, `VideoInit` after. -/
def encodeMessages (threads : VideoThreads F Recorder)
    (codecString : String) : VideoStep F Recorder → List (MessageOutbound F)
  | .dequeue =>
      match threads.encode with
      | .executing (.restart _) => [.newVideo]
      | _ => []
  | .restartEncoder _ =>
      match threads.videoEncoder with
      | some _ => [.videoInit codecString]
      | none => []
  | _ => []

/-- The encode thread has, or creates, an encoder that may write. -/
def encodes (session : ClientSession F Capturable Recorder Chunk) : Bool :=
  match session.threads.encode with
  | .executing (.restart _) => true
  | _ => session.threads.videoEncoder.isSome

def step (name : Capturable → String)
    (parse : String → Option (MessageInbound F))
    (session : ClientSession F Capturable Recorder Chunk) :
    SessionStep F Capturable Recorder Chunk →
      Option (ClientSession F Capturable Recorder Chunk)
  | .peerSends frame =>
      some { session with
        tasks := { session.tasks with
          incoming := session.tasks.incoming ++ [⟨frame, false⟩] } }
  | .peerReads => some { session with stalled := false }
  | .stall =>
      match session.connection.writer with
      | .sending _ _ | .writing _ => some { session with stalled := true }
      | _ => none
  | .shutdown => some { session with permit := true }
  | .receive => session.read parse .receive
  | .forward => session.read parse .forward
  | .endReader =>
      -- `semaphore_shutdown.acquire()` is ready
      if session.permit then session.read parse .endReader else none
  | .idleTimeout => session.read parse .endReader
  | .handle environment =>
      match session.phase, session.owed .session, session.tasks.inbound with
      | .running, [], arrival :: _ =>
          (session.tasks.step parse .handle).map fun tasks =>
            { session with tasks := tasks }.handleMessage name environment
              arrival.content
      | _, _, _ => none
  | .send sender =>
      match session.owed sender with
      | message :: rest =>
          (session.connection.sendMessage message).map fun connection =>
            { session with
              connection := connection
              owed := Function.update session.owed sender rest }
      | [] => none
  | .finishLoop =>
      match session.phase, session.owed .session, session.tasks.inbound,
          session.tasks.reader with
      | .running, [], [], .ended => some { session with phase := .joining }
      | _, _, _, _ => none
  | .join =>
      if session.phase = .joining ∧ session.videoEnded = true ∧
          (session.videoPanicked || session.encodeEnded) = true then
        some { session with phase := .ended, counted := false }
      else
        none
  | .takeCommand recorder =>
      match session.owed .video, session.commands with
      | [], command :: commands =>
          (session.threads.captureStep
            (.command (command.toVideo recorder))).map fun threads =>
              { session with
                commands := commands
                videoPanicked :=
                  match threads.capture.phase with
                  | .ended => true
                  | _ => session.videoPanicked }.setCapture threads
      | _, _ => none
  | .disconnect =>
      match session.phase, session.owed .video, session.commands with
      | .running, _, _ => none
      | _, [], [] =>
          (session.threads.captureStep .disconnect).map session.setCapture
      | _, _, _ => none
  | .video label =>
      if session.videoAllows label then
        (session.threads.captureStep label).map session.setCapture
      else
        none
  | .encode label codecString =>
      if session.encodeAllows label then
        (session.threads.encodeStep label).map fun threads =>
          { session with
            threads := threads
            owed := Function.update session.owed .encode
              (encodeMessages threads codecString label) }
      else
        none
  | .sendVideo bytes =>
      if session.encodes then
        some { session with
          connection := session.connection.sendVideo bytes }
      else
        none
  | .dropSenders =>
      if session.phase = .ended ∧ session.videoEnded = true ∧
          session.encodeEnded = true then
        some { session with
          connection := { session.connection with sendersAlive := false } }
      else
        none
  | .writer (.write sent) =>
      -- a write that waits for the peer ends only if it fails
      if session.stalled && sent then none
      else
        (session.connection.step (.write sent)).map fun connection =>
          { session with
            connection := connection
            stalled := session.stalled && sent }
  | .writer label =>
      (session.connection.step label).map fun connection =>
        { session with connection := connection }

end Video

end ClientSession

end Rylus
