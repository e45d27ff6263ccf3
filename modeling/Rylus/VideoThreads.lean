import Rylus.LabelledExecution
import Rylus.Protocol
import Rylus.QualityController
import Rylus.RateLimiter

/-!
# The capture thread and the encode thread

`handle_video` captures frames and hands them to `encode_thread` through a
channel of capacity one: a frame that finds the channel full is dropped, a
restart of the encoder waits for room.  A label is one atomic step of either
thread; whatever the recorder, the codec and the clock decide is part of the
label.

Frames are numbered in the order they are captured.  The numbers, the log of
calls of `VideoEncoder::encode` and the frame numbers at which keyframes were
requested influence no step.
-/

namespace Rylus

/-- What reaches the capture thread; `Start` comes with the outcome of
creating the recorder. -/
inductive VideoCommands (F Recorder : Type*) where
  | start (recorder : Option Recorder) (maxWidth maxHeight : Nat)
      (frameRate : F)
  | pause
  | resume
  | restart
  | bufferHealth (bufferSecs : F)
  | requestKeyframe
  | clientRtt (rttMs : Nat)

structure CapturedFrame where
  number : Nat
  widthIn : Nat
  heightIn : Nat
  deriving DecidableEq

structure EncoderSize where
  widthIn : Nat
  heightIn : Nat
  widthOut : Nat
  heightOut : Nat
  deriving DecidableEq

inductive EncodeCommand where
  | frame (frame : CapturedFrame) (keyframe : Bool) (qp : Option Nat)
  | restart (size : EncoderSize)
  | stop

/-- The parts of a `VideoEncoder` that the threads set. -/
structure VideoEncoder where
  size : EncoderSize
  qp : Nat
  forceKeyframe : Bool

namespace VideoEncoder

/-- `VideoEncoder::new` rounds the output down to even numbers and rejects
what is left of a line or less; otherwise the codec decides. -/
def canOpen (size : EncoderSize) : Bool :=
  1 < size.widthOut - size.widthOut % 2 &&
    1 < size.heightOut - size.heightOut % 2

/-- A new encoder; its first frame is a keyframe. -/
def new (size : EncoderSize) (opened : Bool) : Option VideoEncoder :=
  if canOpen size && opened then some ⟨size, qpDefault, true⟩ else none

def setQuality (encoder : VideoEncoder) (qp : Nat) : VideoEncoder :=
  { encoder with qp := min qp 51 }

def requestKeyframe (encoder : VideoEncoder) : VideoEncoder :=
  { encoder with forceKeyframe := true }

end VideoEncoder

/-- `handle_video` waits for a command or the next frame, sends `Restart`
for a frame, offers a frame, sends `Stop`, or has returned. -/
inductive CapturePhase where
  | receiving
  | restarting (frame : CapturedFrame) (size : EncoderSize)
  | offering (frame : CapturedFrame)
  | stopping
  | ended

structure CaptureThread (F Recorder : Type*) where
  phase : CapturePhase
  recorder : Option Recorder
  maxWidth : Nat
  maxHeight : Nat
  frameDuration : Nat
  paused : Bool
  pendingKeyframe : Bool
  pendingQp : Option Nat
  quality : QualityController F
  encSize : EncoderSize
  consecutiveCaptureFailures : Nat
  sent : List (MessageOutbound F)

/-- `encode_thread` waits for a command, executes one, or has returned. -/
inductive EncodeTask where
  | waiting
  | executing (command : EncodeCommand)
  | ended

/-- A call of `VideoEncoder::encode`: the frame, and `force_keyframe` when
the call is made. -/
structure EncodeCall where
  frame : Nat
  forceKeyframe : Bool
  deriving DecidableEq

structure VideoThreads (F Recorder : Type*) where
  capture : CaptureThread F Recorder
  channel : Option EncodeCommand
  encode : EncodeTask
  videoEncoder : Option VideoEncoder
  lastEncodeNanos : Nat
  captured : Nat
  requests : List Nat
  encodeCalls : List EncodeCall

inductive VideoStep (F Recorder : Type*) where
  | command (command : VideoCommands F Recorder)
  | capture (size : Option (Nat × Nat))
  | sendRestart
  | offer
  | disconnect
  | sendStop
  | dequeue
  | encodeFrame (accepted : Bool) (nanos : Nat)
  | restartEncoder (opened : Bool)
  | finish

/-- `EFFECTIVE_INFINITY`: two hundred years. -/
def effectiveInfinity : Nat := fromSecs (3600 * 24 * 365 * 200)

/-- `MAX_CAPTURE_FAILURES`. -/
def maxCaptureFailures : Nat := 30

section Capture

variable {F Recorder : Type*} [F64 F]

/-- The frame duration for a frame rate the client asks for; `none` when the
conversion panics. -/
def frameDurationOf (frameRate : F) : Option Nat :=
  let duration := 1.0 / frameRate
  if F64.isFinite duration ∧ 0.0 < duration then
    (F64.fromSecs duration).map (min · effectiveInfinity)
  else
    some effectiveInfinity

/-- The output size for a captured frame: scaled down to the limits of the
client and of the encoder. -/
def outputSize (F : Type*) [F64 F] (maxWidth maxHeight widthIn heightIn : Nat) :
    EncoderSize :=
  let scale : F := min (F64.ofNat maxWidth / F64.ofNat widthIn)
    (F64.ofNat maxHeight / F64.ofNat heightIn)
  let scaleMax : F := min (3840.0 / F64.ofNat widthIn)
    (2160.0 / F64.ofNat heightIn)
  let scale := min scale scaleMax
  if scale < 1.0 then
    { widthIn := widthIn
      heightIn := heightIn
      widthOut := max (F64.toUsize (F64.ofNat widthIn * scale)) 1
      heightOut := max (F64.toUsize (F64.ofNat heightIn * scale)) 1 }
  else
    ⟨widthIn, heightIn, widthIn, heightIn⟩

namespace CaptureThread

def start : CaptureThread F Recorder where
  phase := .receiving
  recorder := none
  maxWidth := 1920
  maxHeight := 1080
  frameDuration := effectiveInfinity
  paused := false
  pendingKeyframe := false
  pendingQp := none
  quality := .new
  encSize := ⟨0, 0, 0, 0⟩
  consecutiveCaptureFailures := 0
  sent := []

/-- The arms of `receiver.recv_timeout` for a command. -/
def command (thread : CaptureThread F Recorder) :
    VideoCommands F Recorder → CaptureThread F Recorder
  | .start recorder maxWidth maxHeight frameRate =>
      let thread :=
        match recorder with
        | some recorder =>
            { thread with
              recorder := some recorder
              maxWidth := maxWidth
              maxHeight := maxHeight
              sent := thread.sent ++ [MessageOutbound.configOk] }
        | none =>
            { thread with
              recorder := none
              sent := thread.sent ++
                [MessageOutbound.error "Failed to init screen cast!"] }
      let thread :=
        { thread with encSize := { thread.encSize with widthIn := 0 } }
      match frameDurationOf frameRate with
      | some duration => { thread with frameDuration := duration }
      | none => { thread with phase := .ended }
  | .pause => { thread with paused := true }
  | .resume => { thread with paused := false }
  | .restart =>
      { thread with
        encSize := { thread.encSize with widthIn := 0 }
        quality := thread.quality.reset }
  | .bufferHealth bufferSecs =>
      { thread with quality := thread.quality.setBufferHealth bufferSecs }
  | .requestKeyframe => { thread with pendingKeyframe := true }
  | .clientRtt rttMs =>
      { thread with quality := thread.quality.setRttMs rttMs }

/-- The timeout arm up to the decision whether the encoder restarts; the
size is that of the frame captured, if capturing succeeded. -/
def captureFrame (thread : CaptureThread F Recorder) (number : Nat)
    (size : Option (Nat × Nat)) : CaptureThread F Recorder :=
  match thread.recorder, size with
  | none, _ => thread
  | some _, none =>
      let failures := thread.consecutiveCaptureFailures + 1
      let thread := { thread with consecutiveCaptureFailures := failures }
      if maxCaptureFailures ≤ failures then
        { thread with
          recorder := none
          sent := thread.sent ++
            [MessageOutbound.error "Screen capture lost — please reconnect."] }
      else
        thread
  | some _, some (widthIn, heightIn) =>
      let size :=
        outputSize F thread.maxWidth thread.maxHeight widthIn heightIn
      let frame := ⟨number, widthIn, heightIn⟩
      if thread.encSize ≠ size then
        { thread with
          consecutiveCaptureFailures := 0
          encSize := size
          phase := .restarting frame size }
      else
        { thread with
          consecutiveCaptureFailures := 0
          phase := .offering frame }

/-- The quality decision at the end of the timeout arm. -/
def adjustQuality (thread : CaptureThread F Recorder) :
    CaptureThread F Recorder :=
  match thread.quality.decide (F64.asSecs thread.frameDuration) with
  | (some newQp, quality) =>
      { thread with quality := quality, pendingQp := some newQp }
  | (none, quality) => { thread with quality := quality }

/-- After the channel took the frame. -/
def frameSent (thread : CaptureThread F Recorder) (lastEncodeNanos : Nat) :
    CaptureThread F Recorder :=
  let encodeSecs : F := F64.ofNat lastEncodeNanos / 1e9
  let quality :=
    if 0.0 < encodeSecs then thread.quality.recordEncodeTime encodeSecs
    else thread.quality
  { thread with
    phase := .receiving
    pendingKeyframe := false
    pendingQp := none
    quality := quality }.adjustQuality

/-- After the frame was dropped because the channel is full; the requests it
carried are pending again. -/
def frameDropped (thread : CaptureThread F Recorder) :
    CaptureThread F Recorder :=
  { thread with
    phase := .receiving
    quality := thread.quality.recordEncodeTime
      (F64.asSecs thread.frameDuration) }.adjustQuality

/-- A decision on the quality changes nothing else. -/
theorem adjustQuality_eq (thread : CaptureThread F Recorder) :
    ∃ quality pendingQp, thread.adjustQuality =
      { thread with quality := quality, pendingQp := pendingQp } := by
  unfold adjustQuality
  split
  · exact ⟨_, _, rfl⟩
  · exact ⟨_, thread.pendingQp, rfl⟩

theorem adjustQuality_phase (thread : CaptureThread F Recorder) :
    thread.adjustQuality.phase = thread.phase := by
  obtain ⟨quality, pendingQp, same⟩ := thread.adjustQuality_eq
  rw [same]

theorem frameSent_phase (thread : CaptureThread F Recorder)
    (lastEncodeNanos : Nat) :
    (thread.frameSent lastEncodeNanos).phase = .receiving :=
  adjustQuality_phase _

theorem frameDropped_phase (thread : CaptureThread F Recorder) :
    thread.frameDropped.phase = .receiving :=
  adjustQuality_phase _

end CaptureThread

namespace VideoThreads

def start : VideoThreads F Recorder where
  capture := .start
  channel := none
  encode := .waiting
  videoEncoder := none
  lastEncodeNanos := 0
  captured := 0
  requests := []
  encodeCalls := []

/-- A keyframe is requested of all frames captured from now on. -/
def noteRequest (threads : VideoThreads F Recorder) :
    VideoCommands F Recorder → List Nat
  | .requestKeyframe => threads.requests ++ [threads.captured]
  | _ => threads.requests

/-- Steps of `handle_video`. -/
def captureStep (threads : VideoThreads F Recorder) :
    VideoStep F Recorder → Option (VideoThreads F Recorder)
  | .command command =>
      match threads.capture.phase with
      | .receiving =>
          some { threads with
            capture := threads.capture.command command
            requests := threads.noteRequest command }
      | _ => none
  | .capture size =>
      match threads.capture.phase with
      | .receiving =>
          -- while paused the timeout is `effectiveInfinity`
          if threads.capture.paused then none
          else
            let capture := threads.capture.captureFrame threads.captured size
            some { threads with
              capture := capture
              captured :=
                match capture.phase with
                | .receiving => threads.captured
                | _ => threads.captured + 1 }
      | _ => none
  | .sendRestart =>
      match threads.capture.phase with
      | .restarting frame size =>
          match threads.encode, threads.channel with
          | .ended, _ =>
              some { threads with
                capture := { threads.capture with phase := .offering frame } }
          | _, none =>
              some { threads with
                channel := some (.restart size)
                capture := { threads.capture with phase := .offering frame } }
          | _, some _ => none
      | _ => none
  | .offer =>
      match threads.capture.phase with
      | .offering frame =>
          match threads.encode, threads.channel with
          | .ended, _ =>
              some { threads with
                capture := { threads.capture with phase := .ended } }
          | _, none =>
              some { threads with
                channel := some (.frame frame threads.capture.pendingKeyframe
                  threads.capture.pendingQp)
                capture := threads.capture.frameSent threads.lastEncodeNanos }
          | _, some _ =>
              some { threads with capture := threads.capture.frameDropped }
      | _ => none
  | .disconnect =>
      match threads.capture.phase with
      | .receiving =>
          some { threads with
            capture := { threads.capture with phase := .stopping } }
      | _ => none
  | .sendStop =>
      match threads.capture.phase with
      | .stopping =>
          match threads.encode, threads.channel with
          | .ended, _ =>
              some { threads with
                capture := { threads.capture with phase := .ended } }
          | _, none =>
              some { threads with
                channel := some .stop
                capture := { threads.capture with phase := .ended } }
          | _, some _ => none
      | _ => none
  | _ => none

/-- Steps of `encode_thread`. -/
def encodeStep (threads : VideoThreads F Recorder) :
    VideoStep F Recorder → Option (VideoThreads F Recorder)
  | .dequeue =>
      match threads.encode, threads.channel with
      | .waiting, some command =>
          some { threads with
            encode := .executing command
            channel := none }
      | _, _ => none
  | .encodeFrame accepted nanos =>
      match threads.encode with
      | .executing (.frame frame keyframe qp) =>
          match threads.videoEncoder with
          | none => some { threads with encode := .waiting }
          | some encoder =>
              let encoder :=
                match qp with
                | some qp => encoder.setQuality qp
                | none => encoder
              let encoder :=
                if keyframe then encoder.requestKeyframe else encoder
              some { threads with
                encode := .waiting
                -- the flag is spent once a frame goes to the codec
                videoEncoder := some { encoder with
                  forceKeyframe := encoder.forceKeyframe && !accepted }
                lastEncodeNanos := nanos
                encodeCalls := threads.encodeCalls ++
                  [⟨frame.number, encoder.forceKeyframe⟩] }
      | _ => none
  | .restartEncoder opened =>
      match threads.encode with
      | .executing (.restart size) =>
          some { threads with
            encode := .waiting
            videoEncoder := VideoEncoder.new size opened }
      | _ => none
  | .finish =>
      match threads.encode, threads.channel, threads.capture.phase with
      | .executing .stop, _, _ | .waiting, none, .ended =>
          some { threads with encode := .ended, videoEncoder := none }
      | _, _, _ => none
  | _ => none

def step (threads : VideoThreads F Recorder) :
    VideoStep F Recorder → Option (VideoThreads F Recorder)
  | label@(.command _) | label@(.capture _) | label@.sendRestart
  | label@.offer | label@.disconnect | label@.sendStop =>
      threads.captureStep label
  | label => threads.encodeStep label

variable {threads next : VideoThreads F Recorder}
  {label : VideoStep F Recorder}

/-- What a step of the capture thread does.  A send to a thread that has
ended is lost; a send to a live one needs room, or drops the frame. -/
inductive CaptureMove (threads : VideoThreads F Recorder) :
    VideoStep F Recorder → VideoThreads F Recorder → Prop
  | command (command : VideoCommands F Recorder)
      (receiving : threads.capture.phase = .receiving) :
      CaptureMove threads (.command command)
        { threads with
          capture := threads.capture.command command
          requests := threads.noteRequest command }
  | idle (size : Option (Nat × Nat))
      (receiving : threads.capture.phase = .receiving)
      (stays : (threads.capture.captureFrame threads.captured size).phase =
        .receiving) :
      CaptureMove threads (.capture size)
        { threads with
          capture := threads.capture.captureFrame threads.captured size }
  | captured (size : Option (Nat × Nat))
      (receiving : threads.capture.phase = .receiving)
      (leaves : (threads.capture.captureFrame threads.captured size).phase ≠
        .receiving) :
      CaptureMove threads (.capture size)
        { threads with
          capture := threads.capture.captureFrame threads.captured size
          captured := threads.captured + 1 }
  | restartLost (frame : CapturedFrame) (size : EncoderSize)
      (phase : threads.capture.phase = .restarting frame size)
      (gone : threads.encode = .ended) :
      CaptureMove threads .sendRestart
        { threads with
          capture := { threads.capture with phase := .offering frame } }
  | restartSent (frame : CapturedFrame) (size : EncoderSize)
      (phase : threads.capture.phase = .restarting frame size)
      (there : threads.encode ≠ .ended) (room : threads.channel = none) :
      CaptureMove threads .sendRestart
        { threads with
          channel := some (.restart size)
          capture := { threads.capture with phase := .offering frame } }
  | offerLost (frame : CapturedFrame)
      (phase : threads.capture.phase = .offering frame)
      (gone : threads.encode = .ended) :
      CaptureMove threads .offer
        { threads with
          capture := { threads.capture with phase := .ended } }
  | offered (frame : CapturedFrame)
      (phase : threads.capture.phase = .offering frame)
      (room : threads.channel = none) :
      CaptureMove threads .offer
        { threads with
          channel := some (.frame frame threads.capture.pendingKeyframe
            threads.capture.pendingQp)
          capture := threads.capture.frameSent threads.lastEncodeNanos }
  | offerDropped (frame : CapturedFrame)
      (phase : threads.capture.phase = .offering frame) :
      CaptureMove threads .offer
        { threads with capture := threads.capture.frameDropped }
  | disconnected (receiving : threads.capture.phase = .receiving) :
      CaptureMove threads .disconnect
        { threads with
          capture := { threads.capture with phase := .stopping } }
  | stopLost (phase : threads.capture.phase = .stopping)
      (gone : threads.encode = .ended) :
      CaptureMove threads .sendStop
        { threads with
          capture := { threads.capture with phase := .ended } }
  | stopSent (phase : threads.capture.phase = .stopping)
      (room : threads.channel = none) :
      CaptureMove threads .sendStop
        { threads with
          channel := some .stop
          capture := { threads.capture with phase := .ended } }

/-- What a step of the encode thread does. -/
inductive EncodeMove (threads : VideoThreads F Recorder) :
    VideoStep F Recorder → VideoThreads F Recorder → Prop
  | dequeued (command : EncodeCommand) (waiting : threads.encode = .waiting)
      (queued : threads.channel = some command) :
      EncodeMove threads .dequeue
        { threads with encode := .executing command, channel := none }
  | missed (frame : CapturedFrame) (keyframe : Bool) (qp : Option Nat)
      (accepted : Bool) (nanos : Nat)
      (executing : threads.encode = .executing (.frame frame keyframe qp))
      (noEncoder : threads.videoEncoder = none) :
      EncodeMove threads (.encodeFrame accepted nanos)
        { threads with encode := .waiting }
  | encoded (frame : CapturedFrame) (keyframe : Bool) (qp : Option Nat)
      (accepted : Bool) (nanos : Nat) (encoder : VideoEncoder)
      (executing : threads.encode = .executing (.frame frame keyframe qp))
      (isLive : threads.videoEncoder = some encoder) :
      EncodeMove threads (.encodeFrame accepted nanos)
        { threads with
          encode := .waiting
          videoEncoder := some
            { size := encoder.size
              qp := (qp.map (min · 51)).getD encoder.qp
              forceKeyframe :=
                (keyframe || encoder.forceKeyframe) && !accepted }
          lastEncodeNanos := nanos
          encodeCalls := threads.encodeCalls ++
            [⟨frame.number, keyframe || encoder.forceKeyframe⟩] }
  | restarted (size : EncoderSize) (opened : Bool)
      (executing : threads.encode = .executing (.restart size)) :
      EncodeMove threads (.restartEncoder opened)
        { threads with
          encode := .waiting
          videoEncoder := VideoEncoder.new size opened }
  | stopped (executing : threads.encode = .executing .stop) :
      EncodeMove threads .finish
        { threads with encode := .ended, videoEncoder := none }
  | disconnected (waiting : threads.encode = .waiting)
      (empty : threads.channel = none) :
      EncodeMove threads .finish
        { threads with encode := .ended, videoEncoder := none }

theorem captureMove_of_captureStep
    (moved : threads.captureStep label = some next) :
    threads.CaptureMove label next := by
  cases label with
  | command command =>
      simp only [captureStep] at moved
      split at moved
      · cases moved
        exact .command command ‹_›
      · cases moved
  | capture size =>
      simp only [captureStep] at moved
      split at moved
      · split at moved
        · cases moved
        · cases moved
          cases phase : (threads.capture.captureFrame threads.captured
              size).phase with
          | receiving => exact .idle size ‹_› phase
          | _ => exact .captured size ‹_› (by simp [phase])
      · cases moved
  | sendRestart =>
      simp only [captureStep] at moved
      split at moved
      · split at moved <;> cases moved
        · exact .restartLost _ _ ‹_› ‹_›
        · exact .restartSent _ _ ‹_› ‹_› ‹_›
      · cases moved
  | offer =>
      simp only [captureStep] at moved
      split at moved
      · split at moved <;> cases moved
        · exact .offerLost _ ‹_› ‹_›
        · exact .offered _ ‹_› ‹_›
        · exact .offerDropped _ ‹_›
      · cases moved
  | disconnect =>
      simp only [captureStep] at moved
      split at moved
      · cases moved
        exact .disconnected ‹_›
      · cases moved
  | sendStop =>
      simp only [captureStep] at moved
      split at moved
      · split at moved <;> cases moved
        · exact .stopLost ‹_› ‹_›
        · exact .stopSent ‹_› ‹_›
      · cases moved
  | _ => cases moved

omit [F64 F] in
theorem encodeMove_of_encodeStep
    (moved : threads.encodeStep label = some next) :
    threads.EncodeMove label next := by
  cases label with
  | dequeue =>
      simp only [encodeStep] at moved
      split at moved
      · cases moved
        exact .dequeued _ ‹_› ‹_›
      · cases moved
  | encodeFrame accepted nanos =>
      simp only [encodeStep] at moved
      split at moved
      · rename_i frame keyframe qp executing
        split at moved
        · cases moved
          exact .missed frame keyframe qp accepted nanos executing ‹_›
        · rename_i encoder isLive
          have encodes := EncodeMove.encoded frame keyframe qp accepted nanos
            encoder executing isLive
          cases moved
          cases qp <;> cases keyframe <;> exact encodes
      · cases moved
  | restartEncoder opened =>
      simp only [encodeStep] at moved
      split at moved
      · cases moved
        exact .restarted _ opened ‹_›
      · cases moved
  | finish =>
      simp only [encodeStep] at moved
      split at moved
      · cases moved
        exact .stopped ‹_›
      · cases moved
        exact .disconnected ‹_› ‹_›
      · cases moved
  | _ => cases moved

/-- A step is one of either thread. -/
theorem step_cases (moved : threads.step label = some next) :
    threads.CaptureMove label next ∨ threads.EncodeMove label next := by
  cases label <;> first
    | exact .inl (captureMove_of_captureStep moved)
    | exact .inr (encodeMove_of_encodeStep moved)

end VideoThreads

end Capture

end Rylus
