import Rylus.Protocol
import Rylus.WebCodecsPipe

/-!
# Messages to the browser

`handle_messages` starts the WebCodecs probe at the first `VideoInit`, creates
the pipe when the probe resolves, and hands every later video frame to it.
Until then, and after an error of the pipe, frames go to the `MediaSource`,
which is left out here up to the buffer it reports.
-/

namespace Rylus

structure MessageHandler (Number : Type*) where
  serverCodecString : String
  webcodecsPipe : Option WebCodecsPipe
  webcodecsCanvas : Bool
  webcodecsDecided : Bool
  webcodecsSetup : Bool
  healthFrameCount : Nat
  sent : List (MessageInbound Number)

namespace MessageHandler

variable {Number : Type*}

/-- A new connection; no probe is pending. -/
def start : MessageHandler Number where
  serverCodecString := "avc1.4D0028"
  webcodecsPipe := none
  webcodecsCanvas := false
  webcodecsDecided := false
  webcodecsSetup := false
  healthFrameCount := 0
  sent := []

/-- Text messages; only two concern the video.  `webcodecsEnabled` is the
setting when the message arrives. -/
def onMessage (handler : MessageHandler Number) (webcodecsEnabled : Bool) :
    MessageOutbound Number → MessageHandler Number
  | .newVideo =>
      match handler.webcodecsPipe with
      | some pipe => { handler with webcodecsPipe := some pipe.reset }
      | none => { handler with healthFrameCount := 0 }
  | .videoInit codecString =>
      let handler :=
        if codecString ≠ "" then
          { handler with serverCodecString := codecString }
        else
          handler
      if webcodecsEnabled ∧ ¬ handler.webcodecsDecided then
        { handler with webcodecsDecided := true, webcodecsSetup := true }
      else
        handler
  | _ => handler

/-- The probe of `webCodecsAvailable` resolves. -/
def onProbe (handler : MessageHandler Number) (ok : Bool) :
    MessageHandler Number :=
  if ok then
    { handler with
      webcodecsSetup := false
      webcodecsCanvas := true
      webcodecsPipe := some (.create handler.serverCodecString)
      sent := handler.sent ++ [.requestKeyframe] }
  else
    { handler with webcodecsSetup := false }

/-- The decoder reports an error after a call of `decode` has returned. -/
def onError (handler : MessageHandler Number) : MessageHandler Number :=
  { handler with
    webcodecsPipe := none
    sent := handler.sent ++ [.requestKeyframe] }

/-- Every thirtieth frame a buffer is reported, if it is known. -/
def reportHealth (handler : MessageHandler Number)
    (bufferSeconds : Option Number) : MessageHandler Number :=
  if 30 ≤ handler.healthFrameCount + 1 then
    { handler with
      healthFrameCount := 0
      sent := handler.sent ++
        (bufferSeconds.map MessageInbound.bufferHealth).toList }
  else
    { handler with healthFrameCount := handler.healthFrameCount + 1 }

/-- A binary message.  An error of the pipe has set `webcodecs_pipe` to null;
what the call of `feed` throws leaves the handler as well. -/
def onData [OfScientific Number] (handler : MessageHandler Number)
    (view : Bytes) (answer : PlatformAnswer) (bufferSeconds : Option Number) :
    MessageHandler Number :=
  match handler.webcodecsPipe with
  | none => handler.reportHealth bufferSeconds
  | some pipe =>
      let fed := pipe.feed view answer
      let handler :=
        { handler with
          webcodecsPipe := if fed.1.errors = [] then some fed.1 else none
          sent := handler.sent ++
            fed.1.errors.map fun _ => MessageInbound.requestKeyframe }
      match fed.2 with
      | some _ => handler
      | none => handler.reportHealth (some 0.05)

@[simp]
theorem reportHealth_webcodecsPipe (handler : MessageHandler Number)
    (bufferSeconds : Option Number) :
    (handler.reportHealth bufferSeconds).webcodecsPipe =
      handler.webcodecsPipe := by
  unfold reportHealth
  split <;> rfl

@[simp]
theorem reportHealth_webcodecsSetup (handler : MessageHandler Number)
    (bufferSeconds : Option Number) :
    (handler.reportHealth bufferSeconds).webcodecsSetup =
      handler.webcodecsSetup := by
  unfold reportHealth
  split <;> rfl

@[simp]
theorem reportHealth_webcodecsDecided (handler : MessageHandler Number)
    (bufferSeconds : Option Number) :
    (handler.reportHealth bufferSeconds).webcodecsDecided =
      handler.webcodecsDecided := by
  unfold reportHealth
  split <;> rfl

/-- `VideoInit` leaves the pipe alone, and starts the probe at most once. -/
theorem onMessage_videoInit (handler : MessageHandler Number)
    (webcodecsEnabled : Bool) (codecString : String) :
    let next := handler.onMessage webcodecsEnabled (.videoInit codecString)
    next.webcodecsPipe = handler.webcodecsPipe ∧
      ((next.webcodecsDecided = handler.webcodecsDecided ∧
          next.webcodecsSetup = handler.webcodecsSetup) ∨
        (handler.webcodecsDecided = false ∧ next.webcodecsDecided = true)) := by
  intro next
  have stored : (if codecString ≠ "" then
      { handler with serverCodecString := codecString } else
        handler).webcodecsDecided = handler.webcodecsDecided := by
    split <;> rfl
  by_cases probes : webcodecsEnabled = true ∧
      ¬ handler.webcodecsDecided = true
  · have next_eq : next = _ := if_pos (by rw [stored]; exact probes)
    rw [next_eq]
    refine ⟨?_, .inr ⟨by simpa using probes.2, rfl⟩⟩
    dsimp only
    split <;> rfl
  · have next_eq : next = _ := if_neg (by rw [stored]; exact probes)
    rw [next_eq]
    split <;> exact ⟨rfl, .inl ⟨rfl, rfl⟩⟩

/-- Video frames start no probe. -/
theorem onData_probe [OfScientific Number] (handler : MessageHandler Number)
    (view : Bytes) (answer : PlatformAnswer)
    (bufferSeconds : Option Number) :
    (handler.onData view answer bufferSeconds).webcodecsSetup =
        handler.webcodecsSetup ∧
      (handler.onData view answer bufferSeconds).webcodecsDecided =
        handler.webcodecsDecided := by
  unfold onData
  split
  · simp
  · dsimp only
    split <;> simp

/-- A frame leaves no pipe where there was none. -/
theorem onData_of_none [OfScientific Number]
    {handler : MessageHandler Number} (noPipe : handler.webcodecsPipe = none)
    (view : Bytes) (answer : PlatformAnswer)
    (bufferSeconds : Option Number) :
    (handler.onData view answer bufferSeconds).webcodecsPipe = none := by
  simp [onData, noPipe]

/-- A pipe that is left after a frame was fed has reported no error. -/
theorem onData_of_some [OfScientific Number]
    {handler : MessageHandler Number} {pipe left : WebCodecsPipe}
    {view : Bytes} {answer : PlatformAnswer} {bufferSeconds : Option Number}
    (isPipe : handler.webcodecsPipe = some pipe)
    (isLeft : (handler.onData view answer bufferSeconds).webcodecsPipe =
      some left) :
    left = (pipe.feed view answer).1 ∧ left.errors = [] := by
  have kept : (handler.onData view answer bufferSeconds).webcodecsPipe =
      if (pipe.feed view answer).1.errors = [] then
        some (pipe.feed view answer).1
      else
        none := by
    unfold onData
    rw [isPipe]
    dsimp only
    split
    · rfl
    · rw [reportHealth_webcodecsPipe]
  rw [kept] at isLeft
  split at isLeft
  · rename_i clean
    cases isLeft
    exact ⟨rfl, clean⟩
  · cases isLeft

end MessageHandler

/-- The order of the two messages that open a generation. -/
inductive InitOrder where
  | initFirst
  | videoInitFirst
  deriving DecidableEq

/-- What has arrived of the current generation: its codec string and its init
segment; whether the pipe was there when the init segment arrived, and the
platform accepted it; whether an access unit began with an IDR slice, and
whether one was passed to `decode`. -/
structure Generation where
  codecString : Option String
  init : Option InitSegment
  pipeAtInit : Bool
  configured : Bool
  keyFed : Bool
  decoded : Bool

def Generation.new : Generation where
  codecString := none
  init := none
  pipeAtInit := false
  configured := false
  keyFed := false
  decoded := false

/-- The browser with the generation it receives.  The generation influences
no step of the browser; it restricts what the server sends. -/
structure Playback (Number : Type*) where
  handler : MessageHandler Number
  generation : Option Generation

/-- A message of the server, the resolution of the probe, or an error of the
decoder, with what the platform decides. -/
inductive PlaybackStep (Number : Type*) where
  | message (message : MessageOutbound Number) (webcodecsEnabled : Bool)
  | initSegment (view : Bytes) (answer : PlatformAnswer)
      (bufferSeconds : Option Number)
  | fragment (view : Bytes) (answer : PlatformAnswer)
      (bufferSeconds : Option Number)
  | probeResolved (ok : Bool)
  | decoderError

namespace Playback

variable {Number : Type*}

def start : Playback Number where
  handler := .start
  generation := none

/-- A generation is `NewVideo`, then a `VideoInit` and an init segment in
order, then fragments; it may be cut short at any point. -/
def step [OfScientific Number] (order : InitOrder)
    (playback : Playback Number) :
    PlaybackStep Number → Option (Playback Number)
  | .message message webcodecsEnabled =>
      let handler := playback.handler.onMessage webcodecsEnabled message
      match message, playback.generation with
      | .newVideo, _ => some ⟨handler, some .new⟩
      | .videoInit _, none => none
      | .videoInit codecString, some generation =>
          if generation.codecString = none ∧
              (order = .initFirst → generation.init ≠ none) then
            some ⟨handler,
              some { generation with codecString := some codecString }⟩
          else
            none
      | _, generation => some ⟨handler, generation⟩
  | .initSegment view answer bufferSeconds =>
      match playback.generation, readInitSegment view with
      | some generation, some init =>
          if generation.init = none ∧
              (order = .videoInitFirst → generation.codecString ≠ none) then
            some ⟨playback.handler.onData view answer bufferSeconds,
              some { generation with
                init := some init
                pipeAtInit := playback.handler.webcodecsPipe.isSome
                configured := answer.configures }⟩
          else
            none
      | _, _ => none
  | .fragment view answer bufferSeconds =>
      match playback.generation, readFragment view with
      | some generation, some data =>
          match generation.init, generation.codecString with
          | some init, some _ =>
              some ⟨playback.handler.onData view answer bufferSeconds,
                some { generation with
                  keyFed := generation.keyFed ||
                    decide (firstNaluType data (nalLengthSize init.avcC) = 5)
                  decoded := generation.decoded ||
                    playback.handler.webcodecsPipe.any fun pipe =>
                      decide (pipe.Passes data) }⟩
          | _, _ => none
      | _, _ => none
  | .probeResolved ok =>
      if playback.handler.webcodecsSetup then
        some { playback with handler := playback.handler.onProbe ok }
      else
        none
  | .decoderError =>
      match playback.handler.webcodecsPipe.bind (·.decoder) with
      | some _ => some { playback with handler := playback.handler.onError }
      | none => none

end Playback

end Rylus
