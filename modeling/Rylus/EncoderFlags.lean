import Rylus.PipeWireRecorder
import Rylus.VideoThreads

/-!
# The keyframe and timestamp flags of the encoder

`VideoEncoder::encode` checks the size of the buffer, runs it through the
filter graph and hands the scaled frame to the codec.  The timestamp of
`set_next_pts` and the keyframe asked for by `request_keyframe` are taken from
the encoder on the way.  What FFmpeg answers is part of the call.  The log of
frames given to `avcodec_send_frame` influences no step.
-/

namespace Rylus

namespace PixelProvider

def data : PixelProvider → List UInt8
  | rgb _ _ data | rgb0 _ _ data | bgr0 _ _ data | bgr0s _ _ _ data => data

/-- The bytes that `encode` wants, in the arithmetic of `usize`. -/
def expected : PixelProvider → Nat
  | rgb width height _ => width * height * 3 % usizeRange
  | rgb0 width height _ | bgr0 width height _ =>
      width * height * 4 % usizeRange
  | bgr0s _ height stride _ => stride * height % usizeRange

/-- `linesize[0]` of the input frame. -/
def linesize : PixelProvider → Int32
  | rgb width _ _ => Int32.ofNat (width * 3)
  | rgb0 width _ _ | bgr0 width _ _ => Int32.ofNat (width * 4)
  | bgr0s _ _ stride _ => Int32.ofNat stride

/-- The warning about a buffer with fewer bytes than `expected`. -/
def tooSmall (provider : PixelProvider) : String :=
  let needed := " (need " ++ toString provider.expected ++ ")"
  let sized (format : String) (width height : Nat) : String :=
    format ++ " buffer too small: " ++ toString provider.data.length ++
      " bytes for " ++ toString width ++ "x" ++ toString height ++ needed
  match provider with
  | rgb width height _ => sized "RGB" width height
  | rgb0 width height _ => sized "RGB0" width height
  | bgr0 width height _ => sized "BGR0" width height
  | bgr0s _ height stride _ =>
      "BGR0S buffer too small: " ++ toString provider.data.length ++
        " bytes for stride " ++ toString stride ++ " x " ++ toString height ++
          " rows" ++ needed

end PixelProvider

namespace Encode

inductive AVPictureType where
  | none
  | i
  | other
  deriving DecidableEq

/-- What `encode_frame` sets on an `AVFrame`; `key` is `AV_FRAME_FLAG_KEY`. -/
structure AVFrame where
  pts : Int
  pictType : AVPictureType
  key : Bool
  deriving DecidableEq

/-- `AV_NOPTS_VALUE`. -/
def avNoptsValue : Int := -(2 ^ 63)

/-- A frame after `av_frame_unref`. -/
def AVFrame.unref : AVFrame := ⟨avNoptsValue, .none, false⟩

/-- Return values of the FFmpeg calls that are made in a loop: a value, one
of `EAGAIN` and `AVERROR_EOF`, or another error. -/
inductive Drained (Value : Type*) where
  | value (value : Value)
  | again
  | error

/-- The input frame of a filter graph. -/
structure ScaleContext where
  data : List UInt8
  linesize : Int32

/-- The answers of the filter graph to a call of `scale`. -/
structure FilterReply where
  added : Int
  frames : List (Drained AVFrame)

namespace FilterReply

/-- The loop that reads from the buffer sink into `frame_out`. -/
def drain : AVFrame → List (Drained AVFrame) → Except String AVFrame
  | frameOut, [] | frameOut, .again :: _ => .ok frameOut
  | _, .value frame :: frames => drain frame frames
  | _, .error :: _ => .error "Error reading frame from buffer sink"

/-- `ScaleContext::scale`: the frame left in `frame_out`. -/
def scale (reply : FilterReply) : Except String AVFrame :=
  if reply.added < 0 then .error "Error adding frame to buffer source"
  else drain .unref reply.frames

end FilterReply

/-- `Scalers::new` creates all three contexts or fails. -/
structure Scalers where
  bgr0 : ScaleContext
  rgb0 : ScaleContext
  rgb : ScaleContext

/-- Point the input frame of the right context at the pixels. -/
def Scalers.setInput (scalers : Scalers) (provider : PixelProvider) :
    Scalers :=
  let context : ScaleContext := ⟨provider.data, provider.linesize⟩
  match provider with
  | .bgr0 _ _ _ | .bgr0s _ _ _ _ => { scalers with bgr0 := context }
  | .rgb _ _ _ => { scalers with rgb := context }
  | .rgb0 _ _ _ => { scalers with rgb0 := context }

/-- The clock and the codec's answers during a call of `encode_frame`. -/
structure CodecReply where
  elapsedMillis : Int
  sendFrame : Int
  packets : List (Drained Unit)

/-- The loop that moves packets to the muxer. -/
def receivePackets : List (Drained Unit) → Except String Unit
  | [] | .again :: _ => .ok ()
  | .value () :: packets => receivePackets packets
  | .error :: _ => .error "Error during encoding"

/-- A call of `avcodec_send_frame` and its return value. -/
structure SendFrame where
  frame : AVFrame
  ret : Int
  deriving DecidableEq

structure VideoEncoder where
  frame : Option AVFrame
  scalers : Option Scalers
  pendingPts : Option Int
  forceKeyframe : Bool
  sendFrames : List SendFrame

namespace VideoEncoder

/-- An encoder after `open_video` has succeeded. -/
def new (scalers : Scalers) : VideoEncoder where
  frame := none
  scalers := some scalers
  pendingPts := none
  forceKeyframe := true
  sendFrames := []

def setNextPts (encoder : VideoEncoder) (pts : Int) : VideoEncoder :=
  { encoder with pendingPts := some pts }

def requestKeyframe (encoder : VideoEncoder) : VideoEncoder :=
  { encoder with forceKeyframe := true }

/-- The frame as it is given to the codec. -/
def stamp (encoder : VideoEncoder) (codec : CodecReply) : AVFrame where
  pts := encoder.pendingPts.getD codec.elapsedMillis
  pictType := if encoder.forceKeyframe then .i else .none
  key := encoder.forceKeyframe

def encodeFrame (encoder : VideoEncoder) (codec : CodecReply) :
    VideoEncoder × Except String Unit :=
  match encoder.frame with
  | none => (encoder, .error "Frame not initialized")
  | some _ =>
      let frame := encoder.stamp codec
      -- both flags are taken before the codec is asked
      let encoder := { encoder with
        frame := some frame
        pendingPts := none
        forceKeyframe := false
        sendFrames := encoder.sendFrames ++ [⟨frame, codec.sendFrame⟩] }
      if codec.sendFrame < 0 then
        (encoder, .error "Error sending frame for encoding")
      else
        (encoder, receivePackets codec.packets)

/-- The encoder after the call, and the warning that is logged. -/
def encode (encoder : VideoEncoder) (provider : PixelProvider)
    (filter : FilterReply) (codec : CodecReply) :
    VideoEncoder × Option String :=
  match encoder.scalers with
  | none => (encoder, some "Scalers not initialized")
  | some scalers =>
      if provider.data.length < provider.expected then
        (encoder, some provider.tooSmall)
      else
        let encoder :=
          { encoder with scalers := some (scalers.setInput provider) }
        match filter.scale with
        | .error error =>
            (encoder, some ("Failed to scale video frame: " ++ error))
        | .ok frame =>
            match { encoder with frame := some frame }.encodeFrame codec with
            | (encoder, .error error) =>
                (encoder, some ("Failed to encode video frame: " ++ error))
            | (encoder, .ok ()) => (encoder, none)

end VideoEncoder

/-- The calls on an encoder; `encode` comes with the answers of FFmpeg. -/
inductive EncoderCall where
  | requestKeyframe
  | setNextPts (pts : Int)
  | encode (provider : PixelProvider) (filter : FilterReply)
      (codec : CodecReply)

/-- One call; every call returns. -/
def encoderStep (encoder : VideoEncoder) :
    EncoderCall → Option VideoEncoder
  | .requestKeyframe => some encoder.requestKeyframe
  | .setNextPts pts => some (encoder.setNextPts pts)
  | .encode provider filter codec =>
      some (encoder.encode provider filter codec).1

namespace VideoEncoder

/-- The buffer is large enough and the filter graph scales it, so the call
gets as far as `avcodec_send_frame`. -/
def ReachesCodec (encoder : VideoEncoder) (provider : PixelProvider)
    (filter : FilterReply) : Prop :=
  encoder.scalers.isSome ∧ provider.expected ≤ provider.data.length ∧
    ∃ frame, filter.scale = .ok frame

variable {encoder : VideoEncoder} {provider : PixelProvider}
  {filter : FilterReply}

/-- A call that fails before the codec leaves the flags alone. -/
theorem encode_of_not_reachesCodec (codec : CodecReply)
    (stops : ¬ encoder.ReachesCodec provider filter) :
    (encoder.encode provider filter codec).1.forceKeyframe =
        encoder.forceKeyframe ∧
      (encoder.encode provider filter codec).1.pendingPts =
        encoder.pendingPts ∧
      (encoder.encode provider filter codec).1.sendFrames =
        encoder.sendFrames := by
  unfold encode
  cases hasScalers : encoder.scalers with
  | none => exact ⟨rfl, rfl, rfl⟩
  | some scalers =>
      dsimp only
      split_ifs with small
      · exact ⟨rfl, rfl, rfl⟩
      · cases scaled : filter.scale with
        | error error => exact ⟨rfl, rfl, rfl⟩
        | ok frame =>
            exact absurd ⟨by simp [hasScalers], not_lt.mp small, frame, scaled⟩
              stops

/-- A call that reaches the codec takes both flags and gives them to the
frame, whatever the codec answers. -/
theorem encode_of_reachesCodec (codec : CodecReply)
    (reaches : encoder.ReachesCodec provider filter) :
    (encoder.encode provider filter codec).1.forceKeyframe = false ∧
      (encoder.encode provider filter codec).1.pendingPts = none ∧
      (encoder.encode provider filter codec).1.sendFrames =
        encoder.sendFrames ++ [⟨encoder.stamp codec, codec.sendFrame⟩] := by
  obtain ⟨isSome, large, frame, scaled⟩ := reaches
  obtain ⟨scalers, hasScalers⟩ := Option.isSome_iff_exists.mp isSome
  have stamped (input : Scalers) :
      ({ encoder with scalers := some input, frame := some frame } :
        VideoEncoder).stamp codec = encoder.stamp codec :=
    rfl
  unfold encode
  rw [hasScalers]
  simp only [not_lt.mpr large, if_false, scaled, encodeFrame, stamped]
  split_ifs
  · exact ⟨rfl, rfl, rfl⟩
  · cases receivePackets codec.packets <;> exact ⟨rfl, rfl, rfl⟩

/-- The flag is gone once a frame goes to the codec. -/
theorem forceKeyframe_encode (codec : CodecReply) {handed : Bool}
    (isHanded : handed = true ↔ encoder.ReachesCodec provider filter) :
    (encoder.encode provider filter codec).1.forceKeyframe =
      (encoder.forceKeyframe && !handed) := by
  by_cases reaches : encoder.ReachesCodec provider filter
  · rw [(encode_of_reachesCodec codec reaches).1, isHanded.mpr reaches]
    simp
  · have kept : handed = false := by
      rw [← Bool.not_eq_true, isHanded]
      exact reaches
    rw [(encode_of_not_reachesCodec codec reaches).1, kept]
    simp

/-- The flag of the encode thread's encoder follows that of the encoder it
calls. -/
theorem encodeStep_encodeFrame {F Recorder : Type*} [F64 F]
    (threads : VideoThreads F Recorder) {frame : CapturedFrame}
    {keyframe : Bool} {qp : Option Nat} {seen : Rylus.VideoEncoder}
    (executing : threads.encode = .executing (.frame frame keyframe qp))
    (isSeen : threads.videoEncoder = some seen)
    (agree : seen.forceKeyframe = encoder.forceKeyframe)
    (codec : CodecReply) {handed : Bool}
    (isHanded : handed = true ↔ encoder.ReachesCodec provider filter)
    (nanos : Nat) :
    ∃ next after,
      threads.encodeStep (.encodeFrame handed nanos) = some next ∧
      next.videoEncoder = some after ∧
      after.forceKeyframe =
        ((if keyframe then encoder.requestKeyframe else encoder).encode
          provider filter codec).1.forceKeyframe := by
  have requested :
      (if keyframe then encoder.requestKeyframe else encoder).ReachesCodec
        provider filter ↔ encoder.ReachesCodec provider filter := by
    cases keyframe <;> exact Iff.rfl
  rw [forceKeyframe_encode codec (isHanded.trans requested.symm)]
  cases qp <;> cases keyframe <;>
    simp [VideoThreads.encodeStep, executing, isSeen, ← agree,
      requestKeyframe, Rylus.VideoEncoder.setQuality,
      Rylus.VideoEncoder.requestKeyframe]

end VideoEncoder

/-- What a call of `encode` may do with the flags it finds set: clear them
only in favour of a frame that the codec accepts during the call. -/
def SpentOnAccepted (encoder : VideoEncoder) : EncoderCall → Prop
  | .requestKeyframe | .setNextPts _ => True
  | .encode provider filter codec =>
      let after := (encoder.encode provider filter codec).1
      let accepted (marked : AVFrame → Prop) : Prop :=
        ∃ send ∈ after.sendFrames.drop encoder.sendFrames.length,
          0 ≤ send.ret ∧ marked send.frame
      (encoder.forceKeyframe = true → after.forceKeyframe = false →
        accepted fun frame => frame.pictType = .i ∧ frame.key = true) ∧
      ∀ pts, encoder.pendingPts = some pts → after.pendingPts ≠ some pts →
        accepted fun frame => frame.pts = pts

/-- The codec does not refuse a frame while a flag is set. -/
def NotRefused (encoder : VideoEncoder) : EncoderCall → Prop
  | .requestKeyframe | .setNextPts _ => True
  | .encode provider filter codec =>
      encoder.forceKeyframe = true ∨ encoder.pendingPts ≠ none →
        encoder.ReachesCodec provider filter → 0 ≤ codec.sendFrame

theorem spentOnAccepted_iff_notRefused (encoder : VideoEncoder)
    (call : EncoderCall) :
    SpentOnAccepted encoder call ↔ NotRefused encoder call := by
  cases call with
  | requestKeyframe => exact Iff.rfl
  | setNextPts pts => exact Iff.rfl
  | encode provider filter codec =>
      by_cases reaches : encoder.ReachesCodec provider filter
      · obtain ⟨flag, pending, sends⟩ :=
          VideoEncoder.encode_of_reachesCodec codec reaches
        simp only [SpentOnAccepted, NotRefused, flag, pending, sends]
        simp only [List.drop_left, List.mem_singleton, exists_eq_left]
        constructor
        · rintro ⟨keyframe, timestamp⟩ (forced | isPending) -
          · exact (keyframe forced trivial).1
          · obtain ⟨pts, isPts⟩ := Option.ne_none_iff_exists'.mp isPending
            exact (timestamp pts isPts (by simp)).1
        · intro accepts
          constructor
          · intro forced _
            exact ⟨accepts (.inl forced) reaches, by
              simp [VideoEncoder.stamp, forced]⟩
          · intro pts isPts _
            exact ⟨accepts (.inr (by simp [isPts])) reaches, by
              simp [VideoEncoder.stamp, isPts]⟩
      · obtain ⟨flag, pending, sends⟩ :=
          VideoEncoder.encode_of_not_reachesCodec codec reaches
        simp only [SpentOnAccepted, NotRefused, flag, pending]
        constructor
        · exact fun _ _ reached => absurd reached reaches
        · intro _
          constructor
          · intro forced cleared
            rw [forced] at cleared
            cases cleared
          · exact fun pts isPts gone => absurd isPts gone

/-- Along a sequence of calls, flags are spent on accepted frames only, if and
only if the codec refuses no frame that carries one. -/
theorem flags_spent_on_accepted_iff (encoder : VideoEncoder)
    (calls : Transition.Execution encoderStep encoder) :
    calls.StepsMeet SpentOnAccepted ↔ calls.StepsMeet NotRefused :=
  calls.stepsMeet_congr fun before call _ _ _ =>
    spentOnAccepted_iff_notRefused before call

/-- The first frame of a new encoder, for which the codec has no memory: the
keyframe it was meant to be is forgotten. -/
def refusedFirstFrame : Transition.Execution encoderStep
    (.new ⟨⟨[], 0⟩, ⟨[], 0⟩, ⟨[], 0⟩⟩) where
  labels := [.encode (.bgr0 1 1 [0, 0, 0, 0])
    ⟨0, [.value ⟨0, .none, false⟩, .again]⟩ ⟨0, -12, []⟩]
  final := _
  runs := rfl

theorem refused_frame_spends_flag :
    ¬ ∀ (encoder : VideoEncoder)
        (calls : Transition.Execution encoderStep encoder),
      calls.StepsMeet SpentOnAccepted := by
  intro holds
  have spent := holds _ refusedFirstFrame [] _ [] _ rfl rfl
  obtain ⟨send, member, accepted, -⟩ := spent.1 rfl rfl
  obtain rfl : send = ⟨⟨0, .i, true⟩, -12⟩ := List.mem_singleton.mp member
  exact absurd accepted (by decide)

end Encode

end Rylus
