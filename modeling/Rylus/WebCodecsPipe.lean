import Mathlib.Tactic.Tauto
import Rylus.FragmentedMp4

/-!
# The WebCodecs decode pipe

`createWebCodecsPipe` keeps a `VideoDecoder` that is configured from a `moov`
box and decodes the access units that follow.  Whether the platform accepts a
configuration or a chunk is up to the platform.  The errors reported and the
chunks passed to `decode` are logged; the logs influence no step.
-/

namespace Rylus

structure DecoderConfig where
  codec : String
  description : Bytes
  codedSize : Option (Nat × Nat)
  deriving DecidableEq

/-- A decoder that was created; without `config` if `configure` threw. -/
structure VideoDecoder where
  config : Option DecoderConfig
  deriving DecidableEq

inductive ChunkType where
  | key
  | delta
  deriving DecidableEq

structure EncodedVideoChunk where
  type : ChunkType
  timestamp : Nat
  data : Bytes
  deriving DecidableEq

/-- A call of `VideoDecoder.decode`, with the configuration of the decoder. -/
structure DecodeCall where
  config : Option DecoderConfig
  chunk : EncodedVideoChunk
  deriving DecidableEq

inductive PipeError where
  | noAvcC
  | decodeFailed
  deriving DecidableEq

/-- Whether `configure` and `decode` return while a buffer is fed. -/
structure PlatformAnswer where
  configures : Bool
  decodes : Bool

structure WebCodecsPipe where
  codec : String
  decoder : Option VideoDecoder
  nalLenSize : Nat
  timestamp : Nat
  seenKeyframe : Bool
  errors : List PipeError
  decodeCalls : List DecodeCall

/-- `FRAME_DURATION_US`. -/
def frameDurationUs : Nat := 33333

/-- What a pipe is told by the first buffer of a generation. -/
structure InitSegment where
  avcC : Bytes
  codedSize : Option (Nat × Nat)
  deriving DecidableEq

/-- The configuration a pipe for `codec` makes of an init segment. -/
def InitSegment.config (init : InitSegment) (codec : String) : DecoderConfig :=
  ⟨codec, init.avcC, init.codedSize⟩

/-- A buffer with one `moov` box that holds a decoder configuration, and no
`mdat` box. -/
def readInitSegment (view : Bytes) : Option InitSegment :=
  match topLevelBoxes view with
  | .error _ => none
  | .ok boxes =>
      match boxes.filter (·.type = boxType 'm' 'o' 'o' 'v'),
          boxes.filter (·.type = boxType 'm' 'd' 'a' 't') with
      | [moov], [] =>
          match extractAvcC view moov, trackSize view moov with
          | .ok (some avcC), .ok codedSize => some ⟨avcC, codedSize⟩
          | _, _ => none
      | _, _ => none

/-- The access unit of a buffer with one `mdat` box and no `moov` box. -/
def readFragment (view : Bytes) : Option Bytes :=
  match topLevelBoxes view with
  | .error _ => none
  | .ok boxes =>
      match boxes.filter (·.type = boxType 'm' 'o' 'o' 'v'),
          boxes.filter (·.type = boxType 'm' 'd' 'a' 't') with
      | [], [mdat] => (uint8Array view mdat.bodyStart mdat.endOffset).toOption
      | _, _ => none

namespace WebCodecsPipe

/-- `createWebCodecsPipe`. -/
def create (codec : String) : WebCodecsPipe where
  codec := codec
  decoder := none
  nalLenSize := 4
  timestamp := 0
  seenKeyframe := false
  errors := []
  decodeCalls := []

def reset (pipe : WebCodecsPipe) : WebCodecsPipe :=
  { pipe with seenKeyframe := false, timestamp := 0 }

def close (pipe : WebCodecsPipe) : WebCodecsPipe :=
  { pipe with decoder := none }

/-- The error callback that `handle_messages` installs closes the pipe. -/
def onError (pipe : WebCodecsPipe) (error : PipeError) : WebCodecsPipe :=
  { pipe.close with errors := pipe.errors ++ [error] }

/-- Replace the decoder; `configure` throws when the platform rejects the
configuration. -/
def ensureDecoder (pipe : WebCodecsPipe) (init : InitSegment)
    (answer : PlatformAnswer) : WebCodecsPipe × Option Fault :=
  if answer.configures then
    ({ pipe with
      decoder := some ⟨some (init.config pipe.codec)⟩
      nalLenSize := nalLengthSize init.avcC
      seenKeyframe := false }, none)
  else
    ({ pipe with decoder := some ⟨none⟩ }, some .typeError)

def feedInitSegment (pipe : WebCodecsPipe) (view : Bytes) (moov : BoxHeader)
    (answer : PlatformAnswer) : WebCodecsPipe × Option Fault :=
  match extractAvcC view moov with
  | .error fault => (pipe, some fault)
  | .ok none => (pipe.onError .noAvcC, none)
  | .ok (some avcC) =>
      match trackSize view moov with
      | .error fault => (pipe, some fault)
      | .ok codedSize => pipe.ensureDecoder ⟨avcC, codedSize⟩ answer

/-- An access unit is passed to a decoder, if there is one, from the first
keyframe on. -/
def feedMediaFragment (pipe : WebCodecsPipe) (data : Bytes)
    (answer : PlatformAnswer) : WebCodecsPipe :=
  match pipe.decoder with
  | none => pipe
  | some decoder =>
      let isKey := firstNaluType data pipe.nalLenSize = 5
      if ¬ pipe.seenKeyframe ∧ ¬ isKey then
        -- can't start on a delta frame
        pipe
      else
        let chunk : EncodedVideoChunk :=
          { type := if isKey then .key else .delta
            timestamp := pipe.timestamp
            data := data }
        let pipe : WebCodecsPipe :=
          { pipe with
            seenKeyframe := true
            decodeCalls := pipe.decodeCalls ++ [⟨decoder.config, chunk⟩] }
        let pipe :=
          if decoder.config.isSome ∧ answer.decodes then pipe
          else pipe.onError .decodeFailed
        { pipe with timestamp := pipe.timestamp + frameDurationUs }

/-- The loop of `feed` over the top-level boxes, with the data of the last
`mdat` box so far. -/
def feedBoxes (view : Bytes) (answer : PlatformAnswer) :
    Nat → Nat → Option Bytes → WebCodecsPipe →
      WebCodecsPipe × Except Fault (Option Bytes)
  | 0, _, _, pipe => (pipe, .error .diverges)
  | rounds + 1, offset, pendingMdatData, pipe =>
      if offset < view.length then
        match readBoxHeader view offset with
        | .error fault => (pipe, .error fault)
        | .ok none => (pipe, .ok pendingMdatData)
        | .ok (some header) =>
            if header.type = boxType 'm' 'o' 'o' 'v' then
              match pipe.feedInitSegment view header answer with
              | (pipe, some fault) => (pipe, .error fault)
              | (pipe, none) =>
                  feedBoxes view answer rounds header.endOffset
                    pendingMdatData pipe
            else if header.type = boxType 'm' 'd' 'a' 't' then
              match uint8Array view header.bodyStart header.endOffset with
              | .error fault => (pipe, .error fault)
              | .ok data =>
                  feedBoxes view answer rounds header.endOffset (some data)
                    pipe
            else
              feedBoxes view answer rounds header.endOffset pendingMdatData
                pipe
      else
        (pipe, .ok pendingMdatData)

/-- Feed one WebSocket frame, with what the call comes to if it does not
return. -/
def feed (pipe : WebCodecsPipe) (view : Bytes) (answer : PlatformAnswer) :
    WebCodecsPipe × Option Fault :=
  match feedBoxes view answer (view.length + 1) 0 none pipe with
  | (pipe, .error fault) => (pipe, some fault)
  | (pipe, .ok none) => (pipe, none)
  | (pipe, .ok (some data)) => (pipe.feedMediaFragment data answer, none)

/-- What `feed` does with boxes that have been read. -/
def feedHeaders (view : Bytes) (answer : PlatformAnswer) :
    List BoxHeader → Option Bytes → WebCodecsPipe →
      WebCodecsPipe × Except Fault (Option Bytes)
  | [], pendingMdatData, pipe => (pipe, .ok pendingMdatData)
  | header :: headers, pendingMdatData, pipe =>
      if header.type = boxType 'm' 'o' 'o' 'v' then
        match pipe.feedInitSegment view header answer with
        | (pipe, some fault) => (pipe, .error fault)
        | (pipe, none) =>
            feedHeaders view answer headers pendingMdatData pipe
      else if header.type = boxType 'm' 'd' 'a' 't' then
        match uint8Array view header.bodyStart header.endOffset with
        | .error fault => (pipe, .error fault)
        | .ok data => feedHeaders view answer headers (some data) pipe
      else
        feedHeaders view answer headers pendingMdatData pipe

/-- Reading the boxes while feeding them or before is the same. -/
theorem feedBoxes_eq_feedHeaders {view : Bytes} (answer : PlatformAnswer)
    {rounds offset : Nat} {boxes : List BoxHeader}
    (read : topLevelBoxesFrom view rounds offset = .ok boxes)
    (pendingMdatData : Option Bytes) (pipe : WebCodecsPipe) :
    feedBoxes view answer rounds offset pendingMdatData pipe =
      feedHeaders view answer boxes pendingMdatData pipe := by
  induction rounds generalizing offset boxes pendingMdatData pipe with
  | zero => cases read
  | succ rounds ih =>
      rw [topLevelBoxesFrom] at read
      rw [feedBoxes]
      by_cases inside : offset < view.length
      · rw [if_pos inside] at read
        rw [if_pos inside]
        cases header? : readBoxHeader view offset with
        | error fault =>
            rw [header?] at read
            cases read
        | ok found =>
            rw [header?] at read
            cases found with
            | none =>
                cases read
                rfl
            | some header =>
                cases rest : topLevelBoxesFrom view rounds header.endOffset with
                | error fault => simp [bind, Except.bind, rest] at read
                | ok headers =>
                    have boxes_eq : header :: headers = boxes := by
                      simpa [bind, Except.bind, pure, Except.pure, rest]
                        using read
                    subst boxes_eq
                    simp only [feedHeaders, ih rest]
      · rw [if_neg inside] at read
        rw [if_neg inside]
        cases read
        rfl

/-- Boxes that are neither `moov` nor `mdat` are skipped. -/
theorem feedHeaders_skip (view : Bytes) (answer : PlatformAnswer)
    {skipped : List BoxHeader}
    (noMoov : ∀ header ∈ skipped, header.type ≠ boxType 'm' 'o' 'o' 'v')
    (noMdat : ∀ header ∈ skipped, header.type ≠ boxType 'm' 'd' 'a' 't')
    (rest : List BoxHeader) (pendingMdatData : Option Bytes)
    (pipe : WebCodecsPipe) :
    feedHeaders view answer (skipped ++ rest) pendingMdatData pipe =
      feedHeaders view answer rest pendingMdatData pipe := by
  induction skipped with
  | nil => rfl
  | cons header headers ih =>
      rw [List.forall_mem_cons] at noMoov noMdat
      rw [List.cons_append, feedHeaders, if_neg noMoov.1, if_neg noMdat.1]
      exact ih noMoov.2 noMdat.2

/-- A single box of interest, and the boxes before and after it. -/
theorem exists_split_of_filter {boxes : List BoxHeader} {header : BoxHeader}
    {type other : List Nat}
    (one : boxes.filter (·.type = type) = [header])
    (noOther : boxes.filter (·.type = other) = []) :
    ∃ before after, boxes = before ++ header :: after ∧
      header.type = type ∧
        (∀ box ∈ before ++ after, box.type ≠ type) ∧
          ∀ box ∈ before ++ after, box.type ≠ other := by
  obtain ⟨before, after, rfl, noneBefore, isType, noneAfter⟩ :=
    List.filter_eq_cons_iff.mp one
  rw [List.filter_eq_nil_iff] at noneAfter noOther
  refine ⟨before, after, rfl, by simpa using isType, ?_, ?_⟩
  · intro box member
    rcases List.mem_append.mp member with isBefore | isAfter
    · simpa using noneBefore box isBefore
    · simpa using noneAfter box isAfter
  · intro box member
    have inBoxes : box ∈ before ++ header :: after := by
      rcases List.mem_append.mp member with isBefore | isAfter <;> simp [*]
    simpa using noOther box inBoxes

/-- An init segment replaces the decoder. -/
theorem feed_initSegment {view : Bytes} {init : InitSegment}
    (isInit : readInitSegment view = some init) (pipe : WebCodecsPipe)
    (answer : PlatformAnswer) :
    pipe.feed view answer = pipe.ensureDecoder init answer := by
  unfold readInitSegment at isInit
  split at isInit
  · cases isInit
  · rename_i boxes read
    split at isInit
    · rename_i moov oneMoov noMdat
      split at isInit
      · rename_i avcC codedSize extracted sized
        cases isInit
        obtain ⟨before, after, rfl, isMoov, noMoov, noOther⟩ :=
          exists_split_of_filter oneMoov noMdat
        rw [List.forall_mem_append] at noMoov noOther
        have tail := feedHeaders_skip view answer noMoov.2 noOther.2 [] none
        rw [List.append_nil] at tail
        have fedInit : pipe.feedInitSegment view moov answer =
            pipe.ensureDecoder ⟨avcC, codedSize⟩ answer := by
          rw [feedInitSegment, extracted]
          simp only [sized]
        rw [feed, feedBoxes_eq_feedHeaders answer read,
          feedHeaders_skip view answer noMoov.1 noOther.1, feedHeaders,
          if_pos isMoov, fedInit]
        cases pipe.ensureDecoder ⟨avcC, codedSize⟩ answer with
        | mk fed fault =>
            cases fault with
            | none => simp only [tail, feedHeaders]
            | some fault => rfl
      · cases isInit
    · cases isInit

/-- Of a fragment, the access unit is fed. -/
theorem feed_fragment {view data : Bytes}
    (isFragment : readFragment view = some data) (pipe : WebCodecsPipe)
    (answer : PlatformAnswer) :
    pipe.feed view answer = (pipe.feedMediaFragment data answer, none) := by
  unfold readFragment at isFragment
  split at isFragment
  · cases isFragment
  · rename_i boxes read
    split at isFragment
    · rename_i mdat noMoov oneMdat
      obtain ⟨before, after, rfl, isMdat, noOther, noMoov⟩ :=
        exists_split_of_filter oneMdat noMoov
      rw [List.forall_mem_append] at noMoov noOther
      have tail := feedHeaders_skip view answer noMoov.2 noOther.2 []
        (some data) pipe
      rw [List.append_nil] at tail
      have cut : uint8Array view mdat.bodyStart mdat.endOffset =
          .ok data := by
        cases array : uint8Array view mdat.bodyStart mdat.endOffset with
        | error fault => simp [array, Except.toOption] at isFragment
        | ok cut => simpa [array, Except.toOption] using isFragment
      have notMoov : mdat.type ≠ boxType 'm' 'o' 'o' 'v' := by
        rw [isMdat]
        decide
      rw [feed, feedBoxes_eq_feedHeaders answer read,
        feedHeaders_skip view answer noMoov.1 noOther.1, feedHeaders,
        if_neg notMoov, if_pos isMdat, cut]
      simp only [tail, feedHeaders]
    · cases isFragment

/-- An access unit that `feedMediaFragment` passes to `decode`. -/
def Passes (pipe : WebCodecsPipe) (data : Bytes) : Prop :=
  pipe.decoder.isSome = true ∧
    (pipe.seenKeyframe = true ∨ firstNaluType data pipe.nalLenSize = 5)

instance (pipe : WebCodecsPipe) (data : Bytes) :
    Decidable (pipe.Passes data) :=
  inferInstanceAs (Decidable (_ ∧ _))

/-- Other access units change nothing. -/
theorem feedMediaFragment_of_not_passes {pipe : WebCodecsPipe} {data : Bytes}
    (stays : ¬ pipe.Passes data) (answer : PlatformAnswer) :
    pipe.feedMediaFragment data answer = pipe := by
  unfold feedMediaFragment
  split
  · rfl
  · rename_i decoder isDecoder
    rw [if_pos]
    simpa [Passes, isDecoder, not_or] using stays

/-- What passing an access unit on does: the call, and an error or not. -/
theorem feedMediaFragment_of_passes {pipe : WebCodecsPipe} {data : Bytes}
    (passes : pipe.Passes data) (answer : PlatformAnswer) :
    ∃ decoder type, pipe.decoder = some decoder ∧
      (type = ChunkType.key ↔ firstNaluType data pipe.nalLenSize = 5) ∧
      (pipe.feedMediaFragment data answer).decodeCalls =
        pipe.decodeCalls ++
          [⟨decoder.config, ⟨type, pipe.timestamp, data⟩⟩] ∧
      ((pipe.feedMediaFragment data answer).errors ≠ [] ∨
        pipe.feedMediaFragment data answer =
          { pipe with
            seenKeyframe := true
            timestamp := pipe.timestamp + frameDurationUs
            decodeCalls := pipe.decodeCalls ++
              [⟨decoder.config, ⟨type, pipe.timestamp, data⟩⟩] }) := by
  obtain ⟨live, key⟩ := passes
  obtain ⟨decoder, isDecoder⟩ := Option.isSome_iff_exists.mp live
  refine ⟨decoder,
    if firstNaluType data pipe.nalLenSize = 5 then .key else .delta,
    isDecoder, by simp, ?_⟩
  have goesOn : ¬ (¬ pipe.seenKeyframe = true ∧
      ¬ firstNaluType data pipe.nalLenSize = 5) := by
    tauto
  simp only [feedMediaFragment, isDecoder, if_neg goesOn]
  split
  · exact ⟨rfl, .inr rfl⟩
  · exact ⟨rfl, .inl (by simp [onError])⟩

theorem nalLenSize_feedMediaFragment (pipe : WebCodecsPipe) (data : Bytes)
    (answer : PlatformAnswer) :
    (pipe.feedMediaFragment data answer).nalLenSize = pipe.nalLenSize := by
  unfold feedMediaFragment
  split
  · rfl
  · dsimp only
    split
    · rfl
    · split <;> rfl

/-- From then on the pipe does not wait any more. -/
theorem seenKeyframe_feedMediaFragment {pipe : WebCodecsPipe} {data : Bytes}
    (passes : pipe.Passes data) (answer : PlatformAnswer) :
    (pipe.feedMediaFragment data answer).seenKeyframe = true := by
  obtain ⟨live, key⟩ := passes
  obtain ⟨decoder, isDecoder⟩ := Option.isSome_iff_exists.mp live
  have goesOn : ¬ (¬ pipe.seenKeyframe = true ∧
      ¬ firstNaluType data pipe.nalLenSize = 5) := by
    tauto
  simp only [feedMediaFragment, isDecoder, if_neg goesOn]
  split <;> rfl

end WebCodecsPipe

end Rylus
