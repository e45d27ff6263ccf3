import Mathlib.Data.Rat.Floor
import Rylus.LabelledExecution
import Rylus.MessageHandler

/-!
# Bringing up the pipe

The probe resolves at any moment between two messages.  What the pipe knows of
the current generation depends on whether it was there when the init segment
of the generation arrived.
-/

namespace Rylus

/-- How far a pipe is with the current generation. -/
structure Generation.TrackedBy (generation : Generation)
    (pipe : WebCodecsPipe) : Prop where
  accepted : generation.pipeAtInit = true → generation.configured = true →
    ∀ init, generation.init = some init →
      pipe.decoder = some ⟨some (init.config pipe.codec)⟩ ∧
        pipe.nalLenSize = nalLengthSize init.avcC ∧
          pipe.seenKeyframe = generation.keyFed
  rejected : generation.pipeAtInit = true → generation.configured = false →
    pipe.decoder = some ⟨none⟩
  missed : generation.init ≠ none → generation.pipeAtInit = false →
    pipe.decoder = none
  seen : pipe.seenKeyframe = true → generation.decoded = true

namespace Generation.TrackedBy

variable {generation : Generation} {pipe : WebCodecsPipe}

theorem new_reset (pipe : WebCodecsPipe) : new.TrackedBy pipe.reset where
  accepted := by simp [new]
  rejected := by simp [new]
  missed := by simp [new]
  seen := by simp [WebCodecsPipe.reset]

/-- A new pipe has missed whatever came before. -/
theorem create (late : generation.pipeAtInit = false) (codec : String) :
    generation.TrackedBy (.create codec) where
  accepted := by simp [late]
  rejected := by simp [late]
  missed _ _ := rfl
  seen := by simp [WebCodecsPipe.create]

theorem videoInit (tracked : generation.TrackedBy pipe)
    (codecString : String) :
    { generation with codecString := some codecString }.TrackedBy pipe :=
  ⟨tracked.accepted, tracked.rejected, tracked.missed, tracked.seen⟩

theorem initSegment (tracked : generation.TrackedBy pipe)
    (noKey : generation.keyFed = false) (init : InitSegment)
    (answer : PlatformAnswer) :
    { generation with
      init := some init
      pipeAtInit := true
      configured := answer.configures }.TrackedBy
        (pipe.ensureDecoder init answer).1 := by
  unfold WebCodecsPipe.ensureDecoder
  by_cases configures : answer.configures = true
  · rw [if_pos configures]
    constructor
    · rintro - - _ ⟨⟩
      exact ⟨rfl, rfl, noKey.symm⟩
    · simp [configures]
    · simp
    · simp
  · rw [if_neg configures]
    constructor
    · simp [configures]
    · exact fun _ _ => rfl
    · simp
    · exact tracked.seen

theorem fragment (tracked : generation.TrackedBy pipe) {init : InitSegment}
    (isInit : generation.init = some init) (data : Bytes)
    (answer : PlatformAnswer)
    (clean : (pipe.feedMediaFragment data answer).errors = []) :
    { generation with
      keyFed := generation.keyFed ||
        decide (firstNaluType data (nalLengthSize init.avcC) = 5)
      decoded := generation.decoded || decide (pipe.Passes data) }.TrackedBy
        (pipe.feedMediaFragment data answer) := by
  by_cases passes : pipe.Passes data
  · obtain ⟨decoder, type, isDecoder, -, -, failed | goesOn⟩ :=
      WebCodecsPipe.feedMediaFragment_of_passes passes answer
    · exact absurd clean failed
    rw [goesOn]
    constructor
    · intro atInit configured other isOther
      obtain ⟨live, lengthSize, key⟩ :=
        tracked.accepted atInit configured other isOther
      refine ⟨live, lengthSize, ?_⟩
      have same : init = other := Option.some.inj (isInit.symm.trans isOther)
      subst same
      rcases passes.2 with seen | starts
      · simp [← key, seen]
      · simp [← lengthSize, starts]
    · exact tracked.rejected
    · exact tracked.missed
    · simp [passes]
  · rw [WebCodecsPipe.feedMediaFragment_of_not_passes passes]
    constructor
    · intro atInit configured other isOther
      obtain ⟨live, lengthSize, key⟩ :=
        tracked.accepted atInit configured other isOther
      refine ⟨live, lengthSize, ?_⟩
      have same : init = other := Option.some.inj (isInit.symm.trans isOther)
      subst same
      have noStart : ¬ firstNaluType data (nalLengthSize init.avcC) = 5 := by
        intro starts
        refine passes ⟨by simp [live], .inr ?_⟩
        rw [lengthSize]
        exact starts
      simp [key, noStart]
    · exact tracked.rejected
    · exact tracked.missed
    · intro seen
      simp [tracked.seen seen]

end Generation.TrackedBy

namespace Playback

variable {Number : Type*}

/-- There is at most one pipe in a connection: none until the one probe has
resolved, and the pipe then keeps track of the generations. -/
structure Tracks (playback : Playback Number) : Prop where
  setup : playback.handler.webcodecsSetup = true →
    playback.handler.webcodecsDecided = true
  waits : playback.handler.webcodecsDecided = false ∨
      playback.handler.webcodecsSetup = true →
    playback.handler.webcodecsPipe = none ∧
      ∀ generation, playback.generation = some generation →
        generation.pipeAtInit = false
  opened : ∀ generation, playback.generation = some generation →
    generation.init = none → generation.keyFed = false
  tracked : ∀ pipe, playback.handler.webcodecsPipe = some pipe →
    ∀ generation, playback.generation = some generation →
      generation.TrackedBy pipe

theorem tracks_start : (start : Playback Number).Tracks where
  setup := by simp [start, MessageHandler.start]
  waits := by simp [start, MessageHandler.start]
  opened := by simp [start]
  tracked := by simp [start, MessageHandler.start]

variable [OfScientific Number] {order : InitOrder}
  {playback next : Playback Number}

omit [OfScientific Number] in
theorem Tracks.newVideo (holds : playback.Tracks) (webcodecsEnabled : Bool) :
    (Playback.mk (playback.handler.onMessage webcodecsEnabled .newVideo)
      (some .new)).Tracks := by
  cases isPipe : playback.handler.webcodecsPipe with
  | none =>
      simp only [MessageHandler.onMessage, isPipe]
      constructor
      · exact holds.setup
      · exact fun _ => ⟨rfl, by simp [Generation.new]⟩
      · simp [Generation.new]
      · simp
  | some pipe =>
      simp only [MessageHandler.onMessage, isPipe]
      constructor
      · exact holds.setup
      · intro early
        exact absurd (holds.waits early).1 (by simp [isPipe])
      · simp [Generation.new]
      · rintro _ ⟨⟩ _ ⟨⟩
        exact .new_reset pipe

omit [OfScientific Number] in
theorem Tracks.videoInit (holds : playback.Tracks) {generation : Generation}
    (isGeneration : playback.generation = some generation)
    (webcodecsEnabled : Bool) (codecString : String) :
    (Playback.mk (playback.handler.onMessage webcodecsEnabled
        (.videoInit codecString))
      (some { generation with
        codecString := some codecString })).Tracks := by
  obtain ⟨pipe, probe⟩ :=
    playback.handler.onMessage_videoInit webcodecsEnabled codecString
  constructor
  · intro setup
    rcases probe with ⟨decided, sameSetup⟩ | ⟨-, decided⟩
    · exact decided.trans (holds.setup (sameSetup.symm.trans setup))
    · exact decided
  · intro early
    have wasEarly : playback.handler.webcodecsDecided = false ∨
        playback.handler.webcodecsSetup = true := by
      rcases probe with ⟨decided, setup⟩ | ⟨undecided, -⟩
      · exact early.imp decided.symm.trans setup.symm.trans
      · exact .inl undecided
    refine ⟨pipe.trans (holds.waits wasEarly).1, ?_⟩
    rintro _ ⟨⟩
    exact (holds.waits wasEarly).2 generation isGeneration
  · rintro _ ⟨⟩
    exact holds.opened generation isGeneration
  · rintro other isPipe _ ⟨⟩
    exact (holds.tracked other (pipe.symm.trans isPipe) generation
      isGeneration).videoInit codecString

/-- A video frame starts no probe; what is left to show is how far the pipe,
if it survives the frame, is with the generation. -/
theorem Tracks.onData (holds : playback.Tracks)
    {generation later : Generation} {view : Bytes} {answer : PlatformAnswer}
    {bufferSeconds : Option Number}
    (isGeneration : playback.generation = some generation)
    (late : playback.handler.webcodecsPipe = none →
      generation.pipeAtInit = false → later.pipeAtInit = false)
    (opened : later.init ≠ none)
    (tracked : ∀ pipe, playback.handler.webcodecsPipe = some pipe →
      (pipe.feed view answer).1.errors = [] →
        later.TrackedBy (pipe.feed view answer).1) :
    (Playback.mk (playback.handler.onData view answer bufferSeconds)
      (some later)).Tracks := by
  obtain ⟨sameSetup, sameDecided⟩ :=
    playback.handler.onData_probe view answer bufferSeconds
  constructor
  · intro setup
    exact sameDecided.trans (holds.setup (sameSetup.symm.trans setup))
  · intro early
    have wasEarly := early.imp sameDecided.symm.trans sameSetup.symm.trans
    obtain ⟨noPipe, wasLate⟩ := holds.waits wasEarly
    refine ⟨MessageHandler.onData_of_none noPipe _ _ _, ?_⟩
    rintro _ ⟨⟩
    exact late noPipe (wasLate generation isGeneration)
  · rintro _ ⟨⟩ noInit
    exact absurd noInit opened
  · rintro left isLeft _ ⟨⟩
    cases isPipe : playback.handler.webcodecsPipe with
    | none =>
        have gone := MessageHandler.onData_of_none isPipe view answer
          bufferSeconds
        rw [isLeft] at gone
        cases gone
    | some pipe =>
        obtain ⟨rfl, clean⟩ := MessageHandler.onData_of_some isPipe isLeft
        exact tracked pipe isPipe clean

theorem Tracks.initSegment (holds : playback.Tracks)
    {generation : Generation} {view : Bytes} {init : InitSegment}
    (isGeneration : playback.generation = some generation)
    (noInit : generation.init = none)
    (isInit : readInitSegment view = some init) (answer : PlatformAnswer)
    (bufferSeconds : Option Number) :
    (Playback.mk (playback.handler.onData view answer bufferSeconds)
      (some { generation with
        init := some init
        pipeAtInit := playback.handler.webcodecsPipe.isSome
        configured := answer.configures })).Tracks := by
  apply holds.onData isGeneration
  · intro noPipe _
    simp [noPipe]
  · simp
  · intro pipe isPipe _
    rw [WebCodecsPipe.feed_initSegment isInit, isPipe]
    exact (holds.tracked pipe isPipe generation isGeneration).initSegment
      (holds.opened generation isGeneration noInit) init answer

theorem Tracks.fragment (holds : playback.Tracks)
    {generation : Generation} {view data : Bytes} {init : InitSegment}
    (isGeneration : playback.generation = some generation)
    (isInit : generation.init = some init)
    (isFragment : readFragment view = some data) (answer : PlatformAnswer)
    (bufferSeconds : Option Number) :
    (Playback.mk (playback.handler.onData view answer bufferSeconds)
      (some { generation with
        keyFed := generation.keyFed ||
          decide (firstNaluType data (nalLengthSize init.avcC) = 5)
        decoded := generation.decoded ||
          playback.handler.webcodecsPipe.any fun pipe =>
            decide (pipe.Passes data) })).Tracks := by
  apply holds.onData isGeneration
  · exact fun _ wasLate => wasLate
  · simp [isInit]
  · intro pipe isPipe clean
    rw [WebCodecsPipe.feed_fragment isFragment] at clean ⊢
    rw [isPipe]
    exact (holds.tracked pipe isPipe generation isGeneration).fragment
      isInit data answer clean

omit [OfScientific Number] in
theorem Tracks.probeResolved (holds : playback.Tracks)
    (pending : playback.handler.webcodecsSetup = true) (ok : Bool) :
    { playback with handler := playback.handler.onProbe ok }.Tracks := by
  obtain ⟨noPipe, late⟩ := holds.waits (.inr pending)
  have resolved : (playback.handler.onProbe ok).webcodecsDecided = true ∧
      (playback.handler.onProbe ok).webcodecsSetup = false := by
    cases ok <;> exact ⟨holds.setup pending, rfl⟩
  have settled : ¬ ((playback.handler.onProbe ok).webcodecsDecided = false ∨
      (playback.handler.onProbe ok).webcodecsSetup = true) := by
    simp [resolved]
  cases ok with
  | false =>
      constructor
      · rintro ⟨⟩
      · exact fun early => absurd early settled
      · exact holds.opened
      · intro pipe isPipe
        exact absurd isPipe (by simp [MessageHandler.onProbe, noPipe])
  | true =>
      constructor
      · rintro ⟨⟩
      · exact fun early => absurd early settled
      · exact holds.opened
      · rintro _ ⟨⟩ generation isGeneration
        exact .create (late generation isGeneration) _

omit [OfScientific Number] in
theorem Tracks.decoderError (holds : playback.Tracks) :
    { playback with handler := playback.handler.onError }.Tracks where
  setup := holds.setup
  waits early := ⟨rfl, (holds.waits early).2⟩
  opened := holds.opened
  tracked := by rintro _ ⟨⟩

theorem tracks_of_step {label : PlaybackStep Number}
    (holds : playback.Tracks)
    (moved : playback.step order label = some next) : next.Tracks := by
  cases label with
  | message message webcodecsEnabled =>
      cases message with
      | newVideo =>
          cases moved
          exact holds.newVideo webcodecsEnabled
      | videoInit codecString =>
          cases isGeneration : playback.generation with
          | none => simp [step, isGeneration] at moved
          | some generation =>
              simp only [step, isGeneration] at moved
              split at moved
              · cases moved
                exact holds.videoInit isGeneration webcodecsEnabled codecString
              · cases moved
      | _ =>
          cases moved
          exact holds
  | initSegment view answer bufferSeconds =>
      simp only [step] at moved
      split at moved
      · rename_i generation init isGeneration isInit
        split at moved
        · rename_i enabled
          cases moved
          exact holds.initSegment isGeneration enabled.1 isInit answer
            bufferSeconds
        · cases moved
      · cases moved
  | fragment view answer bufferSeconds =>
      simp only [step] at moved
      split at moved
      · rename_i generation data isGeneration isFragment
        split at moved
        · rename_i init codecString isInit _
          cases moved
          exact holds.fragment isGeneration isInit isFragment answer
            bufferSeconds
        · cases moved
      · cases moved
  | probeResolved ok =>
      simp only [step] at moved
      split at moved
      · rename_i pending
        cases moved
        exact holds.probeResolved pending ok
      · cases moved
  | decoderError =>
      simp only [step] at moved
      split at moved
      · cases moved
        exact holds.decoderError
      · cases moved

theorem tracks_of_reachable
    (reached : Transition.Reachable (step order) start playback) :
    playback.Tracks := by
  apply reached.invariant
  · exact tracks_start
  · intro before label after holds moved
    exact tracks_of_step holds moved

/-- The buffer `view` brings the pipe the access unit `data` of a generation
that has sent `init`. -/
structure Arrives (playback : Playback Number) (view : Bytes)
    (pipe : WebCodecsPipe) (generation : Generation) (init : InitSegment)
    (data : Bytes) : Prop where
  isPipe : playback.handler.webcodecsPipe = some pipe
  isGeneration : playback.generation = some generation
  isInit : generation.init = some init
  isFragment : readFragment view = some data

/-- An IDR of the current generation that is fed to the pipe meets a decoder
configured from the generation's `moov`, and is decoded. -/
def DecodesIdr (playback : Playback Number) : PlaybackStep Number → Prop
  | .fragment view answer _ => ∀ pipe generation init data,
      playback.Arrives view pipe generation init data →
        IsIdr (nalLengthSize init.avcC) data →
          pipe.decoder = some ⟨some (init.config pipe.codec)⟩ ∧
            ∃ call, call.chunk.data = data ∧
              (pipe.feed view answer).1.decodeCalls =
                pipe.decodeCalls ++ [call]
  | _ => True

/-- An IDR is fed to the pipe only if the pipe was there when the init
segment of the generation arrived and the platform accepted it, and only if
this or an earlier access unit of the generation begins with an IDR slice. -/
def FollowsInit (playback : Playback Number) : PlaybackStep Number → Prop
  | .fragment view _ _ => ∀ pipe generation init data,
      playback.Arrives view pipe generation init data →
        IsIdr (nalLengthSize init.avcC) data →
          generation.pipeAtInit = true ∧ generation.configured = true ∧
            (generation.keyFed = true ∨
              firstNaluType data (nalLengthSize init.avcC) = 5)
  | _ => True

omit [OfScientific Number] in
/-- With a decoder for the generation, an access unit is passed on exactly
from the first that begins with an IDR slice on. -/
theorem Tracks.passes_iff (holds : playback.Tracks) {view data : Bytes}
    {pipe : WebCodecsPipe} {generation : Generation} {init : InitSegment}
    (arrives : playback.Arrives view pipe generation init data)
    (atInit : generation.pipeAtInit = true)
    (configured : generation.configured = true) :
    pipe.Passes data ↔ generation.keyFed = true ∨
      firstNaluType data (nalLengthSize init.avcC) = 5 := by
  obtain ⟨live, lengthSize, key⟩ :=
    (holds.tracked pipe arrives.isPipe generation
      arrives.isGeneration).accepted atInit configured init arrives.isInit
  simp [WebCodecsPipe.Passes, live, lengthSize, key]

omit [OfScientific Number] in
theorem decodesIdr_iff_followsInit {label : PlaybackStep Number}
    (holds : playback.Tracks) :
    playback.DecodesIdr label ↔ playback.FollowsInit label := by
  cases label with
  | fragment view answer bufferSeconds =>
      refine forall₄_congr fun pipe generation init data => ?_
      refine forall₂_congr fun arrives isIdr => ?_
      have tracked := holds.tracked pipe arrives.isPipe generation
        arrives.isGeneration
      have isInit : generation.init ≠ none := by simp [arrives.isInit]
      rw [WebCodecsPipe.feed_fragment arrives.isFragment]
      constructor
      · rintro ⟨live, call, -, called⟩
        have atInit : generation.pipeAtInit = true := by
          by_contra late
          have missed := tracked.missed isInit (by simpa using late)
          rw [live] at missed
          cases missed
        have configured : generation.configured = true := by
          by_contra rejected
          have unconfigured := tracked.rejected atInit (by simpa using rejected)
          rw [live] at unconfigured
          cases unconfigured
        refine ⟨atInit, configured, ?_⟩
        rw [← holds.passes_iff arrives atInit configured]
        by_contra stays
        rw [WebCodecsPipe.feedMediaFragment_of_not_passes stays] at called
        simp at called
      · rintro ⟨atInit, configured, starts⟩
        obtain ⟨live, -, -⟩ :=
          tracked.accepted atInit configured init arrives.isInit
        refine ⟨live, ?_⟩
        have passes := (holds.passes_iff arrives atInit configured).mpr starts
        obtain ⟨decoder, type, -, -, called, -⟩ :=
          WebCodecsPipe.feedMediaFragment_of_passes passes answer
        exact ⟨_, rfl, called⟩
  | _ => exact Iff.rfl

/-- Throughout an execution, IDRs fed to the pipe are decoded with the right
configuration exactly if the pipe is fed IDRs only after their init
segment. -/
theorem decodesIdr_along_iff_followsInit
    (execution : Transition.Execution (step order)
      (start : Playback Number)) :
    execution.StepsMeet DecodesIdr ↔ execution.StepsMeet FollowsInit := by
  apply execution.stepsMeet_congr
  intro before label after reached _
  exact decodesIdr_iff_followsInit (tracks_of_reachable reached)

/-- The probe resolves between the `VideoInit` of the first generation and
its first fragment, as soon as it can. -/
def probeAfterInit : List (PlaybackStep ℚ) :=
  [.message .newVideo true,
    .initSegment (encodeMoov [1, 0x4d, 0, 0x28, 0xff]) ⟨true, true⟩ none,
    .message (.videoInit "avc1.4D0028") true, .probeResolved true]

def idrAfterProbe : PlaybackStep ℚ :=
  .fragment (encodeFragment [0, 0, 0, 1, 0x65]) ⟨true, true⟩ none

/-- The pipe that asked for an IDR has no decoder for it. -/
theorem probeAfterInit_dropsIdr :
    ∃ execution : Transition.Execution (step .initFirst)
        (start : Playback ℚ),
      execution.labels = probeAfterInit ++ [idrAfterProbe] ∧
        ¬ execution.StepsMeet DecodesIdr := by
  have taken : (Transition.run (step .initFirst) (start : Playback ℚ)
      (probeAfterInit ++ [idrAfterProbe])).isSome = true := by
    decide +kernel
  obtain ⟨final, runs⟩ := Option.isSome_iff_exists.mp taken
  have observed : (Transition.run (step .initFirst) (start : Playback ℚ)
      probeAfterInit).any (fun playback =>
        playback.handler.webcodecsPipe.any (·.decoder.isNone) &&
          playback.generation.any (·.init == some
            ⟨[1, 0x4d, 0, 0x28, 0xff], none⟩)) = true := by
    decide +kernel
  obtain ⟨playback, before, facts⟩ := (Option.any_eq_true _ _).mp observed
  rw [Bool.and_eq_true, Option.any_eq_true, Option.any_eq_true] at facts
  obtain ⟨⟨pipe, isPipe, noDecoder⟩, generation, isGeneration, isInit⟩ := facts
  refine ⟨⟨_, final, runs⟩, rfl, fun meets => ?_⟩
  have decodes := meets probeAfterInit idrAfterProbe [] playback rfl before
  have arrives : playback.Arrives (encodeFragment [0, 0, 0, 1, 0x65]) pipe
      generation ⟨[1, 0x4d, 0, 0x28, 0xff], none⟩ [0, 0, 0, 1, 0x65] :=
    ⟨isPipe, isGeneration, by simpa using isInit, by decide⟩
  have isIdr : IsIdr (nalLengthSize [1, 0x4d, 0, 0x28, 0xff])
      [0, 0, 0, 1, 0x65] :=
    ⟨[5], by decide, by decide⟩
  rw [(decodes pipe generation _ _ arrives isIdr).1] at noDecoder
  cases noDecoder

end Playback

end Rylus
