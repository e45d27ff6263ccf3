import Rylus.PipeBringUp

/-!
# The decoder and the stream it decodes

The pipe makes a new decoder of every init segment, with the codec string it
was created with.  Decoder and stream fit as long as no later generation that
the pipe decodes has another one.
-/

namespace Rylus

namespace Playback

variable {Number : Type*} [OfScientific Number] {order : InitOrder}
  {playback : Playback Number}

/-- An access unit passed to `decode` meets a decoder configured with the
codec string and the `moov` of its generation, and the first one of a
generation is a key chunk. -/
def DecoderMatches (playback : Playback Number) :
    PlaybackStep Number → Prop
  | .fragment view answer _ => ∀ pipe generation init data,
      playback.Arrives view pipe generation init data →
        ∀ call, (pipe.feed view answer).1.decodeCalls =
            pipe.decodeCalls ++ [call] →
          (∃ codecString, generation.codecString = some codecString ∧
            call.config = some (init.config codecString)) ∧
          (generation.decoded = false → call.chunk.type = .key ∧
            firstNaluType data (nalLengthSize init.avcC) = 5)
  | _ => True

/-- An access unit is passed on only in generations whose configuration the
platform accepted and whose codec string is that of the pipe. -/
def KeepsCodec (playback : Playback Number) : PlaybackStep Number → Prop
  | .fragment view _ _ => ∀ pipe generation init data,
      playback.Arrives view pipe generation init data → pipe.Passes data →
        generation.configured = true ∧
          generation.codecString = some pipe.codec
  | _ => True

omit [OfScientific Number] in
theorem decoderMatches_iff_keepsCodec {label : PlaybackStep Number}
    (holds : playback.Tracks) :
    playback.DecoderMatches label ↔ playback.KeepsCodec label := by
  cases label with
  | fragment view answer bufferSeconds =>
      refine forall₄_congr fun pipe generation init data => ?_
      refine forall_congr' fun arrives => ?_
      have tracked := holds.tracked pipe arrives.isPipe generation
        arrives.isGeneration
      have isInit : generation.init ≠ none := by simp [arrives.isInit]
      have atInit (passes : pipe.Passes data) :
          generation.pipeAtInit = true := by
        by_contra late
        have missed := tracked.missed isInit (by simpa using late)
        simp [WebCodecsPipe.Passes, missed] at passes
      rw [WebCodecsPipe.feed_fragment arrives.isFragment]
      constructor
      · intro fits passes
        obtain ⟨decoder, type, isDecoder, -, called, -⟩ :=
          WebCodecsPipe.feedMediaFragment_of_passes passes answer
        obtain ⟨⟨codecString, isCodec, config⟩, -⟩ := fits _ called
        have configured : generation.configured = true := by
          by_contra rejected
          have unconfigured :=
            tracked.rejected (atInit passes) (by simpa using rejected)
          rw [isDecoder] at unconfigured
          cases unconfigured
          cases config
        refine ⟨configured, ?_⟩
        obtain ⟨live, -, -⟩ :=
          tracked.accepted (atInit passes) configured init arrives.isInit
        rw [isDecoder] at live
        cases live
        have sameCodec : pipe.codec = codecString :=
          congrArg DecoderConfig.codec (Option.some.inj config)
        rw [isCodec, sameCodec]
      · intro keeps call isCall
        have passes : pipe.Passes data := by
          by_contra stays
          rw [WebCodecsPipe.feedMediaFragment_of_not_passes stays] at isCall
          simp at isCall
        obtain ⟨configured, sameCodec⟩ := keeps passes
        obtain ⟨live, lengthSize, -⟩ :=
          tracked.accepted (atInit passes) configured init arrives.isInit
        obtain ⟨decoder, type, isDecoder, isKey, called, -⟩ :=
          WebCodecsPipe.feedMediaFragment_of_passes passes answer
        rw [called] at isCall
        have call_eq := List.append_cancel_left isCall
        cases call_eq
        rw [live] at isDecoder
        cases isDecoder
        refine ⟨⟨pipe.codec, sameCodec, rfl⟩, fun first => ?_⟩
        have starts : firstNaluType data pipe.nalLenSize = 5 := by
          rcases passes.2 with seen | starts
          · rw [tracked.seen seen] at first
            cases first
          · exact starts
        rw [← lengthSize]
        exact ⟨isKey.mpr starts, starts⟩
  | _ => exact Iff.rfl

/-- Throughout an execution, every access unit is decoded with the
configuration of its generation exactly if the pipe decodes only generations
with the codec string it was created with. -/
theorem decoderMatches_along_iff_keepsCodec
    (execution : Transition.Execution (step order)
      (start : Playback Number)) :
    execution.StepsMeet DecoderMatches ↔ execution.StepsMeet KeepsCodec := by
  apply execution.stepsMeet_congr
  intro before label after reached _
  exact decoderMatches_iff_keepsCodec (tracks_of_reachable reached)

/-- The encoder is replaced by one of another profile and level. -/
def profileChange : List (PlaybackStep ℚ) :=
  [.message .newVideo true, .message (.videoInit "avc1.4D0028") true,
    .probeResolved true,
    .initSegment (encodeMoov [1, 0x4d, 0, 0x28, 0xff]) ⟨true, true⟩ none,
    .fragment (encodeFragment [0, 0, 0, 1, 0x65]) ⟨true, true⟩ none,
    .message .newVideo true, .message (.videoInit "avc1.640033") true,
    .initSegment (encodeMoov [1, 0x64, 0, 0x33, 0xff]) ⟨true, true⟩ none]

def idrAfterChange : PlaybackStep ℚ :=
  .fragment (encodeFragment [0, 0, 0, 1, 0x65]) ⟨true, true⟩ none

/-- The new stream is decoded with the old codec string. -/
theorem profileChange_mismatches :
    ∃ execution : Transition.Execution (step .videoInitFirst)
        (start : Playback ℚ),
      execution.labels = profileChange ++ [idrAfterChange] ∧
        ¬ execution.StepsMeet DecoderMatches := by
  have taken : (Transition.run (step .videoInitFirst) (start : Playback ℚ)
      (profileChange ++ [idrAfterChange])).isSome = true := by
    decide +kernel
  obtain ⟨final, runs⟩ := Option.isSome_iff_exists.mp taken
  have observed : (Transition.run (step .videoInitFirst)
      (start : Playback ℚ) profileChange).any (fun playback =>
        playback.handler.webcodecsPipe.any (fun pipe =>
          pipe.codec == "avc1.4D0028" &&
            decide (pipe.Passes [0, 0, 0, 1, 0x65])) &&
          playback.generation.any (fun generation =>
            generation.codecString == some "avc1.640033" &&
              generation.init == some
                ⟨[1, 0x64, 0, 0x33, 0xff], none⟩)) = true := by
    decide +kernel
  obtain ⟨playback, before, facts⟩ := (Option.any_eq_true _ _).mp observed
  simp only [Bool.and_eq_true, Option.any_eq_true, beq_iff_eq,
    decide_eq_true_eq] at facts
  obtain ⟨⟨pipe, isPipe, oldCodec, passes⟩, generation, isGeneration,
    newCodec, isInit⟩ := facts
  refine ⟨⟨_, final, runs⟩, rfl, fun meets => ?_⟩
  have fits := meets profileChange idrAfterChange [] playback rfl before
  have arrives : playback.Arrives (encodeFragment [0, 0, 0, 1, 0x65]) pipe
      generation ⟨[1, 0x64, 0, 0x33, 0xff], none⟩ [0, 0, 0, 1, 0x65] :=
    ⟨isPipe, isGeneration, isInit, by decide⟩
  have keeps := (decoderMatches_iff_keepsCodec
    (tracks_of_reachable ⟨_, before⟩)).mp fits
  have kept := (keeps pipe generation _ _ arrives passes).2
  rw [newCodec, oldCodec] at kept
  exact absurd kept (by decide)

end Playback

end Rylus
