import Rylus.LabelledExecution
import Rylus.WebCodecsPipe

/-!
# Key frames of a pipe

A pipe takes an access unit for a key frame by the type of its first NAL unit.
An encoder may put other NAL units before an IDR slice.  After a new decoder,
key frames are recognised as long as no access unit is fed with an IDR slice
behind another NAL unit.
-/

namespace Rylus

/-- The pipe looks at the first NAL unit. -/
theorem firstNaluType_of_naluTypes {nalLenSize : Nat} {data : Bytes}
    {types : List Nat} (read : naluTypes nalLenSize data = some types) :
    firstNaluType data nalLenSize = types.head?.getD 0 := by
  unfold naluTypes at read
  cases data with
  | nil =>
      cases read
      rfl
  | cons byte bytes =>
      rw [List.length_cons, naluTypesFrom] at read
      split at read
      · cases read
      · rename_i header body rest
        have first : (byte :: bytes)[nalLenSize]? = some header := by
          have head := List.head?_drop (l := byte :: bytes) (i := nalLenSize)
          rw [rest] at head
          exact head.symm
        rw [firstNaluType, first]
        split at read
        · obtain ⟨later, -, same⟩ := Option.bind_eq_some_iff.mp read
          cases same
          rfl
        · cases read

/-- A well-formed access unit with the types of its NAL units. -/
structure AccessUnit (nalLenSize : Nat) where
  data : Bytes
  types : List Nat
  isUnit : naluTypes nalLenSize data = some types

namespace AccessUnit

variable {nalLenSize : Nat} (unit : AccessUnit nalLenSize)

def HasIdr : Prop :=
  5 ∈ unit.types

instance : Decidable unit.HasIdr :=
  inferInstanceAs (Decidable (5 ∈ unit.types))

/-- The first NAL unit is an IDR slice. -/
def BeginsWithIdr : Prop :=
  unit.types.head? = some 5

theorem isIdr_iff : IsIdr nalLenSize unit.data ↔ unit.HasIdr := by
  constructor
  · rintro ⟨types, read, member⟩
    rw [unit.isUnit, Option.some.injEq] at read
    subst read
    exact member
  · exact fun member => ⟨unit.types, unit.isUnit, member⟩

theorem hasIdr_of_beginsWithIdr (begins : unit.BeginsWithIdr) :
    unit.HasIdr :=
  List.mem_of_mem_head? begins

theorem firstNaluType_eq_five_iff :
    firstNaluType unit.data nalLenSize = 5 ↔ unit.BeginsWithIdr := by
  rw [firstNaluType_of_naluTypes unit.isUnit, BeginsWithIdr]
  cases unit.types.head? <;> simp

end AccessUnit

/-- A pipe and the access units it has been fed since it has its decoder. -/
structure FedPipe (nalLenSize : Nat) where
  pipe : WebCodecsPipe
  fed : List (AccessUnit nalLenSize)

namespace FedPipe

variable {nalLenSize : Nat}

/-- A pipe just after `ensureDecoder`. -/
def started (pipe : WebCodecsPipe) (init : InitSegment)
    (answer : PlatformAnswer) : FedPipe (nalLengthSize init.avcC) where
  pipe := (pipe.ensureDecoder init answer).1
  fed := []

/-- `feedMediaFragment` of a well-formed access unit. -/
def feedUnit (state : FedPipe nalLenSize)
    (label : AccessUnit nalLenSize × PlatformAnswer) :
    Option (FedPipe nalLenSize) :=
  some
    { pipe := state.pipe.feedMediaFragment label.1.data label.2
      fed := state.fed ++ [label.1] }

/-- Of what was handed to the decoder after the calls `earlier`, exactly the
access units with an IDR slice are key chunks, and the first is the first one
fed that has an IDR slice. -/
def Recognises (earlier : List DecodeCall) (state : FedPipe nalLenSize) :
    Prop :=
  ∃ handed, state.pipe.decodeCalls = earlier ++ handed ∧
    (∀ call ∈ handed, call.chunk.type = .key ↔
      IsIdr nalLenSize call.chunk.data) ∧
    handed.head?.map (·.chunk.data) =
      (state.fed.find? fun unit => decide unit.HasIdr).map (·.data)

/-- Fed to a decoder, an access unit with an IDR slice begins with it. -/
def LeadsWithIdr (state : FedPipe nalLenSize)
    (label : AccessUnit nalLenSize × PlatformAnswer) : Prop :=
  state.pipe.decoder.isSome = true → label.1.HasIdr → label.1.BeginsWithIdr

/-- What holds of the pipe from `ensureDecoder` on, with the calls made since
then. -/
structure Follows (earlier handed : List DecodeCall)
    (state : FedPipe nalLenSize) : Prop where
  lengthSize : state.pipe.nalLenSize = nalLenSize
  calls : state.pipe.decodeCalls = earlier ++ handed
  seen : state.pipe.seenKeyframe = true ↔ handed ≠ []
  live : handed = [] → state.pipe.decoder.isSome = true

variable {earlier handed : List DecodeCall} {state next : FedPipe nalLenSize}
  {label : AccessUnit nalLenSize × PlatformAnswer}

theorem follows_started (pipe : WebCodecsPipe) (init : InitSegment)
    {answer : PlatformAnswer} (accepts : answer.configures = true) :
    (started pipe init answer).Follows pipe.decodeCalls [] := by
  have configured : (pipe.ensureDecoder init answer).1 =
      { pipe with
        decoder := some ⟨some (init.config pipe.codec)⟩
        nalLenSize := nalLengthSize init.avcC
        seenKeyframe := false } := by
    rw [WebCodecsPipe.ensureDecoder, if_pos accepts]
  constructor <;> simp [started, configured]

theorem Follows.passes_iff (follows : state.Follows earlier handed) :
    state.pipe.Passes label.1.data ↔
      state.pipe.decoder.isSome = true ∧
        (state.pipe.seenKeyframe = true ∨ label.1.BeginsWithIdr) := by
  rw [WebCodecsPipe.Passes, follows.lengthSize,
    label.1.firstNaluType_eq_five_iff]

/-- Handing an access unit to the decoder is one more call, of a key chunk
exactly if the unit begins with an IDR slice. -/
theorem Follows.passes (follows : state.Follows earlier handed)
    (passes : state.pipe.Passes label.1.data)
    (fed : state.feedUnit label = some next) :
    ∃ call, next.Follows earlier (handed ++ [call]) ∧
      call.chunk.data = label.1.data ∧
      (call.chunk.type = .key ↔ label.1.BeginsWithIdr) := by
  cases fed
  obtain ⟨decoder, type, -, isKey, called, -⟩ :=
    WebCodecsPipe.feedMediaFragment_of_passes passes label.2
  rw [follows.lengthSize, label.1.firstNaluType_eq_five_iff] at isKey
  refine ⟨⟨decoder.config, ⟨type, state.pipe.timestamp, label.1.data⟩⟩, ?_, rfl,
    isKey⟩
  constructor
  · rw [WebCodecsPipe.nalLenSize_feedMediaFragment]
    exact follows.lengthSize
  · rw [called, follows.calls, List.append_assoc]
  · rw [WebCodecsPipe.seenKeyframe_feedMediaFragment passes]
    simp
  · intro empty
    simp at empty

/-- Other access units are waited over. -/
theorem Follows.stays (follows : state.Follows earlier handed)
    (stays : ¬ state.pipe.Passes label.1.data)
    (fed : state.feedUnit label = some next) :
    next.Follows earlier handed := by
  cases fed
  have same : state.pipe.feedMediaFragment label.1.data label.2 =
      state.pipe :=
    WebCodecsPipe.feedMediaFragment_of_not_passes stays label.2
  constructor
  · rw [same]
    exact follows.lengthSize
  · rw [same]
    exact follows.calls
  · rw [same]
    exact follows.seen
  · rw [same]
    exact follows.live

theorem exists_follows {initial : FedPipe nalLenSize}
    (starts : initial.Follows earlier [])
    (reached : Transition.Reachable feedUnit initial state) :
    ∃ handed, state.Follows earlier handed := by
  apply reached.invariant
  · exact ⟨[], starts⟩
  · rintro before label after ⟨handed, follows⟩ fed
    by_cases passes : before.pipe.Passes label.1.data
    · obtain ⟨call, follows, -⟩ := follows.passes passes fed
      exact ⟨_, follows⟩
    · exact ⟨handed, follows.stays passes fed⟩

/-- The calls made since `ensureDecoder` are determined. -/
theorem Follows.recognises_iff (follows : state.Follows earlier handed) :
    state.Recognises earlier ↔
      (∀ call ∈ handed, call.chunk.type = .key ↔
        IsIdr nalLenSize call.chunk.data) ∧
      handed.head?.map (·.chunk.data) =
        (state.fed.find? fun unit => decide unit.HasIdr).map (·.data) := by
  constructor
  · rintro ⟨others, calls, recognised⟩
    rw [follows.calls] at calls
    rw [List.append_cancel_left calls]
    exact recognised
  · exact fun recognised => ⟨handed, follows.calls, recognised⟩

theorem find?_fed (fed : state.feedUnit label = some next) :
    (next.fed.find? fun unit => decide unit.HasIdr) =
      (state.fed.find? fun unit => decide unit.HasIdr).or
        (if label.1.HasIdr then some label.1 else none) := by
  cases fed
  simp [List.find?_append, List.find?_singleton]

/-- A unit that is handed on is recognised exactly if it has no IDR slice but
at its beginning. -/
theorem recognises_iff_of_passes (follows : state.Follows earlier handed)
    (recognised : state.Recognises earlier)
    (passes : state.pipe.Passes label.1.data)
    (fed : state.feedUnit label = some next) :
    next.Recognises earlier ↔ state.LeadsWithIdr label := by
  obtain ⟨call, followsNext, isData, isKey⟩ := follows.passes passes fed
  rw [follows.recognises_iff] at recognised
  rw [followsNext.recognises_iff, find?_fed fed, List.forall_mem_append,
    and_iff_right recognised.1, List.forall_mem_singleton, isKey, isData,
    label.1.isIdr_iff]
  have leads : (label.1.BeginsWithIdr ↔ label.1.HasIdr) ↔
      state.LeadsWithIdr label := by
    rw [LeadsWithIdr, forall_prop_of_true passes.1]
    exact ⟨Iff.mpr, fun begins =>
      ⟨label.1.hasIdr_of_beginsWithIdr, begins⟩⟩
  rw [leads, and_iff_left]
  cases handed with
  | nil =>
      -- the first unit handed on begins with an IDR slice
      have waiting : ¬ state.pipe.seenKeyframe = true := by
        rw [follows.seen]
        simp
      have begins : label.1.BeginsWithIdr :=
        (follows.passes_iff.mp passes).2.resolve_left waiting
      have none := recognised.2.symm
      rw [List.head?_nil, Option.map_none, Option.map_eq_none_iff] at none
      rw [none, if_pos (label.1.hasIdr_of_beginsWithIdr begins)]
      exact congrArg some isData
  | cons first later =>
      have found := recognised.2.symm
      rw [List.head?_cons, Option.map_some, Option.map_eq_some_iff] at found
      obtain ⟨unit, isFirst, sameData⟩ := found
      rw [isFirst]
      exact congrArg some sameData.symm

/-- A unit that is waited over is recognised exactly if it has no IDR
slice, or comes too late for the decoder. -/
theorem recognises_iff_of_stays (follows : state.Follows earlier handed)
    (recognised : state.Recognises earlier)
    (stays : ¬ state.pipe.Passes label.1.data)
    (fed : state.feedUnit label = some next) :
    next.Recognises earlier ↔ state.LeadsWithIdr label := by
  rw [follows.recognises_iff] at recognised
  rw [(follows.stays stays fed).recognises_iff, find?_fed fed,
    and_iff_right recognised.1]
  cases handed with
  | nil =>
      -- still waiting for the first key frame
      have live := follows.live rfl
      have notBegins : ¬ label.1.BeginsWithIdr := fun begins =>
        stays (follows.passes_iff.mpr ⟨live, .inr begins⟩)
      have none := recognised.2.symm
      rw [List.head?_nil, Option.map_none, Option.map_eq_none_iff] at none
      rw [none, Option.none_or, LeadsWithIdr, forall_prop_of_true live]
      by_cases hasIdr : label.1.HasIdr
      · simp [hasIdr, notBegins]
      · simp [hasIdr]
  | cons first later =>
      -- the decoder is gone
      have seen : state.pipe.seenKeyframe = true := follows.seen.mpr (by simp)
      have noDecoder : ¬ state.pipe.decoder.isSome = true :=
        fun live => stays ⟨live, .inl seen⟩
      have found := recognised.2.symm
      rw [List.head?_cons, Option.map_some, Option.map_eq_some_iff] at found
      obtain ⟨unit, isFirst, sameData⟩ := found
      refine iff_of_true ?_ fun live => absurd live noDecoder
      rw [isFirst]
      exact congrArg some sameData.symm

/-- From `ensureDecoder` on, whatever well-formed access units are fed, key
frames are recognised exactly if no unit is fed to the decoder with an IDR
slice behind its first NAL unit. -/
theorem recognises_along_iff (pipe : WebCodecsPipe) (init : InitSegment)
    (answer : PlatformAnswer) (accepts : answer.configures = true)
    (execution : Transition.Execution feedUnit
      (started pipe init answer)) :
    execution.Along (Recognises pipe.decodeCalls) ↔
      execution.StepsMeet LeadsWithIdr := by
  have starts := follows_started pipe init accepts
  apply execution.along_iff_stepsMeet
  · exact starts.recognises_iff.mpr ⟨by simp, rfl⟩
  · intro before label after reached recognised fed
    obtain ⟨handed, follows⟩ := exists_follows starts reached
    by_cases passes : before.pipe.Passes label.1.data
    · exact recognises_iff_of_passes follows recognised passes fed
    · exact recognises_iff_of_stays follows recognised passes fed

/-- Lengths are four bytes. -/
def fourByteInit : InitSegment := ⟨[1, 0x4d, 0, 0x28, 0xff], none⟩

/-- A picture of two IDR slices. -/
def idrUnit : AccessUnit (nalLengthSize fourByteInit.avcC) where
  data := [0, 0, 0, 1, 0x65, 0, 0, 0, 1, 0x65]
  types := [5, 5]
  isUnit := by decide

/-- A picture of one slice that needs another picture. -/
def deltaUnit : AccessUnit (nalLengthSize fourByteInit.avcC) where
  data := [0, 0, 0, 1, 0x41]
  types := [1]
  isUnit := by decide

/-- Supplemental information and an IDR slice. -/
def seiIdrUnit : AccessUnit (nalLengthSize fourByteInit.avcC) where
  data := [0, 0, 0, 1, 0x06, 0, 0, 0, 1, 0x65]
  types := [6, 5]
  isUnit := by decide

/-- One access unit after `ensureDecoder`. -/
def unitRun (unit : AccessUnit (nalLengthSize fourByteInit.avcC)) :
    Transition.Execution feedUnit
      (started (.create "avc1.42E01E") fourByteInit ⟨true, true⟩) where
  labels := [(unit, ⟨true, true⟩)]
  final := _
  runs := rfl

/-- A delta frame that is waited over, an IDR picture and another delta
frame. -/
def idrRun : Transition.Execution feedUnit
    (started (.create "avc1.42E01E") fourByteInit ⟨true, true⟩) where
  labels := [(deltaUnit, ⟨true, true⟩), (idrUnit, ⟨true, true⟩),
    (deltaUnit, ⟨true, true⟩)]
  final := _
  runs := rfl

/-- The IDR picture is recognised, and two units are handed on. -/
theorem recognises_along_idrUnit :
    idrRun.Along (Recognises []) ∧
      (idrRun.final.pipe.decodeCalls.map fun call => call.chunk.data) =
        [idrUnit.data, deltaUnit.data] := by
  refine ⟨?_, rfl⟩
  apply (recognises_along_iff (.create "avc1.42E01E") fourByteInit
    ⟨true, true⟩ rfl idrRun).mpr
  apply Transition.Execution.stepsMeet_of_meetsFrom
  refine ⟨?_, fun _ _ => ⟨fun _ _ => rfl, fun _ _ => ⟨?_, fun _ _ => trivial⟩⟩⟩
  · intro _ hasIdr
    exact absurd hasIdr (by unfold AccessUnit.HasIdr; decide)
  · intro _ hasIdr
    exact absurd hasIdr (by unfold AccessUnit.HasIdr; decide)

/-- An IDR slice behind supplemental information is waited over. -/
theorem seiIdrUnit_not_recognised :
    ¬ ∀ (pipe : WebCodecsPipe) (init : InitSegment) (answer : PlatformAnswer),
      answer.configures = true →
        ∀ execution : Transition.Execution feedUnit
            (started pipe init answer),
          execution.Along (Recognises pipe.decodeCalls) := by
  intro always
  obtain ⟨handed, calls, -, first⟩ :=
    always (.create "avc1.42E01E") fourByteInit ⟨true, true⟩ rfl
      (unitRun seiIdrUnit) [(seiIdrUnit, ⟨true, true⟩)] [] _ rfl rfl
  have nothing : handed = [] := calls.symm
  rw [nothing] at first
  cases first

end FedPipe

end Rylus
