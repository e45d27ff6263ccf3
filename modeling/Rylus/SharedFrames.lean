import Rylus.SharedMemory

/-!
# Frames in shared memory

`capture` wraps `width * height * 4` bytes at the address of the recorder's
segment.  The segment of a new recorder has a size computed in `u32`, one that
has grown a size computed in `usize`.
-/

namespace Rylus

namespace SysvShm

open ResourceLedger X11

/-- The answers to `capture`: the geometry of the target, those while the
segment grows, and whether the X server copies the image. -/
structure CaptureIo where
  geometry : Except CError (UInt16 × UInt16)
  grow : AcquireIo
  image : Bool

/-- Bytes at an address. -/
structure Slice where
  addr : UInt64
  length : Nat
  deriving DecidableEq

namespace RecorderX11

/-- Bytes of a frame of the recorder's size, in the arithmetic of `usize`. -/
def frameSize (recorder : RecorderX11) : Nat :=
  recorder.width.toNat * recorder.height.toNat * 4

/-- The live segments and the recorder after the call, and the bytes that the
frame consists of unless the call fails. -/
def capture (recorder : RecorderX11) (segments : List Segment)
    (io : CaptureIo) : List Segment × RecorderX11 × Option Slice :=
  match io.geometry with
  | .error _ => (segments, recorder, none)
  | .ok (width, height) =>
      let resized :=
        if width ≠ recorder.width ∨ height ≠ recorder.height then
          recorder.ensureShmCapacity segments width height io.grow
        else
          (segments, recorder, .ok ())
      match resized with
      | (segments, recorder, .error _) => (segments, recorder, none)
      | (segments, recorder, .ok ()) =>
          if io.image then
            (segments, recorder, some ⟨recorder.shmAddr, recorder.frameSize⟩)
          else
            (segments, recorder, none)

end RecorderX11

inductive FrameCall where
  | new (io : NewIo)
  | capture (index : Nat) (io : CaptureIo)
  | drop (index : Nat)

namespace Process

/-- A call on the recorder at `index`, or `new`. -/
def frameStep (process : Process) : FrameCall → Option Process
  | .new io => process.step (.new io)
  | .capture index io =>
      if io.grow.IsFresh process.segments then
        process.recorders[index]?.map fun recorder =>
          let (segments, recorder, _) := recorder.capture process.segments io
          ⟨segments, process.recorders.set index recorder⟩
      else none
  | .drop index => process.step (.drop index)

/-- The segment of every recorder is as large as its frames or larger. -/
def CoversFrames (process : Process) : Prop :=
  ∀ recorder ∈ process.recorders, ∃ segment ∈ process.segments,
    segment.id = recorder.shmId ∧
      recorder.width.toNat * recorder.height.toNat * 4 ≤ segment.size

/-- The bytes that `capture` returns are within the recorder's segment. -/
def SlicesInside (process : Process) : FrameCall → Prop
  | .capture index io => ∀ recorder ∈ process.recorders[index]?,
      let called := recorder.capture process.segments io
      ∀ slice ∈ called.2.2, ∃ segment ∈ called.1,
        segment.id = called.2.1.shmId ∧ slice.addr = called.2.1.shmAddr ∧
          slice.length ≤ segment.size
  | .new _ | .drop _ => True

/-- A new recorder that gets all it needs is for a target of which the frames
have fewer than `2 ^ 32` bytes. -/
def FitsU32 (_process : Process) : FrameCall → Prop
  | .new io => ∀ width height, io.geometry = .ok (width, height) →
      io.Succeeds → io.generateId.isOk → io.shmAttach.isOk →
        width.toNat * height.toNat * 4 < 2 ^ 32
  | .capture _ _ | .drop _ => True

end Process

/-! ### What the calls do to the capacity -/

namespace RecorderX11

/-- The capacity is enough for the frames. -/
def Fits (recorder : RecorderX11) : Prop :=
  recorder.frameSize ≤ recorder.shmCapacity

theorem toNat_segSize (width height : UInt16) :
    (segSize width height).toNat =
      width.toNat * height.toNat * 4 % 2 ^ 32 := by
  rw [segSize, UInt32.toNat_mul, UInt32.toNat_mul, UInt16.toNat_toUInt32,
    UInt16.toNat_toUInt32, Nat.mod_mul_mod]
  rfl

/-- The size of a new segment is cut off exactly if it has more than 32
bits. -/
theorem le_segSize_iff (width height : UInt16) :
    width.toNat * height.toNat * 4 ≤ (segSize width height).toNat ↔
      width.toNat * height.toNat * 4 < 2 ^ 32 := by
  rw [toNat_segSize]
  omega

/-- `ensure_shm_capacity` leaves a recorder that fits, or the one before. -/
theorem fits_ensureShmCapacity {recorder : RecorderX11} (fits : recorder.Fits)
    (segments : List Segment) (newWidth newHeight : UInt16)
    (io : AcquireIo) :
    (recorder.ensureShmCapacity segments newWidth newHeight io).2.1.Fits := by
  cases isResult :
      (recorder.ensureShmCapacity segments newWidth newHeight io).2.2 with
  | error error =>
      rw [ensureShmCapacity_of_error isResult]
      exact fits
  | ok done =>
      obtain ⟨isWidth, isHeight, isCapacity⟩ :=
        recorder.ensureShmCapacity_of_ok isResult
      rw [Fits, frameSize, isWidth, isHeight, isCapacity]
      exact le_max_right _ _

/-- What `new` needs for a recorder, and the size that it gives it. -/
theorem new_of_ok {segments : List Segment} {io : NewIo}
    {recorder : RecorderX11} (fresh : io.IsFresh segments)
    (created : (new segments io).2 = .ok recorder) :
    io.geometry = .ok (recorder.width, recorder.height) ∧ io.Succeeds ∧
      io.generateId.isOk ∧ io.shmAttach.isOk ∧
        recorder.shmCapacity =
          (segSize recorder.width recorder.height).toNat := by
  cases placed : io.geometry with
  | error error =>
      simp only [new, placed] at created
      cases created
  | ok size =>
      obtain ⟨width, height⟩ := size
      rcases alloc_spec fresh (segSize width height).toNat with
        ⟨-, error, isError⟩ | ⟨succeeds, -, addr, isOk⟩
      · simp only [new, placed, isError] at created
        cases created
      · cases named : io.generateId with
        | error error =>
            simp only [new, placed, isOk, named] at created
            cases created
        | ok shmSeg =>
            cases attached : io.shmAttach with
            | error error =>
                simp only [new, placed, isOk, named, attached] at created
                cases created
            | ok done =>
                simp only [new, placed, isOk, named, attached] at created
                cases created
                exact ⟨rfl, succeeds, rfl, rfl, rfl⟩

/-- `capture` leaves segments and recorder alone or makes the segment large
enough, and returns the frame at the address of the recorder it leaves. -/
theorem capture_cases (recorder : RecorderX11) (segments : List Segment)
    (io : CaptureIo) :
    ∃ result, (result = (segments, recorder, .ok ()) ∨
        ∃ width height, result =
          recorder.ensureShmCapacity segments width height io.grow) ∧
      (recorder.capture segments io).1 = result.1 ∧
      (recorder.capture segments io).2.1 = result.2.1 ∧
      ∀ slice ∈ (recorder.capture segments io).2.2,
        slice = ⟨result.2.1.shmAddr, result.2.1.frameSize⟩ := by
  cases placed : io.geometry with
  | error error =>
      refine ⟨(segments, recorder, .ok ()), .inl rfl, ?_⟩
      simp [capture, placed]
  | ok size =>
      obtain ⟨width, height⟩ := size
      generalize isResized : (if width ≠ recorder.width ∨
          height ≠ recorder.height then
        recorder.ensureShmCapacity segments width height io.grow
        else (segments, recorder, .ok ())) = resized
      refine ⟨resized, ?_, ?_⟩
      · rw [← isResized]
        split
        · exact .inr ⟨width, height, rfl⟩
        · exact .inl rfl
      · obtain ⟨after, changed, result⟩ := resized
        simp only [capture, placed, isResized]
        cases result with
        | error error => exact ⟨rfl, rfl, fun _ none => by cases none⟩
        | ok done =>
            cases copied : io.image with
            | false => exact ⟨rfl, rfl, fun _ none => by cases none⟩
            | true =>
                refine ⟨rfl, rfl, ?_⟩
                rintro slice ⟨⟩
                rfl

end RecorderX11

namespace Process

variable {before after process : Process} {call : FrameCall}
  {leaked : List Segment} {index : Nat}

/-- A capture that is no step of the shared memory changes nothing. -/
theorem step_of_capture {io : CaptureIo}
    (moved : before.frameStep (.capture index io) = some after) :
    after = before ∨ ∃ width height,
      before.step (.ensureShmCapacity index width height io.grow) =
        some after := by
  simp only [frameStep] at moved
  split at moved
  next fresh =>
    obtain ⟨recorder, present, rfl⟩ := Option.map_eq_some_iff.mp moved
    obtain ⟨result, isResult, isSegments, isRecorder, -⟩ :=
      recorder.capture_cases before.segments io
    rw [isSegments, isRecorder]
    rcases isResult with rfl | ⟨width, height, rfl⟩
    · obtain ⟨inside, rfl⟩ := List.getElem?_eq_some_iff.mp present
      rw [List.set_getElem_self]
      exact .inl rfl
    · refine .inr ⟨width, height, ?_⟩
      simp only [step, if_pos fresh, present]
      rfl
  next => cases moved

theorem accounts_of_frameStep (accounts : before.Accounts leaked)
    (moved : before.frameStep call = some after) :
    ∃ leaked', after.Accounts leaked' := by
  cases call with
  | new io =>
      obtain ⟨leaked', accounts', -⟩ := accounts.new moved
      exact ⟨leaked', accounts'⟩
  | capture index io =>
      rcases step_of_capture moved with rfl | ⟨width, height, grown⟩
      · exact ⟨leaked, accounts⟩
      · obtain ⟨leaked', accounts', -⟩ := accounts.ensureShmCapacity grown
        exact ⟨leaked', accounts'⟩
  | drop index => exact ⟨leaked, accounts.drop moved⟩

theorem accounts_of_frames
    (reached : Transition.Reachable frameStep start process) :
    ∃ leaked, process.Accounts leaked := by
  apply reached.invariant
  · exact ⟨[], Accounted.nil⟩
  · rintro before call after ⟨leaked, accounts⟩ moved
    exact accounts_of_frameStep accounts moved

/-- The segment with the id of a recorder is the one of its capacity. -/
theorem Accounts.mem_segments (accounts : process.Accounts leaked)
    {recorder : RecorderX11} (member : recorder ∈ process.recorders) :
    recorder.segment ∈ process.segments := by
  rw [accounts.split.mem_iff]
  exact List.mem_append_left leaked (List.mem_map_of_mem member)

theorem Accounts.eq_segment (accounts : process.Accounts leaked)
    {recorder : RecorderX11} (member : recorder ∈ process.recorders)
    {segment : Segment} (live : segment ∈ process.segments)
    (same : segment.id = recorder.shmId) : segment = recorder.segment :=
  List.inj_on_of_nodup_map accounts.distinct live
    (accounts.mem_segments member) same

/-- In a reachable state it is the capacities that must be large enough. -/
theorem Accounts.coversFrames_iff (accounts : process.Accounts leaked) :
    process.CoversFrames ↔ ∀ recorder ∈ process.recorders, recorder.Fits := by
  constructor
  · intro covers recorder member
    obtain ⟨segment, live, same, large⟩ := covers recorder member
    rw [accounts.eq_segment member live same] at large
    exact large
  · intro fits recorder member
    exact ⟨recorder.segment, accounts.mem_segments member, rfl,
      fits recorder member⟩

/-- `new` keeps the frames covered exactly if the size of its frames fits. -/
theorem fits_new_iff (fits : ∀ recorder ∈ before.recorders, recorder.Fits)
    {io : NewIo} (moved : before.step (.new io) = some after) :
    (∀ recorder ∈ after.recorders, recorder.Fits) ↔
      before.FitsU32 (.new io) := by
  simp only [step] at moved
  split at moved
  next fresh =>
    rcases RecorderX11.new_spec fresh with
      ⟨stops, error, isError⟩ | ⟨placed, succeeds, isNew, ⟨completes,
        recorder, isId, isOk⟩ | ⟨leaks, size, error, isError⟩⟩
    · rw [isError] at moved
      cases moved
      refine iff_of_true fits ?_
      intro width height placed succeeds
      exact absurd ⟨by rw [placed]; rfl, succeeds⟩ stops
    · obtain ⟨isSize, -, -, -, isCapacity⟩ :=
        RecorderX11.new_of_ok fresh (congrArg Prod.snd isOk)
      have newFits : recorder.Fits ↔
          recorder.width.toNat * recorder.height.toNat * 4 < 2 ^ 32 := by
        rw [RecorderX11.Fits, isCapacity]
        exact RecorderX11.le_segSize_iff recorder.width recorder.height
      rw [isOk] at moved
      cases moved
      rw [List.forall_mem_cons, and_iff_left fits, newFits]
      constructor
      · intro small width height placed' _ _ _
        cases isSize.symm.trans placed'
        exact small
      · intro small
        exact small _ _ isSize succeeds completes.1 completes.2
    · rw [isError] at moved
      cases moved
      refine iff_of_true fits ?_
      intro width height _ _ named attached
      exact absurd ⟨named, attached⟩ leaks
  next => cases moved

theorem fits_ensureShmCapacity
    (fits : ∀ recorder ∈ before.recorders, recorder.Fits)
    {width height : UInt16} {io : AcquireIo}
    (moved : before.step (.ensureShmCapacity index width height io) =
      some after) :
    ∀ recorder ∈ after.recorders, recorder.Fits := by
  simp only [step] at moved
  split at moved
  next fresh =>
    obtain ⟨recorder, present, rfl⟩ := Option.map_eq_some_iff.mp moved
    intro other member
    rcases List.mem_or_eq_of_mem_set member with old | rfl
    · exact fits other old
    · apply RecorderX11.fits_ensureShmCapacity
      exact fits recorder (List.mem_of_getElem? present)
  next => cases moved

/-- A step keeps the frames covered exactly if it creates no recorder whose
frames are too large. -/
theorem fits_step_iff (fits : ∀ recorder ∈ before.recorders, recorder.Fits)
    (moved : before.frameStep call = some after) :
    (∀ recorder ∈ after.recorders, recorder.Fits) ↔
      before.FitsU32 call := by
  cases call with
  | new io => exact fits_new_iff fits moved
  | capture index io =>
      refine iff_of_true ?_ trivial
      rcases step_of_capture moved with rfl | ⟨width, height, grown⟩
      · exact fits
      · exact fits_ensureShmCapacity fits grown
  | drop index =>
      obtain ⟨recorder, present, rfl⟩ := Option.map_eq_some_iff.mp moved
      refine iff_of_true ?_ trivial
      intro other member
      exact fits other (List.mem_of_mem_eraseIdx member)

/-- The bytes of a frame are inside when the recorder it is left in covers
them. -/
theorem slicesInside_of_coversFrames (covers : after.CoversFrames)
    (moved : before.frameStep call = some after) :
    before.SlicesInside call := by
  cases call with
  | new io => trivial
  | drop index => trivial
  | capture index io =>
      intro recorder present called slice isSlice
      simp only [frameStep] at moved
      split at moved
      next fresh =>
        rw [present, Option.map_some] at moved
        cases moved
        obtain ⟨inside, -⟩ := List.getElem?_eq_some_iff.mp present
        obtain ⟨segment, live, same, large⟩ := covers called.2.1
          (List.mem_set inside called.2.1)
        obtain ⟨result, -, -, isRecorder, bytes⟩ :=
          recorder.capture_cases before.segments io
        rw [bytes slice isSlice, ← isRecorder]
        exact ⟨segment, live, same, rfl, large⟩
      next => cases moved

/-- Along a sequence of calls the segments always cover the frames, and what
`capture` returns is inside them, exactly if no recorder is created for frames
of more than 32 bits. -/
theorem coversFrames_along_iff_fitsU32
    (execution : Transition.Execution frameStep start) :
    (execution.Along CoversFrames ∧ execution.StepsMeet SlicesInside) ↔
      execution.StepsMeet FitsU32 := by
  have covers : execution.Along CoversFrames ↔
      execution.StepsMeet FitsU32 := by
    have starts : start.CoversFrames := by
      intro recorder member
      cases member
    apply execution.along_iff_stepsMeet starts
    intro before call after reached covers moved
    obtain ⟨leaked, accounts⟩ := accounts_of_frames reached
    obtain ⟨leaked', accounts'⟩ := accounts_of_frameStep accounts moved
    rw [accounts'.coversFrames_iff]
    exact fits_step_iff (accounts.coversFrames_iff.mp covers) moved
  rw [← covers, and_iff_left_iff_imp]
  intro along taken call rest process split runs
  obtain ⟨next, moved, reaches⟩ := execution.exists_next split runs
  have split' : execution.labels = taken ++ [call] ++ rest := by
    rw [split, List.append_assoc]
    rfl
  exact slicesInside_of_coversFrames (along _ rest next split' reaches) moved

/-- A recorder of 32769 by 32768 pixels, which gets a segment of 2 ^ 17
bytes. -/
def newTooLarge : Transition.Execution frameStep start where
  labels := [.new ⟨⟨⟨0, some 4096⟩, .ok 1, .ok ()⟩, .ok (32769, 32768)⟩]
  final := _
  runs := rfl

theorem newTooLarge_not_coversFrames :
    ¬ ∀ execution : Transition.Execution frameStep start,
      execution.Along CoversFrames ∧ execution.StepsMeet SlicesInside := by
  intro holds
  have covers := (holds newTooLarge).1 newTooLarge.labels [] _ rfl rfl
  obtain ⟨segment, live, -, large⟩ := covers _ (List.mem_singleton_self _)
  obtain rfl := List.mem_singleton.mp live
  exact absurd large (by decide)

end Process

end SysvShm

end Rylus
