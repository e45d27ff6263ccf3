import Rylus.ResourceLedger
import Rylus.X11Geometry

/-!
# The shared memory of X11 recorders

A recorder owns one SysV segment, which outlives the process unless it is
freed.  `new` and `ensure_shm_capacity` acquire a segment, a resource id and
the attachment of the X server, in this order.  What the kernel and the X
connection answer is part of the call; texts of their errors are left out.
-/

namespace Rylus

namespace SysvShm

open ResourceLedger X11

/-- A segment that has not been removed. -/
structure Segment where
  id : Int32
  size : Nat
  deriving DecidableEq

/-- The answers to `shmget` and `shmat`; `none` is the address of all ones. -/
structure AllocIo where
  shmget : Int32
  shmat : Option UInt64

/-- Allocate a segment: the live ones afterwards, and its id and address. -/
def alloc (segments : List Segment) (size : Nat) (io : AllocIo) :
    List Segment × Except String (Int32 × UInt64) :=
  if io.shmget < 0 then (segments, .error "shmget failed: ")
  else
    let segments := ⟨io.shmget, size⟩ :: segments
    match io.shmat with
    | none => (release Segment.id io.shmget segments, .error "shmat failed: ")
    | some addr => (segments, .ok (io.shmget, addr))

/-- Detach and remove a segment; what is attached is not kept. -/
def free (segments : List Segment) (shmId : Int32) (_addr : UInt64) :
    List Segment :=
  release Segment.id shmId segments

/-- The fields of a recorder that have to do with its segment. -/
structure RecorderX11 where
  shmSeg : UInt32
  shmId : Int32
  shmAddr : UInt64
  shmCapacity : Nat
  width : UInt16
  height : UInt16
  deriving DecidableEq

/-- The answers while a segment is acquired. -/
structure AcquireIo extends AllocIo where
  generateId : Except String UInt32
  shmAttach : Except String Unit

/-- The answers to `new`; `geometry` is what comes before the segment. -/
structure NewIo extends AcquireIo where
  geometry : Except CError (UInt16 × UInt16)

namespace RecorderX11

/-- Bytes of an image, in the arithmetic of `u32`. -/
def segSize (width height : UInt16) : UInt32 :=
  width.toUInt32 * height.toUInt32 * 4

def new (segments : List Segment) (io : NewIo) :
    List Segment × Except CError RecorderX11 :=
  match io.geometry with
  | .error error => (segments, .error error)
  | .ok (width, height) =>
      let size := (segSize width height).toNat
      match alloc segments size io.toAllocIo with
      | (segments, .error error) => (segments, .error ⟨1, error⟩)
      | (segments, .ok (shmId, shmAddr)) =>
          match io.generateId with
          | .error error => (segments, .error ⟨1, error⟩)
          | .ok shmSeg =>
              match io.shmAttach with
              | .error error =>
                  (segments, .error ⟨1, "ShmAttach failed: " ++ error⟩)
              | .ok () =>
                  (segments, .ok
                    { shmSeg := shmSeg
                      shmId := shmId
                      shmAddr := shmAddr
                      shmCapacity := size
                      width := width
                      height := height })

/-- The live segments and the recorder after the call, and its result. -/
def ensureShmCapacity (recorder : RecorderX11) (segments : List Segment)
    (newWidth newHeight : UInt16) (io : AcquireIo) :
    List Segment × RecorderX11 × Except CError Unit :=
  let needed := newWidth.toNat * newHeight.toNat * 4
  if needed ≤ recorder.shmCapacity then
    (segments, { recorder with width := newWidth, height := newHeight },
      .ok ())
  else
    match alloc segments needed io.toAllocIo with
    | (segments, .error error) => (segments, recorder, .error ⟨1, error⟩)
    | (segments, .ok (newId, newAddr)) =>
        match io.generateId with
        | .error error => (segments, recorder, .error ⟨1, error⟩)
        | .ok newSeg =>
            match io.shmAttach with
            | .error error =>
                -- the new allocation is rolled back
                (free segments newId newAddr, recorder,
                  .error ⟨1, "ShmAttach failed: " ++ error⟩)
            | .ok () =>
                (free segments recorder.shmId recorder.shmAddr,
                  { shmSeg := newSeg
                    shmId := newId
                    shmAddr := newAddr
                    shmCapacity := needed
                    width := newWidth
                    height := newHeight },
                  .ok ())

/-- `drop`. -/
def drop (recorder : RecorderX11) (segments : List Segment) : List Segment :=
  free segments recorder.shmId recorder.shmAddr

/-- The segment that a recorder is going to free. -/
def segment (recorder : RecorderX11) : Segment :=
  ⟨recorder.shmId, recorder.shmCapacity⟩

end RecorderX11

/-- The live segments of the process and its recorders. -/
structure Process where
  segments : List Segment
  recorders : List RecorderX11

inductive ShmCall where
  | new (io : NewIo)
  | ensureShmCapacity (index : Nat) (newWidth newHeight : UInt16)
      (io : AcquireIo)
  | drop (index : Nat)

/-- A new segment has the id of no live one. -/
def AllocIo.IsFresh (io : AllocIo) (segments : List Segment) : Prop :=
  0 ≤ io.shmget → io.shmget ∉ segments.map Segment.id

instance (io : AllocIo) (segments : List Segment) :
    Decidable (io.IsFresh segments) :=
  inferInstanceAs (Decidable (_ → _))

namespace Process

def start : Process :=
  ⟨[], []⟩

/-- A call on the recorder at `index`, or `new`. -/
def step (process : Process) : ShmCall → Option Process
  | .new io =>
      if io.IsFresh process.segments then
        match RecorderX11.new process.segments io with
        | (segments, .ok recorder) =>
            some ⟨segments, recorder :: process.recorders⟩
        | (segments, .error _) => some ⟨segments, process.recorders⟩
      else none
  | .ensureShmCapacity index newWidth newHeight io =>
      if io.IsFresh process.segments then
        process.recorders[index]?.map fun recorder =>
          let (segments, recorder, _) := recorder.ensureShmCapacity
            process.segments newWidth newHeight io
          ⟨segments, process.recorders.set index recorder⟩
      else none
  | .drop index =>
      process.recorders[index]?.map fun recorder =>
        ⟨recorder.drop process.segments, process.recorders.eraseIdx index⟩

/-- As many live segments as recorders. -/
def CountsMatch (process : Process) : Prop :=
  process.segments.length = process.recorders.length

/-- A failed `ensure_shm_capacity` leaves the recorder as it is. -/
def KeepsOnFailure (process : Process) : ShmCall → Prop
  | .ensureShmCapacity index newWidth newHeight io =>
      ∀ recorder ∈ process.recorders[index]?, ∀ error,
        (recorder.ensureShmCapacity process.segments newWidth newHeight
            io).2.2 = .error error →
          (recorder.ensureShmCapacity process.segments newWidth newHeight
            io).2.1 = recorder
  | .new _ | .drop _ => True

end Process

/-- Both `shmget` and `shmat` succeed. -/
def AllocIo.Succeeds (io : AllocIo) : Prop :=
  0 ≤ io.shmget ∧ io.shmat.isSome

/-- Once there is a segment, `new` gets both the id and the attachment, and
`ensure_shm_capacity` the id. -/
def Process.Completes (process : Process) : ShmCall → Prop
  | .new io => io.geometry.isOk → io.Succeeds →
      io.generateId.isOk ∧ io.shmAttach.isOk
  | .ensureShmCapacity index newWidth newHeight io =>
      ∀ recorder ∈ process.recorders[index]?,
        recorder.shmCapacity < newWidth.toNat * newHeight.toNat * 4 →
          io.Succeeds → io.generateId.isOk
  | .drop _ => True

/-! ### What the calls do -/

/-- Freeing a segment that has just been allocated. -/
theorem free_cons {segments : List Segment} {id : Int32}
    (isNew : id ∉ segments.map Segment.id) (size : Nat) (addr : UInt64) :
    free (⟨id, size⟩ :: segments) id addr = segments := by
  have same : Segment.id ⟨id, size⟩ = id := rfl
  rw [← same] at isNew
  exact release_cons isNew

/-- A failed allocation leaves no segment behind. -/
theorem alloc_spec {segments : List Segment} {io : AllocIo}
    (fresh : io.IsFresh segments) (size : Nat) :
    (¬ io.Succeeds ∧
      ∃ error, alloc segments size io = (segments, .error error)) ∨
    (io.Succeeds ∧ io.shmget ∉ segments.map Segment.id ∧
      ∃ addr, alloc segments size io =
        (⟨io.shmget, size⟩ :: segments, .ok (io.shmget, addr))) := by
  rcases Int32.lt_or_le io.shmget 0 with negative | nonneg
  · refine .inl ⟨?_, _, if_pos negative⟩
    rintro ⟨nonneg, -⟩
    exact absurd negative (Int32.not_lt.mpr nonneg)
  · have isNew := fresh nonneg
    have passes := Int32.not_lt.mpr nonneg
    cases attached : io.shmat with
    | none =>
        refine .inl ⟨?_, "shmat failed: ", ?_⟩
        · rintro ⟨-, isSome⟩
          rw [attached] at isSome
          cases isSome
        · simp only [alloc, if_neg passes, attached]
          exact congrArg (·, _) (free_cons isNew size 0)
    | some addr =>
        refine .inr ⟨⟨nonneg, by rw [attached]; rfl⟩, isNew, addr, ?_⟩
        simp only [alloc, if_neg passes, attached]

namespace RecorderX11

/-- `new` acquires nothing, or a recorder with its segment, or it leaves a
segment behind. -/
theorem new_spec {segments : List Segment} {io : NewIo}
    (fresh : io.IsFresh segments) :
    (¬ (io.geometry.isOk ∧ io.Succeeds) ∧
      ∃ error, new segments io = (segments, .error error)) ∨
    (io.geometry.isOk ∧ io.Succeeds ∧
      io.shmget ∉ segments.map Segment.id ∧
        ((io.generateId.isOk ∧ io.shmAttach.isOk) ∧
          (∃ recorder, recorder.shmId = io.shmget ∧
            new segments io = (recorder.segment :: segments, .ok recorder)) ∨
        ¬ (io.generateId.isOk ∧ io.shmAttach.isOk) ∧
          ∃ size error, new segments io =
            (⟨io.shmget, size⟩ :: segments, .error error))) := by
  cases placed : io.geometry with
  | error error =>
      refine .inl ⟨?_, error, by simp only [new, placed]⟩
      rintro ⟨⟨⟩, -⟩
  | ok size =>
      obtain ⟨width, height⟩ := size
      rcases alloc_spec fresh (segSize width height).toNat with
        ⟨fails, error, isError⟩ | ⟨succeeds, isNew, addr, isOk⟩
      · refine .inl ⟨fun both => fails both.2, ⟨1, error⟩, ?_⟩
        simp only [new, placed, isError]
      · refine .inr ⟨rfl, succeeds, isNew, ?_⟩
        cases named : io.generateId with
        | error error =>
            refine .inr ⟨?_, (segSize width height).toNat, ⟨1, error⟩, ?_⟩
            · rintro ⟨⟨⟩, -⟩
            · simp only [new, placed, isOk, named]
        | ok shmSeg =>
            cases attached : io.shmAttach with
            | error error =>
                refine .inr ⟨?_, (segSize width height).toNat,
                  ⟨1, "ShmAttach failed: " ++ error⟩, ?_⟩
                · rintro ⟨-, ⟨⟩⟩
                · simp only [new, placed, isOk, named, attached]
            | ok done =>
                refine .inl ⟨⟨rfl, rfl⟩, ⟨shmSeg, io.shmget, addr,
                  (segSize width height).toNat, width, height⟩, rfl, ?_⟩
                simp only [new, placed, isOk, named, attached, segment]

/-- `ensure_shm_capacity` keeps the segment, or exchanges it, or leaves a new
one behind. -/
theorem ensureShmCapacity_spec (recorder : RecorderX11)
    {segments : List Segment} {io : AcquireIo} (fresh : io.IsFresh segments)
    (newWidth newHeight : UInt16) :
    ((recorder.shmCapacity < newWidth.toNat * newHeight.toNat * 4 →
        io.Succeeds → io.generateId.isOk) ∧
      ∃ after result, after.segment = recorder.segment ∧
        recorder.ensureShmCapacity segments newWidth newHeight io =
          (segments, after, result)) ∨
    (io.generateId.isOk ∧ io.shmget ∉ segments.map Segment.id ∧
      ∃ after result, after.shmId = io.shmget ∧
        recorder.ensureShmCapacity segments newWidth newHeight io =
          (free (after.segment :: segments) recorder.shmId recorder.shmAddr,
            after, result)) ∨
    (recorder.shmCapacity < newWidth.toNat * newHeight.toNat * 4 ∧
      io.Succeeds ∧ ¬ io.generateId.isOk ∧
        io.shmget ∉ segments.map Segment.id ∧
          ∃ size result,
            recorder.ensureShmCapacity segments newWidth newHeight io =
              (⟨io.shmget, size⟩ :: segments, recorder, result)) := by
  generalize isNeeded : newWidth.toNat * newHeight.toNat * 4 = needed
  rcases Nat.lt_or_ge recorder.shmCapacity needed with grows | fits
  · have tooSmall := Nat.not_le.mpr grows
    rcases alloc_spec fresh needed with
      ⟨fails, error, isError⟩ | ⟨succeeds, isNew, addr, isOk⟩
    · refine .inl ⟨fun _ succeeds => absurd succeeds fails, recorder,
        .error ⟨1, error⟩, rfl, ?_⟩
      simp only [ensureShmCapacity, isNeeded, if_neg tooSmall, isError]
    · cases named : io.generateId with
      | error error =>
          refine .inr (.inr ⟨grows, succeeds, ?_, isNew, needed,
            .error ⟨1, error⟩, ?_⟩)
          · rintro ⟨⟩
          · simp only [ensureShmCapacity, isNeeded, if_neg tooSmall, isOk,
              named]
      | ok newSeg =>
          cases attached : io.shmAttach with
          | error error =>
              refine .inl ⟨fun _ _ => rfl, recorder,
                .error ⟨1, "ShmAttach failed: " ++ error⟩, rfl, ?_⟩
              simp only [ensureShmCapacity, isNeeded, if_neg tooSmall, isOk,
                named, attached, free_cons isNew]
          | ok done =>
              refine .inr (.inl ⟨rfl, isNew, ⟨newSeg, io.shmget, addr, needed,
                newWidth, newHeight⟩, .ok (), rfl, ?_⟩)
              simp only [ensureShmCapacity, isNeeded, if_neg tooSmall, isOk,
                named, attached, segment]
  · refine .inl ⟨fun grows => absurd fits (Nat.not_le.mpr grows),
      { recorder with width := newWidth, height := newHeight }, .ok (), rfl, ?_⟩
    simp only [ensureShmCapacity, isNeeded, if_pos fits]

/-- What a failed `ensure_shm_capacity` makes of the recorder: nothing. -/
theorem ensureShmCapacity_of_error {recorder : RecorderX11}
    {segments : List Segment} {newWidth newHeight : UInt16} {io : AcquireIo}
    {error : CError}
    (fails : (recorder.ensureShmCapacity segments newWidth newHeight
      io).2.2 = .error error) :
    (recorder.ensureShmCapacity segments newWidth newHeight io).2.1 =
      recorder := by
  unfold ensureShmCapacity at fails ⊢
  dsimp only at fails ⊢
  split at fails
  · cases fails
  next tooSmall =>
    rw [if_neg tooSmall]
    split
    next => rfl
    next allocated =>
      rw [allocated] at fails
      dsimp only at fails
      split
      next => rfl
      next named =>
        rw [named] at fails
        dsimp only at fails
        split
        next => rfl
        next attached =>
          rw [attached] at fails
          cases fails

end RecorderX11

namespace Process

/-- Every live segment belongs to one recorder, which has its size, or is
leaked. -/
def Accounts (process : Process) (leaked : List Segment) : Prop :=
  Accounted Segment.id process.segments
    (process.recorders.map RecorderX11.segment) leaked

variable {before after process : Process} {call : ShmCall}
  {recorders : List RecorderX11} {recorder : RecorderX11} {index : Nat}
  {leaked : List Segment}

theorem segments_perm_eraseIdx
    (present : recorders[index]? = some recorder) :
    (recorders.map RecorderX11.segment).Perm
      (recorder.segment ::
        (recorders.eraseIdx index).map RecorderX11.segment) := by
  obtain ⟨inside, rfl⟩ := List.getElem?_eq_some_iff.mp present
  exact (List.getElem_cons_eraseIdx_perm inside).symm.map _

theorem segments_perm_set (present : recorders[index]? = some recorder)
    (changed : RecorderX11) :
    ((recorders.set index changed).map RecorderX11.segment).Perm
      (changed.segment ::
        (recorders.eraseIdx index).map RecorderX11.segment) := by
  obtain ⟨inside, -⟩ := List.getElem?_eq_some_iff.mp present
  exact (List.set_perm_cons_eraseIdx inside changed).map _

/-- A recorder that keeps its segment. -/
theorem segments_perm_of_segment_eq
    (present : recorders[index]? = some recorder) {changed : RecorderX11}
    (same : changed.segment = recorder.segment) :
    (recorders.map RecorderX11.segment).Perm
      ((recorders.set index changed).map RecorderX11.segment) := by
  have whole := segments_perm_set present changed
  rw [same] at whole
  exact (segments_perm_eraseIdx present).trans whole.symm

/-- `new` leaks a segment exactly if it does not complete. -/
theorem Accounts.new (accounts : before.Accounts leaked) {io : NewIo}
    (moved : before.step (.new io) = some after) :
    ∃ leaked', after.Accounts leaked' ∧
      (before.Completes (.new io) ∧ leaked' = leaked ∨
        ¬ before.Completes (.new io) ∧
          ∃ segment, leaked' = segment :: leaked) := by
  simp only [step] at moved
  split at moved
  next fresh =>
    rcases RecorderX11.new_spec fresh with
      ⟨stops, error, isError⟩ | ⟨placed, succeeds, isNew, ⟨completes,
        recorder, isId, isOk⟩ | ⟨leaks, size, error, isError⟩⟩
    · rw [isError] at moved
      cases moved
      exact ⟨leaked, accounts, .inl ⟨fun placed succeeds =>
        absurd ⟨placed, succeeds⟩ stops, rfl⟩⟩
    · rw [isOk] at moved
      cases moved
      rw [← isId] at isNew
      exact ⟨leaked, accounts.create isNew,
        .inl ⟨fun _ _ => completes, rfl⟩⟩
    · rw [isError] at moved
      cases moved
      exact ⟨⟨io.shmget, size⟩ :: leaked, accounts.lose isNew,
        .inr ⟨fun completes => leaks (completes placed succeeds), _, rfl⟩⟩
  next => cases moved

/-- `ensure_shm_capacity` leaks a segment exactly if it does not complete. -/
theorem Accounts.ensureShmCapacity (accounts : before.Accounts leaked)
    {newWidth newHeight : UInt16} {io : AcquireIo}
    (moved : before.step
      (.ensureShmCapacity index newWidth newHeight io) = some after) :
    ∃ leaked', after.Accounts leaked' ∧
      (before.Completes (.ensureShmCapacity index newWidth newHeight io) ∧
          leaked' = leaked ∨
        ¬ before.Completes (.ensureShmCapacity index newWidth newHeight io) ∧
          ∃ segment, leaked' = segment :: leaked) := by
  simp only [step] at moved
  split at moved
  next fresh =>
    obtain ⟨recorder, present, rfl⟩ := Option.map_eq_some_iff.mp moved
    rcases recorder.ensureShmCapacity_spec fresh newWidth newHeight with
      ⟨completes, changed, result, same, isCall⟩ |
      ⟨named, isNew, changed, result, isId, isCall⟩ |
      ⟨grows, succeeds, unnamed, isNew, size, result, isCall⟩
    · rw [isCall]
      refine ⟨leaked,
        accounts.congr (segments_perm_of_segment_eq present same),
        .inl ⟨?_, rfl⟩⟩
      intro recorder' present'
      cases present.symm.trans present'
      exact completes
    · rw [isCall]
      have isNewKey :
          changed.segment.id ∉ before.segments.map Segment.id := by
        rw [← isId] at isNew
        exact isNew
      have swapped :=
        (accounts.congr (segments_perm_eraseIdx present)).swap isNewKey
      refine ⟨leaked, swapped.congr (segments_perm_set present changed).symm,
        .inl ⟨?_, rfl⟩⟩
      intro _ _ _ _
      exact named
    · rw [isCall]
      refine ⟨⟨io.shmget, size⟩ :: leaked,
        (accounts.lose isNew).congr (segments_perm_of_segment_eq present rfl),
        .inr ⟨?_, _, rfl⟩⟩
      intro completes
      exact unnamed (completes recorder present grows succeeds)
  next => cases moved

/-- A dropped recorder takes its segment with it. -/
theorem Accounts.drop (accounts : before.Accounts leaked)
    (moved : before.step (.drop index) = some after) :
    after.Accounts leaked := by
  obtain ⟨recorder, present, rfl⟩ := Option.map_eq_some_iff.mp moved
  exact (accounts.congr (segments_perm_eraseIdx present)).release

theorem Accounts.step (accounts : before.Accounts leaked)
    (moved : before.step call = some after) :
    ∃ leaked', after.Accounts leaked' ∧
      (before.Completes call ∧ leaked' = leaked ∨
        ¬ before.Completes call ∧ ∃ segment, leaked' = segment :: leaked) := by
  cases call with
  | new io => exact accounts.new moved
  | ensureShmCapacity index newWidth newHeight io =>
      exact accounts.ensureShmCapacity moved
  | drop index => exact ⟨leaked, accounts.drop moved, .inl ⟨trivial, rfl⟩⟩

/-- In every reachable state a recorder's segment is live and has the size
that the recorder believes it has. -/
theorem accounts_of_reachable
    (reached : Transition.Reachable Process.step start process) :
    ∃ leaked, process.Accounts leaked := by
  apply reached.invariant
  · exact ⟨[], Accounted.nil⟩
  · rintro before call after ⟨leaked, accounts⟩ moved
    obtain ⟨leaked', accounts', -⟩ := accounts.step moved
    exact ⟨leaked', accounts'⟩

theorem Accounts.countsMatch_iff (accounts : process.Accounts leaked) :
    process.CountsMatch ↔ leaked = [] := by
  have length := accounts.length
  rw [List.length_map] at length
  rw [CountsMatch, ← List.length_eq_zero_iff]
  omega

theorem keepsOnFailure (process : Process) (call : ShmCall) :
    process.KeepsOnFailure call := by
  cases call with
  | new io => trivial
  | ensureShmCapacity index newWidth newHeight io =>
      intro recorder _ error fails
      exact RecorderX11.ensureShmCapacity_of_error fails
  | drop index => trivial

/-- Along a sequence of calls there are always as many live segments as
recorders, exactly if every call that gets a segment completes; failed calls
of `ensure_shm_capacity` keep the recorder in any case. -/
theorem countsMatch_along_iff_completes
    (execution : Transition.Execution Process.step start) :
    (execution.Along CountsMatch ∧ execution.StepsMeet KeepsOnFailure) ↔
      execution.StepsMeet Completes := by
  have counts : execution.Along CountsMatch ↔
      execution.StepsMeet Completes := by
    have starts : start.CountsMatch := rfl
    apply execution.along_iff_stepsMeet starts
    intro before call after reached matches' moved
    obtain ⟨leaked, accounts⟩ := accounts_of_reachable reached
    obtain rfl := accounts.countsMatch_iff.mp matches'
    obtain ⟨leaked', accounts', ⟨completes, rfl⟩ | ⟨leaks, segment, rfl⟩⟩ :=
      accounts.step moved
    · exact iff_of_true (accounts'.countsMatch_iff.mpr rfl) completes
    · refine iff_of_false ?_ leaks
      rw [accounts'.countsMatch_iff]
      exact List.cons_ne_nil segment []
  rw [counts, and_iff_left]
  intro taken call rest process _ _
  exact process.keepsOnFailure call

/-- A recorder of a screen for which the X connection has no id left. -/
def newWithoutId : Transition.Execution Process.step start where
  labels := [.new ⟨⟨⟨0, some 4096⟩, .error "", .ok ()⟩, .ok (640, 480)⟩]
  final := _
  runs := rfl

theorem newWithoutId_not_countsMatch :
    ¬ ∀ execution : Transition.Execution Process.step start,
      execution.Along CountsMatch ∧ execution.StepsMeet KeepsOnFailure := by
  intro holds
  have counts : 1 = 0 := (holds newWithoutId).1 newWithoutId.labels [] _ rfl rfl
  cases counts

end Process

/-! ### The recorder of the captured rectangle -/

/-- The size and capacity after `ensure_shm_capacity` has succeeded. -/
theorem RecorderX11.ensureShmCapacity_of_ok {recorder : RecorderX11}
    {segments : List Segment} {newWidth newHeight : UInt16} {io : AcquireIo}
    (succeeds : (recorder.ensureShmCapacity segments newWidth newHeight
      io).2.2 = .ok ()) :
    let after :=
      (recorder.ensureShmCapacity segments newWidth newHeight io).2.1
    after.width = newWidth ∧ after.height = newHeight ∧
      after.shmCapacity =
        max recorder.shmCapacity (newWidth.toNat * newHeight.toNat * 4) := by
  unfold ensureShmCapacity at succeeds ⊢
  dsimp only at succeeds ⊢
  split at succeeds
  next fits =>
    rw [if_pos fits]
    exact ⟨rfl, rfl, (max_eq_left fits).symm⟩
  next tooSmall =>
    have grows := max_eq_right (Nat.le_of_not_le tooSmall)
    rw [if_neg tooSmall]
    split at succeeds
    next => cases succeeds
    next allocated =>
      split at succeeds
      next => cases succeeds
      next named =>
        split at succeeds
        next => cases succeeds
        next attached => exact ⟨rfl, rfl, grows.symm⟩

/-- What `ensure_shm_capacity` does to capacity and size is what it does in
the model of the captured rectangle. -/
theorem RecorderX11.ensureShmCapacity_geometry (recorder : RecorderX11)
    (seen : X11.RecorderX11) (same : seen.shmCapacity = recorder.shmCapacity)
    (segments : List Segment) (size : X11.Size) (io : AcquireIo) :
    let called :=
      recorder.ensureShmCapacity segments size.width size.height io
    seen.ensureShmCapacity size called.2.2 =
      called.2.2.map fun _ =>
        { seen with
          shmCapacity := called.2.1.shmCapacity
          width := called.2.1.width
          height := called.2.1.height } := by
  intro called
  cases isResult : called.2.2 with
  | error error =>
      have tooSmall : ¬ size.width.toNat * size.height.toNat * 4 ≤
          recorder.shmCapacity := by
        intro fits
        have isCall : called = (segments,
            { recorder with width := size.width, height := size.height },
            .ok ()) := if_pos fits
        rw [isCall] at isResult
        cases isResult
      simp only [X11.RecorderX11.ensureShmCapacity, same, if_neg tooSmall]
      rfl
  | ok done =>
      obtain ⟨isWidth, isHeight, isCapacity⟩ :=
        recorder.ensureShmCapacity_of_ok isResult
      simp only [called, isWidth, isHeight, isCapacity, Except.map,
        X11.RecorderX11.ensureShmCapacity, same]
      split
      next fits => rw [max_eq_left fits, ← same]
      next tooSmall => rw [max_eq_right (Nat.le_of_not_le tooSmall)]

end SysvShm

end Rylus
