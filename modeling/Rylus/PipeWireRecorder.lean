import Mathlib.Algebra.Group.Nat.Defs
import Rylus.LabelledExecution

/-!
# The PipeWire recorder

The callbacks of the stream and `capture` share one `SharedFrameState`.
Callbacks run while the recorder iterates its main loop, any number of them
between two looks at the shared state.  Arithmetic on `usize` is that of a
64-bit release build, where it wraps.
-/

namespace Rylus

/-- `VideoFormat`; the recorder asks for the first four. -/
inductive VideoFormat where
  | bgrx
  | rgbx
  | bgra
  | rgba
  | unknown
  | other (raw : UInt32)
  deriving DecidableEq

/-- The fields of `VideoInfoRaw` that the callbacks use. -/
structure VideoInfoRaw where
  format : VideoFormat
  width : UInt32
  height : UInt32
  deriving DecidableEq

structure StreamUserData where
  format : VideoInfoRaw
  formatValid : Bool

/-- `chunk()` of a buffer's data. -/
structure ChunkInfo where
  size : UInt32
  offset : UInt32
  stride : Int32

/-- Where the bytes of a buffer are.  What `mmap` shows of a file is given
from the start of the file; there is nothing when it fails. -/
inductive DataMemory where
  | memPtr (slice : Option (List UInt8))
  | dmaBuf (fd : Int) (contents : Option (Nat → UInt8))
  | memFd (fd : Int) (contents : Option (Nat → UInt8))
  | other

structure BufferData where
  chunk : ChunkInfo
  memory : DataMemory

/-- A frame with what is needed to read it. -/
structure FrameSnapshot where
  frame : List UInt8
  width : Nat
  height : Nat
  stride : Nat
  videoFormat : VideoFormat

structure SharedFrameState where
  frame : List UInt8
  width : Nat
  height : Nat
  stride : Nat
  videoFormat : VideoFormat
  formatValid : Bool
  newFrame : Bool
  streamError : Bool

/-- The fields of `PipeWireRecorder` that `capture` owns. -/
structure PipeWireRecorder where
  frameBuffer : List UInt8
  width : Nat
  height : Nat
  stride : Nat
  videoFormat : VideoFormat
  hasFrame : Bool

inductive PixelProvider where
  | rgb (width height : Nat) (data : List UInt8)
  | rgb0 (width height : Nat) (data : List UInt8)
  | bgr0 (width height : Nat) (data : List UInt8)
  | bgr0s (width height stride : Nat) (data : List UInt8)
  deriving DecidableEq

inductive PipeWireError where
  | streamError
  | noBuffer
  | unsupportedFormat (format : VideoFormat)
  deriving DecidableEq

def PipeWireError.message (debug : VideoFormat → String) :
    PipeWireError → String
  | .streamError => "PipeWire stream is in an error state"
  | .noBuffer => "No buffer available!"
  | .unsupportedFormat format =>
      "Unsupported pixel format: " ++ debug format

/-- How a call of `capture` ends. -/
inductive CaptureOutcome where
  | ok (provider : PixelProvider)
  | error (error : PipeWireError)
  | panic
  deriving DecidableEq

/-- What `param_changed` finds in its `param`: no raw video format, one that
`parse` fails on after it has written some fields, or one it accepts. -/
inductive ParamChange where
  | ignored
  | unparsable (written : VideoInfoRaw)
  | parsed (format : VideoInfoRaw)

def usizeRange : Nat := 2 ^ 64

/-- `as usize` of a 32-bit signed number. -/
def usizeOfInt (number : Int32) : Nat :=
  (number.toInt % usizeRange).toNat

def bytesPerPixel : VideoFormat → Nat
  | .bgrx | .rgbx | .bgra | .rgba => 4
  | .unknown | .other _ => 0

/-! ### The callbacks -/

def mmapBufferData (contents : Option (Nat → UInt8)) (offset size : Nat) :
    Option (List UInt8) :=
  if size = 0 then none
  else contents.map fun byte =>
    (List.range size).map fun index => byte (offset + index)

/-- The bytes of the chunk, copied out. -/
def DataMemory.frameData (memory : DataMemory) (offset size : Nat) :
    Option (List UInt8) :=
  match memory with
  | .memPtr slice =>
      slice.bind fun slice =>
        if offset + size ≤ slice.length then
          some ((slice.drop offset).take size)
        else
          none
  | .dmaBuf fd contents | .memFd fd contents =>
      if fd < 0 then none else mmapBufferData contents offset size
  | .other => none

namespace StreamUserData

def new : StreamUserData where
  format := ⟨.unknown, 0, 0⟩
  formatValid := false

/-- The stride of the chunk, or that of tight rows if it has none. -/
def expectedStride (format : VideoInfoRaw) (chunk : ChunkInfo) : Nat :=
  let chunkStride := usizeOfInt chunk.stride
  if 0 < chunkStride then chunkStride
  else format.width.toNat * bytesPerPixel format.format

/-- What the `process` callback stores for a dequeued buffer, if it accepts
it. -/
def accept (userData : StreamUserData) :
    Option (List BufferData) → Option FrameSnapshot
  | none | some [] => none
  | some (data :: _) =>
      if userData.formatValid = false then none
      else
        let chunkSize := data.chunk.size.toNat
        let h := userData.format.height.toNat
        let stride := expectedStride userData.format data.chunk
        if chunkSize = 0 ∨ bytesPerPixel userData.format.format = 0 ∨
            chunkSize < stride * h % usizeRange then
          none
        else
          (data.memory.frameData data.chunk.offset.toNat chunkSize).map
            fun frame =>
              { frame := frame
                width := userData.format.width.toNat
                height := h
                stride := stride
                videoFormat := userData.format.format }

end StreamUserData

namespace SharedFrameState

def new : SharedFrameState where
  frame := []
  width := 0
  height := 0
  stride := 0
  videoFormat := .unknown
  formatValid := false
  newFrame := false
  streamError := false

def setFormat (state : SharedFrameState) (format : VideoInfoRaw) :
    SharedFrameState :=
  { state with
    videoFormat := format.format
    width := format.width.toNat
    height := format.height.toNat
    formatValid := true }

def store (state : SharedFrameState) (snapshot : FrameSnapshot) :
    SharedFrameState :=
  { state with
    frame := snapshot.frame
    width := snapshot.width
    height := snapshot.height
    stride := snapshot.stride
    videoFormat := snapshot.videoFormat
    newFrame := true }

end SharedFrameState

/-! ### `capture` -/

/-- `copy_within`, which panics when either range leaves the buffer. -/
def copyWithin (buf : List UInt8) (src count dst : Nat) :
    Option (List UInt8) :=
  if src + count ≤ buf.length ∧ dst + count ≤ buf.length then
    some (buf.take dst ++ (buf.drop src).take count ++ buf.drop (dst + count))
  else
    none

/-- `depad_rows_in_place`; `none` is a panic. -/
def depadRowsInPlace (buf : List UInt8) (h stride tightStride : Nat) :
    Option (List UInt8) :=
  if stride = tightStride then some buf
  else
    ((List.range' 1 (h - 1)).foldlM
      (fun buf row => copyWithin buf (row * stride % usizeRange) tightStride
        (row * tightStride % usizeRange)) buf).map
      (List.take (h * tightStride % usizeRange))

namespace PipeWireRecorder

def new : PipeWireRecorder where
  frameBuffer := []
  width := 0
  height := 0
  stride := 0
  videoFormat := .unknown
  hasFrame := false

/-- What the recorder has copied out of the shared state. -/
def snapshot (recorder : PipeWireRecorder) : FrameSnapshot where
  frame := recorder.frameBuffer
  width := recorder.width
  height := recorder.height
  stride := recorder.stride
  videoFormat := recorder.videoFormat

end PipeWireRecorder

def SharedFrameState.snapshot (state : SharedFrameState) : FrameSnapshot where
  frame := state.frame
  width := state.width
  height := state.height
  stride := state.stride
  videoFormat := state.videoFormat

namespace PipeWireRecorder

/-- Swap in the delivered frame, if any; the old buffer is left behind,
emptied. -/
def takeFrame (recorder : PipeWireRecorder) (state : SharedFrameState) :
    PipeWireRecorder × SharedFrameState :=
  if state.newFrame then
    ({ frameBuffer := state.frame
       width := state.width
       height := state.height
       stride := state.stride
       videoFormat := state.videoFormat
       hasFrame := true },
     { state with frame := [], newFrame := false })
  else
    (recorder, state)

/-- Wrap the frame that the recorder holds. -/
def serve (recorder : PipeWireRecorder) :
    CaptureOutcome × PipeWireRecorder :=
  if recorder.hasFrame = false then (.error .noBuffer, recorder)
  else
    let w := recorder.width
    let h := recorder.height
    let stride := recorder.stride
    let tightStride := w * bytesPerPixel recorder.videoFormat
    match recorder.videoFormat with
    | .bgrx | .bgra =>
        if stride = tightStride then
          (.ok (.bgr0 w h recorder.frameBuffer), recorder)
        else
          (.ok (.bgr0s w h stride recorder.frameBuffer), recorder)
    | .rgbx | .rgba =>
        match depadRowsInPlace recorder.frameBuffer h stride tightStride with
        | some frameBuffer =>
            (.ok (.rgb0 w h frameBuffer),
              { recorder with
                frameBuffer := frameBuffer
                stride := tightStride })
        | none => (.panic, recorder)
    | .unknown | .other _ =>
        (.error (.unsupportedFormat recorder.videoFormat), recorder)

/-- `capture`, from its last look at the shared state on. -/
def capture (recorder : PipeWireRecorder) (state : SharedFrameState) :
    CaptureOutcome × PipeWireRecorder × SharedFrameState :=
  if state.streamError then (.error .streamError, recorder, state)
  else
    let (recorder, state) := recorder.takeFrame state
    let (outcome, recorder) := recorder.serve
    (outcome, recorder, state)

end PipeWireRecorder

/-! ### Rows that leave the buffer -/

theorem length_copyWithin {buf copied : List UInt8} {src count dst : Nat}
    (copies : copyWithin buf src count dst = some copied) :
    copied.length = buf.length := by
  unfold copyWithin at copies
  split at copies
  · rename_i fits
    cases copies
    simp only [List.length_append, List.length_take, List.length_drop]
    omega
  · cases copies

/-- Rows can be copied one after the other exactly if each of them fits. -/
theorem isSome_foldlM_copyWithin (src dst : Nat → Nat) (count : Nat)
    (rows : List Nat) (buf : List UInt8) :
    (rows.foldlM (fun buf row => copyWithin buf (src row) count (dst row))
      buf).isSome = true ↔
      ∀ row ∈ rows, src row + count ≤ buf.length ∧
        dst row + count ≤ buf.length := by
  induction rows generalizing buf with
  | nil => simp
  | cons row rows ih =>
      rw [List.foldlM_cons, List.forall_mem_cons]
      by_cases fits : src row + count ≤ buf.length ∧
        dst row + count ≤ buf.length
      · obtain ⟨copied, copies⟩ : ∃ copied,
            copyWithin buf (src row) count (dst row) = some copied := by
          simp [copyWithin, fits]
        rw [copies, Option.bind_eq_bind, Option.bind_some, ih,
          length_copyWithin copies]
        simp [fits]
      · have fails : copyWithin buf (src row) count (dst row) = none := by
          simp [copyWithin, fits]
        rw [fails]
        simp [fits]

theorem isSome_depadRowsInPlace (buf : List UInt8)
    (h stride tightStride : Nat) :
    (depadRowsInPlace buf h stride tightStride).isSome = true ↔
      stride = tightStride ∨ ∀ row, 1 ≤ row → row < h →
        row * stride % usizeRange + tightStride ≤ buf.length ∧
          row * tightStride % usizeRange + tightStride ≤ buf.length := by
  unfold depadRowsInPlace
  by_cases tight : stride = tightStride
  · simp [tight]
  · rw [if_neg tight, Option.isSome_map]
    refine (isSome_foldlM_copyWithin (fun row => row * stride % usizeRange)
      (fun row => row * tightStride % usizeRange) tightStride _ buf).trans ?_
    simp only [tight, false_or, List.mem_range'_1]
    constructor
    · intro fits row first last
      exact fits row ⟨first, by omega⟩
    · rintro fits row ⟨first, last⟩
      exact fits row first (by omega)

namespace FrameSnapshot

/-- What the `process` callback has checked, and the ranges of the fields it
has read. -/
structure IsAccepted (snapshot : FrameSnapshot) : Prop where
  width_lt : snapshot.width < 2 ^ 32
  height_lt : snapshot.height < 2 ^ 32
  length_lt : snapshot.frame.length < 2 ^ 32
  supported : bytesPerPixel snapshot.videoFormat = 4
  fits : snapshot.stride = snapshot.width * 4 ∨
    snapshot.stride * snapshot.height ≤ snapshot.frame.length

/-- Formats for which `capture` removes the padding. -/
def IsDepadded (snapshot : FrameSnapshot) : Prop :=
  snapshot.videoFormat = .rgbx ∨ snapshot.videoFormat = .rgba

/-- The stride is shorter than a row, and the chunk shorter than the tight
rows. -/
def OverrunsRows (snapshot : FrameSnapshot) : Prop :=
  snapshot.IsDepadded ∧ 2 ≤ snapshot.height ∧
    snapshot.stride < snapshot.width * 4 ∧
      snapshot.frame.length < snapshot.height * (snapshot.width * 4)

variable {snapshot : FrameSnapshot}

/-- Some row lies beyond the end of a buffer that is too short for all of
them, also in wrapping arithmetic. -/
theorem exists_row_beyond {length height tight : Nat} (rows : 2 ≤ height)
    (tight_lt : tight < 2 ^ 34) (length_lt : length < 2 ^ 32)
    (short : length < height * tight) :
    ∃ row, 1 ≤ row ∧ row < height ∧
      length < row * tight % usizeRange + tight := by
  have positive : 0 < tight := by
    rcases Nat.eq_zero_or_pos tight with rfl | positive
    · omega
    · exact positive
  have whole := Nat.div_add_mod length tight
  have rest := Nat.mod_lt length positive
  have swap := Nat.mul_comm tight (length / tight)
  rcases Nat.eq_zero_or_pos (length / tight) with none | some
  · refine ⟨1, Nat.le_refl _, rows, ?_⟩
    rw [none, Nat.mul_zero] at whole
    rw [Nat.one_mul, Nat.mod_eq_of_lt (by unfold usizeRange; omega)]
    omega
  · refine ⟨length / tight, some, (Nat.div_lt_iff_lt_mul positive).mpr short, ?_⟩
    rw [Nat.mod_eq_of_lt (by unfold usizeRange; omega)]
    omega

/-- Rows that do not overrun the buffer fit, before and after the padding is
removed. -/
theorem IsAccepted.rows_fit (accepted : snapshot.IsAccepted)
    (depadded : snapshot.IsDepadded) (inside : ¬ snapshot.OverrunsRows)
    (padded : snapshot.stride ≠ snapshot.width * 4) {row : Nat}
    (first : 1 ≤ row) (last : row < snapshot.height) :
    row * snapshot.stride + snapshot.width * 4 ≤ snapshot.frame.length ∧
      row * (snapshot.width * 4) + snapshot.width * 4 ≤
        snapshot.frame.length := by
  have fits := accepted.fits.resolve_left padded
  have below : (row + 1) * snapshot.stride ≤
      snapshot.height * snapshot.stride := Nat.mul_le_mul_right _ last
  have belowTight : (row + 1) * (snapshot.width * 4) ≤
      snapshot.height * (snapshot.width * 4) := Nat.mul_le_mul_right _ last
  rw [Nat.mul_comm snapshot.stride] at fits
  rw [Nat.add_one_mul] at below belowTight
  rcases Nat.lt_or_ge snapshot.stride (snapshot.width * 4) with
    shorter | longer
  · -- the stride is too short, so the chunk is long enough
    have enough : snapshot.height * (snapshot.width * 4) ≤
        snapshot.frame.length := by
      by_contra short
      exact inside ⟨depadded, by omega, shorter, by omega⟩
    have smaller : row * snapshot.stride ≤ row * (snapshot.width * 4) :=
      Nat.mul_le_mul_left _ (Nat.le_of_lt shorter)
    omega
  · have larger : row * (snapshot.width * 4) ≤ row * snapshot.stride :=
      Nat.mul_le_mul_left _ longer
    omega

/-- Removing the padding of an accepted frame panics exactly if its rows
overrun the buffer. -/
theorem IsAccepted.depad (accepted : snapshot.IsAccepted)
    (depadded : snapshot.IsDepadded) :
    depadRowsInPlace snapshot.frame snapshot.height snapshot.stride
        (snapshot.width * 4) = none ↔ snapshot.OverrunsRows := by
  have width_lt := accepted.width_lt
  have length_lt := accepted.length_lt
  rw [← Option.not_isSome_iff_eq_none, isSome_depadRowsInPlace]
  constructor
  · intro fails
    obtain ⟨padded, overruns⟩ := not_or.mp fails
    by_contra inside
    apply overruns
    intro row first last
    have room := accepted.rows_fit depadded inside padded first last
    rw [Nat.mod_eq_of_lt (by unfold usizeRange; omega),
      Nat.mod_eq_of_lt (by unfold usizeRange; omega)]
    exact room
  · rintro ⟨-, rows, shorter, short⟩ fits
    obtain ⟨row, first, last, beyond⟩ :=
      exists_row_beyond rows (by omega) length_lt short
    rcases fits with tight | inside
    · omega
    · have room := (inside row first last).2
      omega

end FrameSnapshot

/-- The bytes are copied out of a slice or out of mapped memory. -/
theorem DataMemory.frameData_cases {memory : DataMemory}
    {offset size : Nat} {frame : List UInt8}
    (copied : memory.frameData offset size = some frame) :
    (∃ slice, memory = .memPtr (some slice) ∧
        offset + size ≤ slice.length ∧
          frame = (slice.drop offset).take size) ∨
      ∃ fd byte, (memory = .dmaBuf fd (some byte) ∨
          memory = .memFd fd (some byte)) ∧
        frame = (List.range size).map fun index => byte (offset + index) := by
  have mapped {fd : Int} {contents : Option (Nat → UInt8)}
      (copied : (if fd < 0 then none
        else mmapBufferData contents offset size) = some frame) :
      ∃ byte, contents = some byte ∧
        frame = (List.range size).map fun index => byte (offset + index) := by
    unfold mmapBufferData at copied
    split at copied
    · cases copied
    · split at copied
      · cases copied
      · obtain ⟨byte, rfl, rfl⟩ := Option.map_eq_some_iff.mp copied
        exact ⟨byte, rfl, rfl⟩
  cases memory with
  | memPtr slice =>
      obtain ⟨slice, rfl, taken⟩ := Option.bind_eq_some_iff.mp copied
      split at taken
      · rename_i inside
        cases taken
        exact .inl ⟨slice, rfl, inside, rfl⟩
      · cases taken
  | dmaBuf fd contents =>
      obtain ⟨byte, rfl, isFrame⟩ := mapped copied
      exact .inr ⟨fd, byte, .inl rfl, isFrame⟩
  | memFd fd contents =>
      obtain ⟨byte, rfl, isFrame⟩ := mapped copied
      exact .inr ⟨fd, byte, .inr rfl, isFrame⟩
  | other => cases copied

/-- The bytes copied out of a buffer are those of the chunk. -/
theorem DataMemory.length_frameData {memory : DataMemory}
    {offset size : Nat} {frame : List UInt8}
    (copied : memory.frameData offset size = some frame) :
    frame.length = size := by
  rcases frameData_cases copied with
    ⟨slice, -, inside, rfl⟩ | ⟨fd, byte, -, rfl⟩
  · rw [List.length_take, List.length_drop]
    omega
  · rw [List.length_map, List.length_range]

/-- A signed number becomes a small `usize` or, when negative, one close to
the end of the range. -/
theorem usizeOfInt_small_or_large (number : Int32) :
    usizeOfInt number < 2 ^ 31 ∨
      ∃ below, usizeOfInt number + below = usizeRange ∧
        0 < below ∧ below ≤ 2 ^ 31 := by
  have low := number.le_toInt
  have high := number.toInt_lt
  unfold usizeOfInt usizeRange
  rcases Int.lt_or_le number.toInt 0 with negative | positive
  · right
    refine ⟨(-number.toInt).toNat, ?_, ?_, ?_⟩ <;> omega
  · left
    omega

/-- A stride times a height that passes the size check has not wrapped. -/
theorem stride_mul_le {stride : Int32} {height size : Nat}
    (height_lt : height < 2 ^ 32) (size_lt : size < 2 ^ 32)
    (passes : usizeOfInt stride * height % usizeRange ≤ size) :
    usizeOfInt stride * height ≤ size := by
  rcases usizeOfInt_small_or_large stride with small | large
  · have product : usizeOfInt stride * height ≤ 2 ^ 31 * 2 ^ 32 :=
      Nat.mul_le_mul (by omega) (by omega)
    rwa [Nat.mod_eq_of_lt (by unfold usizeRange; omega)] at passes
  · obtain ⟨below, sum, positive, below_le⟩ := large
    rcases height.eq_zero_or_pos with rfl | rows
    · omega
    · have product : below * height ≤ 2 ^ 31 * 2 ^ 32 :=
        Nat.mul_le_mul below_le (by omega)
      have some : 0 < below * height := Nat.mul_pos positive rows
      have total : usizeOfInt stride * height + below * height =
          usizeRange * (height - 1) + usizeRange := by
        rw [← Nat.add_mul, sum, ← Nat.mul_succ, Nat.succ_eq_add_one,
          Nat.sub_add_cancel rows]
      have wrapped : usizeOfInt stride * height =
          usizeRange * (height - 1) + (usizeRange - below * height) := by
        unfold usizeRange at *
        omega
      rw [wrapped, Nat.mul_add_mod,
        Nat.mod_eq_of_lt (by unfold usizeRange; omega)] at passes
      unfold usizeRange at passes
      omega

theorem StreamUserData.isAccepted {userData : StreamUserData}
    {buffer : Option (List BufferData)} {snapshot : FrameSnapshot}
    (accepts : userData.accept buffer = some snapshot) :
    snapshot.IsAccepted := by
  unfold accept at accepts
  split at accepts
  · cases accepts
  · cases accepts
  · rename_i data _
    split at accepts
    · cases accepts
    · dsimp only at accepts
      split at accepts
      · cases accepts
      · rename_i checked
        obtain ⟨frame, copied, rfl⟩ := Option.map_eq_some_iff.mp accepts
        have length := DataMemory.length_frameData copied
        have size_lt := data.chunk.size.toNat_lt
        have width_lt := userData.format.width.toNat_lt
        have height_lt := userData.format.height.toNat_lt
        have supported : bytesPerPixel userData.format.format = 4 := by
          revert checked
          cases userData.format.format <;> simp [bytesPerPixel]
        simp only [not_or, Nat.not_lt] at checked
        obtain ⟨-, -, passes⟩ := checked
        refine ⟨width_lt, height_lt,
          Nat.lt_of_le_of_lt (Nat.le_of_eq length) size_lt, supported, ?_⟩
        simp only [length]
        unfold expectedStride at passes ⊢
        dsimp only at passes ⊢
        split at passes
        · rename_i given
          rw [if_pos given]
          exact Or.inr (stride_mul_le height_lt size_lt passes)
        · rename_i absent
          rw [if_neg absent, supported]
          exact Or.inl rfl

namespace PipeWireRecorder

variable {recorder : PipeWireRecorder}

theorem takeFrame_of_newFrame (recorder : PipeWireRecorder)
    {state : SharedFrameState}
    (delivered : state.newFrame = true) :
    (recorder.takeFrame state).1.snapshot = state.snapshot ∧
      (recorder.takeFrame state).1.hasFrame = true := by
  simp [takeFrame, delivered, snapshot, SharedFrameState.snapshot]

theorem takeFrame_of_not_newFrame (recorder : PipeWireRecorder)
    {state : SharedFrameState}
    (none : state.newFrame = false) :
    recorder.takeFrame state = (recorder, state) := by
  simp [takeFrame, none]

theorem newFrame_takeFrame (recorder : PipeWireRecorder)
    (state : SharedFrameState) :
    (recorder.takeFrame state).2.newFrame = false := by
  cases delivered : state.newFrame <;> simp [takeFrame, delivered]

@[simp]
theorem depadRowsInPlace_tight (buf : List UInt8) (h stride : Nat) :
    depadRowsInPlace buf h stride stride = some buf := by
  simp [depadRowsInPlace]

/-- A frame that has been served is served again: its rows are tight by
now. -/
theorem serve_serve (recorder : PipeWireRecorder) :
    recorder.serve.2.serve = recorder.serve := by
  obtain ⟨frameBuffer, width, height, stride, videoFormat, hasFrame⟩ :=
    recorder
  cases hasFrame with
  | false => rfl
  | true =>
      cases videoFormat with
      | bgrx | bgra =>
          by_cases tight : stride = width * 4 <;>
            simp [serve, bytesPerPixel, tight]
      | rgbx | rgba =>
          cases removed : depadRowsInPlace frameBuffer height stride
            (width * 4) <;> simp [serve, bytesPerPixel, removed]
      | unknown | other raw => rfl

/-- Serving an accepted frame panics exactly if its rows overrun it. -/
theorem serve_eq_panic (holds : recorder.hasFrame = true)
    (accepted : recorder.snapshot.IsAccepted) :
    recorder.serve.1 = .panic ↔ recorder.snapshot.OverrunsRows := by
  obtain ⟨frameBuffer, width, height, stride, videoFormat, hasFrame⟩ :=
    recorder
  dsimp only at holds
  subst holds
  cases format : videoFormat with
  | bgrx | bgra =>
      refine iff_of_false ?_ ?_
      · by_cases tight : stride = width * 4 <;>
          simp [serve, bytesPerPixel, tight]
      · rintro ⟨depadded, -⟩
        simp [FrameSnapshot.IsDepadded, snapshot] at depadded
  | rgbx | rgba =>
      have depadded : (⟨frameBuffer, width, height, stride, videoFormat,
          true⟩ : PipeWireRecorder).snapshot.IsDepadded := by
        simp [FrameSnapshot.IsDepadded, snapshot, format]
      have exact := accepted.depad depadded
      subst format
      refine Iff.trans ?_ exact
      cases removed : depadRowsInPlace frameBuffer height stride
        (width * 4) <;> simp [serve, bytesPerPixel, snapshot, removed]
  | unknown | other raw =>
      refine iff_of_false (by simp [serve]) ?_
      rintro ⟨depadded, -⟩
      simp [FrameSnapshot.IsDepadded, snapshot] at depadded

end PipeWireRecorder

end Rylus
