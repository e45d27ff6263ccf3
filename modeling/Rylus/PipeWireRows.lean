import Rylus.FrameReads
import Rylus.PipeWireFrames

/-!
# The rows of a captured PipeWire chunk

The `process` callback compares the size of a chunk with its stride times the
height, whatever the stride is.  `capture` passes the stride on or packs the
rows, which needs rows that do not overlap.
-/

namespace Rylus

open StridedRows

/-- The byte at a position of the memory. -/
def DataMemory.byteAt : DataMemory → Nat → Option UInt8
  | memPtr slice, position => slice.bind fun slice => slice[position]?
  | dmaBuf _ contents, position | memFd _ contents, position =>
      contents.map fun byte => byte position
  | other, _ => none

namespace StreamUserData

/-- What the `process` callback checks of a chunk. -/
def Passes (format : VideoInfoRaw) (chunk : ChunkInfo) : Prop :=
  chunk.size.toNat ≠ 0 ∧ bytesPerPixel format.format ≠ 0 ∧
    expectedStride format chunk * format.height.toNat % usizeRange ≤
      chunk.size.toNat

end StreamUserData

open StreamUserData

/-- The provider has the negotiated size, its rows lie in its slice, and they
are those of the chunk. -/
structure ServesRows (format : VideoInfoRaw) (data : BufferData)
    (provider : PixelProvider) : Prop where
  sized : provider.size = (format.width.toNat, format.height.toNat)
  inside : ∀ row < format.height.toNat,
    row * provider.pitch + format.width.toNat * 4 ≤ provider.data.length
  rows : ∀ row < format.height.toNat, ∀ cell < format.width.toNat * 4,
    provider.data[row * provider.pitch + cell]? =
      data.memory.byteAt (data.chunk.offset.toNat +
        (row * expectedStride format data.chunk + cell))

/-- Whatever memory an accepted chunk of this kind is in, the next `capture`
of a stream that has not failed returns its rows. -/
def ServedSafely (format : VideoInfoRaw) (chunk : ChunkInfo) : Prop :=
  ∀ (stream : PipeWireStream) (memory : DataMemory) (rest : List BufferData),
    stream.userData = ⟨format, true⟩ → stream.shared.streamError = false →
      (stream.userData.accept (some (⟨chunk, memory⟩ :: rest))).isSome →
        let after := stream.onProcess (some (⟨chunk, memory⟩ :: rest))
        ∃ provider,
          (after.recorder.capture after.shared).1 = .ok provider ∧
            ServesRows format ⟨chunk, memory⟩ provider

/-- The last row ends within the chunk.  If the rows have to be packed and the
stride is shorter than a row, there are at most two of them, and the chunk is
long enough for them without overlap. -/
structure CoversRows (format : VideoInfoRaw) (chunk : ChunkInfo) : Prop where
  last : (format.height.toNat - 1) * expectedStride format chunk +
    format.width.toNat * 4 ≤ chunk.size.toNat
  packed : format.format = .rgbx ∨ format.format = .rgba →
    expectedStride format chunk < format.width.toNat * 4 →
      format.height.toNat ≤ 2 ∧
        format.height.toNat * (format.width.toNat * 4) ≤ chunk.size.toNat

/-! ### What is stored -/

/-- What the `process` callback stores of a chunk. -/
def chunkSnapshot (format : VideoInfoRaw) (chunk : ChunkInfo)
    (frame : List UInt8) : FrameSnapshot where
  frame := frame
  width := format.width.toNat
  height := format.height.toNat
  stride := expectedStride format chunk
  videoFormat := format.format

/-- The `process` callback accepts a chunk and copies these bytes out of it. -/
structure Delivers (format : VideoInfoRaw) (data : BufferData)
    (frame : List UInt8) : Prop where
  passes : Passes format data.chunk
  copied : data.memory.frameData data.chunk.offset.toNat
    data.chunk.size.toNat = some frame

theorem StreamUserData.accept_eq_some_iff {format : VideoInfoRaw}
    {data : BufferData} {rest : List BufferData} {snapshot : FrameSnapshot} :
    accept ⟨format, true⟩ (some (data :: rest)) = some snapshot ↔
      ∃ frame, Delivers format data frame ∧
        chunkSnapshot format data.chunk frame = snapshot := by
  simp only [accept, Bool.true_eq_false, if_false]
  by_cases passes : Passes format data.chunk
  · obtain ⟨nonempty, supported, large⟩ := passes
    rw [if_neg (by simp [nonempty, supported, large]), Option.map_eq_some_iff]
    constructor
    · rintro ⟨frame, copied, rfl⟩
      exact ⟨frame, ⟨⟨nonempty, supported, large⟩, copied⟩, rfl⟩
    · rintro ⟨frame, delivers, rfl⟩
      exact ⟨frame, delivers.copied, rfl⟩
  · have fails : data.chunk.size.toNat = 0 ∨
        bytesPerPixel format.format = 0 ∨
          data.chunk.size.toNat <
            expectedStride format data.chunk * format.height.toNat %
              usizeRange := by
      by_contra passed
      simp only [not_or, Nat.not_lt] at passed
      exact passes passed
    rw [if_pos fails]
    refine iff_of_false ?_ ?_
    · rintro ⟨⟩
    · rintro ⟨frame, delivers, -⟩
      exact passes delivers.passes

/-- The bytes copied out of a buffer are those from the offset on. -/
theorem DataMemory.getElem?_frameData {memory : DataMemory}
    {offset size : Nat} {frame : List UInt8}
    (copied : memory.frameData offset size = some frame) {index : Nat}
    (isIndex : index < size) :
    frame[index]? = memory.byteAt (offset + index) := by
  rcases frameData_cases copied with
    ⟨slice, rfl, -, rfl⟩ | ⟨fd, byte, rfl | rfl, rfl⟩
  · rw [List.getElem?_take_of_lt isIndex, List.getElem?_drop]
    rfl
  · simp [byteAt, isIndex]
  · simp [byteAt, isIndex]

/-- A recorder that has just taken a frame. -/
def PipeWireRecorder.holding (snapshot : FrameSnapshot) :
    PipeWireRecorder where
  frameBuffer := snapshot.frame
  width := snapshot.width
  height := snapshot.height
  stride := snapshot.stride
  videoFormat := snapshot.videoFormat
  hasFrame := true

open PipeWireRecorder

theorem PipeWireStream.capture_onProcess {stream : PipeWireStream}
    {buffer : Option (List BufferData)} {snapshot : FrameSnapshot}
    (accepts : stream.userData.accept buffer = some snapshot)
    (working : stream.shared.streamError = false) :
    ((stream.onProcess buffer).recorder.capture
      (stream.onProcess buffer).shared).1 = (holding snapshot).serve.1 := by
  simp [onProcess, accepts, capture, SharedFrameState.store, working,
    takeFrame, holding]

/-! ### Packing -/

/-- The loop of `depadRowsInPlace` packs the rows as long as they fit. -/
theorem foldlM_copyWithin_eq {buf : List UInt8} {tight stride moved : Nat}
    (movable : Movable buf.length tight stride moved)
    (small : buf.length < usizeRange) :
    (List.range' 1 moved).foldlM
        (fun buf row => copyWithin buf (row * stride % usizeRange) tight
          (row * tight % usizeRange)) buf =
      some (StridedRows.packed buf tight stride moved) := by
  induction moved with
  | zero => rfl
  | succ moved ih =>
      have fewer := movable.mono (Nat.le_succ moved)
      have same := length_packed fewer
      obtain ⟨srcFits, dstFits⟩ := movable.fits_packed
      rw [List.range'_concat, List.foldlM_append, ih fewer]
      simp only [Option.bind_eq_bind, Option.bind_some, List.foldlM_cons,
        List.foldlM_nil, Nat.one_mul, Nat.add_comm 1 moved]
      rw [Nat.mod_eq_of_lt (by omega), Nat.mod_eq_of_lt (by omega),
        copyWithin, if_pos (by omega)]
      rfl

theorem depadRowsInPlace_eq {buf : List UInt8} {h stride tight : Nat}
    (padded : stride ≠ tight)
    (movable : Movable buf.length tight stride (h - 1))
    (small : buf.length < usizeRange) (whole : h * tight < usizeRange) :
    depadRowsInPlace buf h stride tight =
      some ((StridedRows.packed buf tight stride (h - 1)).take
        (h * tight)) := by
  rw [depadRowsInPlace, if_neg padded, foldlM_copyWithin_eq movable small,
    Option.map_some, Nat.mod_eq_of_lt whole]

/-- Rows that fit into the buffer are moved to the front, each as it was
before any of them was moved.  Without padding the buffer keeps what follows
the rows, and a second call always finds no padding. -/
theorem depadRowsInPlace_compacts {buf : List UInt8} {h stride tight : Nat}
    (isVec : buf.length < usizeRange) (wide : tight ≤ stride)
    (fits : h * stride ≤ buf.length) :
    ∃ compact, depadRowsInPlace buf h stride tight = some compact ∧
      compact = rowsOf buf h tight stride ++
        (if stride = tight then buf.drop (h * tight) else []) ∧
      depadRowsInPlace compact h tight tight = some compact := by
  by_cases padded : stride = tight
  · subst padded
    have tight := depadRowsInPlace_tight buf h stride
    refine ⟨buf, tight, ?_, tight⟩
    have rows : buf.take (h * stride) = rowsOf buf h stride stride :=
      take_eq_rowsOf fun _ _ _ _ => rfl
    rw [if_pos rfl, ← rows, List.take_append_drop]
  · have inBuffer (row : Nat) (isRow : row < h) :
        row * stride + tight ≤ buf.length ∧
          row * tight + tight ≤ buf.length := by
      have ends : (row + 1) * stride ≤ h * stride :=
        Nat.mul_le_mul_right stride isRow
      have order : row * tight ≤ row * stride := Nat.mul_le_mul_left row wide
      rw [Nat.succ_mul] at ends
      omega
    have movable : Movable buf.length tight stride (h - 1) :=
      fun row first last => inBuffer row (by omega)
    have shorter : h * tight ≤ h * stride := Nat.mul_le_mul_left h wide
    refine ⟨_, depadRowsInPlace_eq padded movable isVec (by omega), ?_,
      depadRowsInPlace_tight _ _ _⟩
    rw [if_neg padded, List.append_nil]
    apply take_eq_rowsOf
    intro row isRow cell isCell
    exact getElem?_packed movable (.inl wide) (by omega) isCell

/-- Two rows of two bytes at a stride of three. -/
theorem depadRowsInPlace_compacts_padded :
    ∃ compact, depadRowsInPlace [1, 2, 0, 3, 4, 0, 5] 2 3 2 = some compact ∧
      compact = rowsOf [1, 2, 0, 3, 4, 0, 5] 2 2 3 ++
        (if 3 = 2 then [1, 2, 0, 3, 4, 0, 5].drop (2 * 2) else []) ∧
      depadRowsInPlace compact 2 2 2 = some compact :=
  depadRowsInPlace_compacts (by decide) (by decide) (by decide)

namespace FrameSnapshot

variable {snapshot : FrameSnapshot}

theorem IsAccepted.movable (accepted : snapshot.IsAccepted)
    (depadded : snapshot.IsDepadded) (inside : ¬ snapshot.OverrunsRows)
    (padded : snapshot.stride ≠ snapshot.width * 4) :
    Movable snapshot.frame.length (snapshot.width * 4) snapshot.stride
      (snapshot.height - 1) := by
  intro row first last
  exact accepted.rows_fit depadded inside padded first (by omega)

/-- Removing the padding packs the rows and cuts the buffer off. -/
theorem IsAccepted.depad_eq (accepted : snapshot.IsAccepted)
    (depadded : snapshot.IsDepadded) (inside : ¬ snapshot.OverrunsRows)
    (padded : snapshot.stride ≠ snapshot.width * 4) :
    depadRowsInPlace snapshot.frame snapshot.height snapshot.stride
        (snapshot.width * 4) =
      some ((StridedRows.packed snapshot.frame (snapshot.width * 4)
        snapshot.stride (snapshot.height - 1)).take
          (snapshot.height * (snapshot.width * 4))) := by
  have movable := accepted.movable depadded inside padded
  have width_lt := accepted.width_lt
  have length_lt := accepted.length_lt
  have whole : snapshot.height * (snapshot.width * 4) < usizeRange := by
    rcases Nat.lt_or_ge snapshot.height 2 with few | rows
    · have one : snapshot.height * (snapshot.width * 4) ≤
          1 * (snapshot.width * 4) := Nat.mul_le_mul_right _ (by omega)
      unfold usizeRange
      omega
    · have last := (movable (snapshot.height - 1) (by omega) le_rfl).2
      rw [← Nat.succ_mul, Nat.succ_eq_add_one,
        Nat.sub_add_cancel (by omega)] at last
      unfold usizeRange
      omega
  exact depadRowsInPlace_eq padded movable (by unfold usizeRange; omega) whole

end FrameSnapshot

/-! ### What is served -/

variable {format : VideoInfoRaw} {chunk : ChunkInfo}

namespace Delivers

variable {data : BufferData} {frame : List UInt8}

theorem length (delivers : Delivers format data frame) :
    frame.length = data.chunk.size.toNat :=
  DataMemory.length_frameData delivers.copied

theorem getElem?_frame (delivers : Delivers format data frame) {index : Nat}
    (isIndex : index < data.chunk.size.toNat) :
    frame[index]? =
      data.memory.byteAt (data.chunk.offset.toNat + index) :=
  DataMemory.getElem?_frameData delivers.copied isIndex

theorem isAccepted (delivers : Delivers format data frame) :
    (chunkSnapshot format data.chunk frame).IsAccepted := by
  have accepts : accept ⟨format, true⟩ (some [data]) =
      some (chunkSnapshot format data.chunk frame) :=
    accept_eq_some_iff.mpr ⟨frame, delivers, rfl⟩
  exact StreamUserData.isAccepted accepts

end Delivers

/-- The frame as it is, with the stride of the chunk. -/
theorem servesRows_of_last {data : BufferData} {frame : List UInt8}
    {provider : PixelProvider}
    (delivers : Delivers format data frame)
    (sized : provider.size = (format.width.toNat, format.height.toNat))
    (isPitch : provider.pitch = expectedStride format data.chunk)
    (isData : provider.data = frame)
    (last : (format.height.toNat - 1) * expectedStride format data.chunk +
      format.width.toNat * 4 ≤ data.chunk.size.toNat) :
    ServesRows format data provider := by
  have length := delivers.length
  have ends {row : Nat} (isRow : row < format.height.toNat) :
      row * expectedStride format data.chunk + format.width.toNat * 4 ≤
        data.chunk.size.toNat := by
    have earlier : row * expectedStride format data.chunk ≤
        (format.height.toNat - 1) * expectedStride format data.chunk :=
      Nat.mul_le_mul_right _ (by omega)
    omega
  constructor
  · exact sized
  · intro row isRow
    rw [isPitch, isData, length]
    exact ends isRow
  · intro row isRow cell isCell
    have inside := ends isRow
    rw [isPitch, isData]
    exact delivers.getElem?_frame (by omega)

/-- The provider of a frame that is not packed. -/
theorem serve_holding {snapshot : FrameSnapshot}
    (supported : bytesPerPixel snapshot.videoFormat = 4)
    (unpacked : ¬ snapshot.IsDepadded ∨
      snapshot.stride = snapshot.width * 4) :
    ∃ provider, (holding snapshot).serve.1 = .ok provider ∧
      provider.size = (snapshot.width, snapshot.height) ∧
        provider.pitch = snapshot.stride ∧
          provider.data = snapshot.frame := by
  obtain ⟨frame, width, height, stride, videoFormat⟩ := snapshot
  dsimp only at supported unpacked ⊢
  cases videoFormat with
  | bgrx | bgra =>
      by_cases tight : stride = width * 4
      · refine ⟨.bgr0 width height frame, ?_, rfl, tight.symm, rfl⟩
        simp [serve, holding, bytesPerPixel, tight]
      · refine ⟨.bgr0s width height stride frame, ?_, rfl, rfl, rfl⟩
        simp [serve, holding, bytesPerPixel, tight]
  | rgbx | rgba =>
      have tight : stride = width * 4 := by
        apply unpacked.resolve_left
        simp [FrameSnapshot.IsDepadded]
      refine ⟨.rgb0 width height frame, ?_, rfl, tight.symm, rfl⟩
      simp [serve, holding, bytesPerPixel, tight]
  | unknown | other raw => cases supported

/-- The outcome for a frame of which the rows are packed. -/
theorem serve_holding_of_isDepadded {snapshot : FrameSnapshot}
    (depadded : snapshot.IsDepadded) :
    (holding snapshot).serve.1 =
      match depadRowsInPlace snapshot.frame snapshot.height snapshot.stride
        (snapshot.width * 4) with
      | some frame => .ok (.rgb0 snapshot.width snapshot.height frame)
      | none => .panic := by
  obtain ⟨frame, width, height, stride, videoFormat⟩ := snapshot
  dsimp only
  rcases depadded with isFormat | isFormat <;>
    cases isFormat <;>
    cases removed : depadRowsInPlace frame height stride (width * 4) <;>
    simp [serve, holding, bytesPerPixel, removed]

/-- All rows of an accepted chunk fit without padding. -/
theorem Delivers.tight_le {data : BufferData} {frame : List UInt8}
    (delivers : Delivers format data frame)
    (padded : expectedStride format data.chunk ≠ format.width.toNat * 4)
    (wide : format.width.toNat * 4 ≤ expectedStride format data.chunk) :
    format.height.toNat * (format.width.toNat * 4) ≤
      data.chunk.size.toNat := by
  have accepted := delivers.isAccepted
  have length := delivers.length
  calc format.height.toNat * (format.width.toNat * 4)
      ≤ format.height.toNat * expectedStride format data.chunk :=
        Nat.mul_le_mul_left _ wide
    _ = expectedStride format data.chunk * format.height.toNat :=
        Nat.mul_comm _ _
    _ ≤ frame.length := accepted.fits.resolve_left padded
    _ = data.chunk.size.toNat := length

/-- A frame of which the rows are packed. -/
theorem servesRows_of_packed {data : BufferData} {frame : List UInt8}
    (delivers : Delivers format data frame)
    (depadded : (chunkSnapshot format data.chunk frame).IsDepadded)
    (padded : expectedStride format data.chunk ≠ format.width.toNat * 4)
    (covers : CoversRows format data.chunk) :
    ∃ provider,
      (holding (chunkSnapshot format data.chunk frame)).serve.1 =
          .ok provider ∧
        ServesRows format data provider := by
  have accepted := delivers.isAccepted
  have length := delivers.length
  have inside : ¬ (chunkSnapshot format data.chunk frame).OverrunsRows := by
    rintro ⟨-, -, shorter, short⟩
    have enough := (covers.packed depadded shorter).2
    exact absurd short (Nat.not_lt.mpr (enough.trans_eq length.symm))
  have movable := accepted.movable depadded inside padded
  have enough : format.height.toNat * (format.width.toNat * 4) ≤
      data.chunk.size.toNat := by
    rcases Nat.lt_or_ge (expectedStride format data.chunk)
      (format.width.toNat * 4) with shorter | wide
    · exact (covers.packed depadded shorter).2
    · exact delivers.tight_le padded wide
  have apart : format.width.toNat * 4 ≤ expectedStride format data.chunk ∨
      format.height.toNat - 1 ≤ 1 := by
    rcases Nat.lt_or_ge (expectedStride format data.chunk)
      (format.width.toNat * 4) with shorter | wide
    · have few := (covers.packed depadded shorter).1
      exact .inr (by omega)
    · exact .inl wide
  have ends {row : Nat} (isRow : row < format.height.toNat) :
      row * (format.width.toNat * 4) + format.width.toNat * 4 ≤
        format.height.toNat * (format.width.toNat * 4) := by
    rw [← Nat.succ_mul]
    exact Nat.mul_le_mul_right _ isRow
  rw [serve_holding_of_isDepadded depadded,
    accepted.depad_eq depadded inside padded]
  refine ⟨_, rfl, ⟨rfl, ?_, ?_⟩⟩
  · intro row isRow
    have rowEnds := ends isRow
    change row * (format.width.toNat * 4) + _ ≤ List.length (List.take _ _)
    rw [List.length_take, length_packed movable]
    change _ ≤ min (format.height.toNat * (format.width.toNat * 4))
      frame.length
    omega
  · intro row isRow cell isCell
    have rowEnds := ends isRow
    change (List.take (format.height.toNat * (format.width.toNat * 4)) _)[
      row * (format.width.toNat * 4) + cell]? = _
    rw [List.getElem?_take_of_lt (by omega)]
    refine (getElem?_packed movable apart ?_ isCell).trans ?_
    · change row ≤ format.height.toNat - 1
      omega
    · refine delivers.getElem?_frame ?_
      have last := covers.last
      have earlier : row * expectedStride format data.chunk ≤
          (format.height.toNat - 1) * expectedStride format data.chunk :=
        Nat.mul_le_mul_right _ (by omega)
      change row * expectedStride format data.chunk + cell < _
      omega

/-- A frame without rows. -/
theorem servesRows_of_height_eq_zero {data : BufferData} {frame : List UInt8}
    (delivers : Delivers format data frame)
    (none : format.height.toNat = 0) :
    ∃ provider,
      (holding (chunkSnapshot format data.chunk frame)).serve.1 =
          .ok provider ∧
        ServesRows format data provider := by
  have accepted := delivers.isAccepted
  have served {provider : PixelProvider}
      (sized : provider.size = (format.width.toNat, format.height.toNat)) :
      ServesRows format data provider := by
    constructor
    · exact sized
    · intro row isRow
      omega
    · intro row isRow
      omega
  by_cases unpacked : ¬ (chunkSnapshot format data.chunk frame).IsDepadded ∨
      expectedStride format data.chunk = format.width.toNat * 4
  · obtain ⟨provider, answers, sized, -⟩ :=
      serve_holding accepted.supported unpacked
    exact ⟨provider, answers, served sized⟩
  · obtain ⟨depadded, padded⟩ := not_or.mp unpacked
    rw [not_not] at depadded
    have inside :
        ¬ (chunkSnapshot format data.chunk frame).OverrunsRows := by
      rintro ⟨-, rows, -⟩
      change 2 ≤ format.height.toNat at rows
      omega
    rw [serve_holding_of_isDepadded depadded,
      accepted.depad_eq depadded inside padded]
    exact ⟨_, rfl, served rfl⟩

/-! ### Rows that overlap -/

/-- Memory of zeros but for one byte of the chunk. -/
def markedMemory (offset size position : Nat) : DataMemory :=
  .memPtr (some ((List.replicate (offset + size) 0).set (offset + position) 1))

theorem frameData_markedMemory (offset size position : Nat) :
    ∃ frame,
      (markedMemory offset size position).frameData offset size =
        some frame := by
  simp [markedMemory, DataMemory.frameData]

theorem byteAt_markedMemory {offset size position index : Nat}
    (isIndex : index < size) :
    (markedMemory offset size position).byteAt (offset + index) =
      some (if index = position then 1 else 0) := by
  by_cases marked : index = position
  · subst marked
    simp [markedMemory, DataMemory.byteAt, isIndex]
  · have other : position ≠ index := fun same => marked same.symm
    simp [markedMemory, DataMemory.byteAt, isIndex, marked, other]

/-- The first byte of the third row that the second one is moved over, counted
from the start of the third row. -/
def overlap (format : VideoInfoRaw) (chunk : ChunkInfo) : Nat :=
  format.width.toNat * 4 - 2 * expectedStride format chunk

/-- A chunk with the first overlap marked. -/
def markedData (format : VideoInfoRaw) (chunk : ChunkInfo) : BufferData where
  chunk := chunk
  memory := markedMemory chunk.offset.toNat chunk.size.toNat
    (2 * expectedStride format chunk + overlap format chunk)

theorem expectedStride_pos
    (padded : expectedStride format chunk ≠ format.width.toNat * 4)
    (supported : bytesPerPixel format.format = 4) :
    0 < expectedStride format chunk := by
  unfold expectedStride at padded ⊢
  dsimp only at padded ⊢
  split at padded
  next given =>
    rw [if_pos given]
    exact given
  next =>
    rw [supported] at padded
    exact absurd rfl padded

/-- Rows that are packed in spite of their overlap are not those of the
chunk, from the third one on. -/
theorem height_le_two_of_servesRows {frame : List UInt8}
    (delivers : Delivers format (markedData format chunk) frame)
    (depadded : (chunkSnapshot format chunk frame).IsDepadded)
    (inside : ¬ (chunkSnapshot format chunk frame).OverrunsRows)
    (shorter : expectedStride format chunk < format.width.toNat * 4)
    (enough : format.height.toNat * (format.width.toNat * 4) ≤
      chunk.size.toNat)
    {provider : PixelProvider}
    (answers : (holding (chunkSnapshot format chunk frame)).serve.1 =
      .ok provider)
    (serves : ServesRows format (markedData format chunk) provider) :
    format.height.toNat ≤ 2 := by
  by_contra many
  have accepted : (chunkSnapshot format chunk frame).IsAccepted :=
    delivers.isAccepted
  have padded : expectedStride format chunk ≠ format.width.toNat * 4 :=
    shorter.ne
  have positive := expectedStride_pos padded accepted.supported
  have movable := accepted.movable depadded inside padded
  rw [serve_holding_of_isDepadded depadded,
    accepted.depad_eq depadded inside padded] at answers
  cases answers
  have threeRows : 3 * (format.width.toNat * 4) ≤
      format.height.toNat * (format.width.toNat * 4) :=
    Nat.mul_le_mul_right _ (by omega)
  have isCell : overlap format chunk < format.width.toNat * 4 := by
    unfold overlap
    omega
  have covered : format.width.toNat * 4 ≤
      2 * expectedStride format chunk + overlap format chunk := by
    unfold overlap
    omega
  have below : 2 * expectedStride format chunk + overlap format chunk <
      2 * (format.width.toNat * 4) := by
    unfold overlap
    omega
  have isShift : expectedStride format chunk +
      (format.width.toNat * 4 - expectedStride format chunk) =
        format.width.toNat * 4 := by
    omega
  have third := serves.rows 2 (by omega) (overlap format chunk) isCell
  change (List.take (format.height.toNat * (format.width.toNat * 4)) _)[
    2 * (format.width.toNat * 4) + overlap format chunk]? = _ at third
  rw [List.getElem?_take_of_lt (by omega)] at third
  have moved := getElem?_packed_third movable
    (show 2 ≤ format.height.toNat - 1 by omega) isCell isShift covered below
  -- the byte that is served is not the one that is marked
  have isMarked : (markedData format chunk).memory.byteAt
      (chunk.offset.toNat +
        (2 * expectedStride format chunk + overlap format chunk)) = some 1 :=
    (byteAt_markedMemory (by omega)).trans (congrArg some (if_pos rfl))
  have notMarked : frame[2 * expectedStride format chunk +
      overlap format chunk -
        (format.width.toNat * 4 - expectedStride format chunk)]? = some 0 := by
    have isIndex : 2 * expectedStride format chunk + overlap format chunk -
        (format.width.toNat * 4 - expectedStride format chunk) <
          chunk.size.toNat := by
      omega
    rw [delivers.getElem?_frame isIndex]
    refine (byteAt_markedMemory (by omega)).trans (congrArg some (if_neg ?_))
    omega
  have same := (notMarked.symm.trans (moved.symm.trans third)).trans isMarked
  exact absurd same (by decide)

/-- The last one of the packed rows ends within what the chunk holds. -/
theorem tight_le_of_servesRows {data : BufferData} {frame : List UInt8}
    (delivers : Delivers format data frame)
    (depadded : (chunkSnapshot format data.chunk frame).IsDepadded)
    (inside : ¬ (chunkSnapshot format data.chunk frame).OverrunsRows)
    (padded : expectedStride format data.chunk ≠ format.width.toNat * 4)
    (rows : format.height.toNat ≠ 0) {provider : PixelProvider}
    (answers : (holding (chunkSnapshot format data.chunk frame)).serve.1 =
      .ok provider)
    (serves : ServesRows format data provider) :
    format.height.toNat * (format.width.toNat * 4) ≤
      data.chunk.size.toNat := by
  have accepted := delivers.isAccepted
  have length := delivers.length
  have movable := accepted.movable depadded inside padded
  rw [serve_holding_of_isDepadded depadded,
    accepted.depad_eq depadded inside padded] at answers
  cases answers
  have last := serves.inside (format.height.toNat - 1) (by omega)
  change (format.height.toNat - 1) * (format.width.toNat * 4) +
    format.width.toNat * 4 ≤ List.length (List.take _ _) at last
  rw [List.length_take, length_packed movable, ← Nat.succ_mul,
    Nat.succ_eq_add_one, Nat.sub_add_cancel (by omega)] at last
  exact (last.trans (min_le_right _ _)).trans_eq length

/-- If the chunk holds the rows without padding, the last one ends within the
chunk where it is. -/
theorem last_le_of_tight_le {data : BufferData} {frame : List UInt8}
    (delivers : Delivers format data frame)
    (padded : expectedStride format data.chunk ≠ format.width.toNat * 4)
    (rows : format.height.toNat ≠ 0)
    (enough : format.height.toNat * (format.width.toNat * 4) ≤
      data.chunk.size.toNat) :
    (format.height.toNat - 1) * expectedStride format data.chunk +
      format.width.toNat * 4 ≤ data.chunk.size.toNat := by
  have accepted := delivers.isAccepted
  have length := delivers.length
  have fits : expectedStride format data.chunk * format.height.toNat ≤
      frame.length := accepted.fits.resolve_left padded
  have whole (rowLength : Nat) :
      (format.height.toNat - 1) * rowLength + rowLength =
        format.height.toNat * rowLength := by
    rw [← Nat.succ_mul, Nat.succ_eq_add_one, Nat.sub_add_cancel (by omega)]
  rcases Nat.lt_or_ge (expectedStride format data.chunk)
    (format.width.toNat * 4) with shorter | wide
  · have earlier : (format.height.toNat - 1) *
          expectedStride format data.chunk ≤
        (format.height.toNat - 1) * (format.width.toNat * 4) :=
      Nat.mul_le_mul_left _ shorter.le
    have tightRows := whole (format.width.toNat * 4)
    omega
  · have allRows := whole (expectedStride format data.chunk)
    rw [Nat.mul_comm] at fits
    omega

/-- A chunk whose rows are served whatever memory it is in covers them: the
bytes that overlaps would destroy may be there. -/
theorem coversRows_of_servedSafely (safe : ServedSafely format chunk)
    (passes : Passes format chunk) (rows : format.height.toNat ≠ 0) :
    CoversRows format chunk := by
  obtain ⟨frame, copied⟩ := frameData_markedMemory chunk.offset.toNat
    chunk.size.toNat (2 * expectedStride format chunk + overlap format chunk)
  have delivers : Delivers format (markedData format chunk) frame :=
    ⟨passes, copied⟩
  have accepts : accept ⟨format, true⟩ (some [markedData format chunk]) =
      some (chunkSnapshot format chunk frame) :=
    accept_eq_some_iff.mpr ⟨frame, delivers, rfl⟩
  have accepted := StreamUserData.isAccepted accepts
  have length : frame.length = chunk.size.toNat :=
    delivers.length
  obtain ⟨provider, answers, serves⟩ := safe
    { PipeWireStream.new with userData := ⟨format, true⟩ }
    (markedData format chunk).memory [] rfl rfl (Option.isSome_of_mem accepts)
  rw [PipeWireStream.capture_onProcess accepts rfl] at answers
  by_cases unpacked : ¬ (chunkSnapshot format chunk frame).IsDepadded ∨
      expectedStride format chunk = format.width.toNat * 4
  · obtain ⟨same, isSame, -, isPitch, isData⟩ :=
      serve_holding accepted.supported unpacked
    cases isSame.symm.trans answers
    have last := serves.inside (format.height.toNat - 1) (by omega)
    rw [isPitch, isData] at last
    refine ⟨last.trans_eq length, ?_⟩
    intro depadded shorter
    exact absurd (unpacked.resolve_left (not_not.mpr depadded)) shorter.ne
  · obtain ⟨depadded, padded⟩ := not_or.mp unpacked
    rw [not_not] at depadded
    have inside : ¬ (chunkSnapshot format chunk frame).OverrunsRows := by
      rw [← accepted.depad depadded]
      intro panics
      rw [serve_holding_of_isDepadded depadded, panics] at answers
      cases answers
    have enough : format.height.toNat * (format.width.toNat * 4) ≤
        (markedData format chunk).chunk.size.toNat :=
      tight_le_of_servesRows delivers depadded inside padded rows answers serves
    have last : (format.height.toNat - 1) *
          expectedStride format (markedData format chunk).chunk +
        format.width.toNat * 4 ≤
          (markedData format chunk).chunk.size.toNat :=
      last_le_of_tight_le delivers padded rows enough
    constructor
    · exact last
    · intro _ shorter
      exact ⟨height_le_two_of_servesRows delivers depadded inside shorter
        enough answers serves, enough⟩

/-- Whatever memory a chunk is in, its rows are served exactly if the chunk
covers them and they can be packed. -/
theorem servedSafely_iff_coversRows (format : VideoInfoRaw)
    (chunk : ChunkInfo) :
    ServedSafely format chunk ↔
      (Passes format chunk →
        format.height.toNat = 0 ∨ CoversRows format chunk) := by
  constructor
  · intro safe passes
    rw [or_iff_not_imp_left]
    exact coversRows_of_servedSafely safe passes
  · intro covers stream memory rest isFormat working accepts
    obtain ⟨snapshot, isSnapshot⟩ := Option.isSome_iff_exists.mp accepts
    dsimp only
    rw [PipeWireStream.capture_onProcess isSnapshot working]
    rw [isFormat] at isSnapshot
    obtain ⟨frame, delivers, rfl⟩ := accept_eq_some_iff.mp isSnapshot
    rcases covers delivers.passes with none | covers
    · exact servesRows_of_height_eq_zero delivers none
    · by_cases unpacked : ¬ (chunkSnapshot format chunk frame).IsDepadded ∨
          expectedStride format chunk = format.width.toNat * 4
      · obtain ⟨provider, answers, sized, isPitch, isData⟩ := serve_holding
          delivers.isAccepted.supported unpacked
        exact ⟨provider, answers,
          servesRows_of_last delivers sized isPitch isData covers.last⟩
      · obtain ⟨depadded, padded⟩ := not_or.mp unpacked
        exact servesRows_of_packed delivers (not_not.mp depadded) padded
          covers

/-- Two rows of eight bytes in a chunk of eight bytes. -/
theorem shortStride_not_servedSafely :
    ¬ ∀ (format : VideoInfoRaw) (chunk : ChunkInfo),
      ServedSafely format chunk := by
  intro safe
  have passes : Passes ⟨.bgrx, 2, 2⟩ ⟨8, 0, 4⟩ := by
    unfold Passes
    decide
  have covers := coversRows_of_servedSafely (safe _ _) passes (by decide)
  exact absurd covers.last (by decide)

end Rylus
