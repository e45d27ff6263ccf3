import Rylus.EncoderFlags
import Rylus.StridedRows

/-!
# What the scaler reads of a frame

`encode` points the input frame of a filter graph at the borrowed pixels.  The
filter graph reads `widthIn` pixels of `heightIn` rows through this pointer,
row `row` from `row * linesize` on, so that the comparison with `expected` is
all that keeps it inside the slice.
-/

namespace Rylus

open StridedRows

namespace PixelProvider

def size : PixelProvider → Nat × Nat
  | rgb width height _ | rgb0 width height _ | bgr0 width height _
  | bgr0s width height _ _ => (width, height)

def bytesPerPixel : PixelProvider → Nat
  | rgb _ _ _ => 3
  | rgb0 _ _ _ | bgr0 _ _ _ | bgr0s _ _ _ _ => 4

/-- Bytes from one row to the next, before the cast to `c_int`. -/
def pitch : PixelProvider → Nat
  | bgr0s _ _ stride _ => stride
  | provider => provider.size.1 * provider.bytesPerPixel

theorem linesize_eq (provider : PixelProvider) :
    provider.linesize = Int32.ofNat provider.pitch := by
  cases provider <;> rfl

theorem expected_eq (provider : PixelProvider) :
    provider.expected = provider.pitch * provider.size.2 % usizeRange := by
  cases provider with
  | bgr0s width height stride data => rfl
  | rgb width height data =>
      change width * height * 3 % usizeRange = width * 3 * height % usizeRange
      rw [Nat.mul_right_comm]
  | rgb0 width height data | bgr0 width height data =>
      change width * height * 4 % usizeRange = width * 4 * height % usizeRange
      rw [Nat.mul_right_comm]

theorem linesize_of_lt {provider : PixelProvider}
    (small : provider.pitch % 2 ^ 32 < 2 ^ 31) :
    provider.linesize.toInt = ((provider.pitch % 2 ^ 32 : Nat) : Int) := by
  rw [linesize_eq, Int32.toInt_ofNat', Int32.size, Int.bmod_def]
  omega

theorem linesize_neg_of_le {provider : PixelProvider}
    (large : 2 ^ 31 ≤ provider.pitch % 2 ^ 32) :
    provider.linesize.toInt < 0 := by
  rw [linesize_eq, Int32.toInt_ofNat', Int32.size, Int.bmod_def]
  omega

/-- The last row ends within the slice, with what is left of the pitch in a
`c_int`, which is not negative unless there is only one row. -/
structure LastRowFits (provider : PixelProvider) : Prop where
  forward : provider.size.2 = 1 ∨ provider.pitch % 2 ^ 32 < 2 ^ 31
  last : (provider.size.2 - 1) * (provider.pitch % 2 ^ 32) +
    provider.size.1 * provider.bytesPerPixel ≤ provider.data.length

/-- The last row fits exactly if all rows are inside the slice. -/
theorem inside_iff_lastRowFits {provider : PixelProvider}
    (columns : provider.size.1 ≠ 0) (rows : provider.size.2 ≠ 0) :
    Inside provider.data.length provider.size.2
        (provider.size.1 * provider.bytesPerPixel) provider.linesize.toInt ↔
      provider.LastRowFits := by
  have bytes : provider.bytesPerPixel ≠ 0 := by
    cases provider <;> simp [bytesPerPixel]
  rw [inside_iff rows (Nat.mul_ne_zero columns bytes)]
  rcases Nat.lt_or_ge (provider.pitch % 2 ^ 32) (2 ^ 31) with small | large
  · have nonneg := Int.natCast_nonneg (provider.pitch % 2 ^ 32)
    rw [linesize_of_lt small]
    constructor
    · rintro ⟨-, last⟩
      exact ⟨.inr small, by exact_mod_cast last⟩
    · rintro ⟨-, last⟩
      exact ⟨.inr nonneg, by exact_mod_cast last⟩
  · have negative := linesize_neg_of_le large
    have oneRow (one : provider.size.2 = 1) :
        ((provider.size.2 - 1 : Nat) : Int) * provider.linesize.toInt +
            (provider.size.1 * provider.bytesPerPixel : Nat) ≤
            provider.data.length ↔
          (provider.size.2 - 1) * (provider.pitch % 2 ^ 32) +
            provider.size.1 * provider.bytesPerPixel ≤
              provider.data.length := by
      rw [one]
      simp only [Nat.sub_self, Nat.cast_zero, zero_mul, zero_add]
      exact Nat.cast_le
    constructor
    · rintro ⟨forward, last⟩
      have one := forward.resolve_right (not_le.mpr negative)
      exact ⟨.inl one, (oneRow one).mp last⟩
    · rintro ⟨forward, last⟩
      have one := forward.resolve_right (Nat.not_lt.mpr large)
      exact ⟨.inl one, (oneRow one).mpr last⟩

/-- Frames whose rows do not overlap pass the check only if the last row fits,
as long as no number is cut off. -/
theorem lastRowFits_of_le_pitch {provider : PixelProvider}
    (wide : provider.size.1 * provider.bytesPerPixel ≤ provider.pitch)
    (small : provider.pitch < 2 ^ 31)
    (fits : provider.pitch * provider.size.2 < usizeRange)
    (large : provider.expected ≤ provider.data.length)
    (some : provider.size.2 ≠ 0) : provider.LastRowFits := by
  have whole : provider.pitch % 2 ^ 32 = provider.pitch :=
    Nat.mod_eq_of_lt (by omega)
  rw [expected_eq, Nat.mod_eq_of_lt fits, Nat.mul_comm] at large
  constructor
  · rw [whole]
    exact .inr small
  · rw [whole]
    calc (provider.size.2 - 1) * provider.pitch +
          provider.size.1 * provider.bytesPerPixel
        ≤ (provider.size.2 - 1) * provider.pitch + provider.pitch :=
          Nat.add_le_add_left wide _
      _ = provider.size.2 * provider.pitch := by
          rw [← Nat.succ_mul, Nat.succ_eq_add_one,
            Nat.sub_add_cancel (Nat.one_le_iff_ne_zero.mpr some)]
      _ ≤ provider.data.length := large

end PixelProvider

namespace Encode

/-- The context whose input frame `encode` points at the pixels. -/
def Scalers.input (scalers : Scalers) : PixelProvider → ScaleContext
  | .bgr0 _ _ _ | .bgr0s _ _ _ _ => scalers.bgr0
  | .rgb _ _ _ => scalers.rgb
  | .rgb0 _ _ _ => scalers.rgb0

@[simp]
theorem Scalers.input_setInput (scalers : Scalers) (provider : PixelProvider) :
    (scalers.setInput provider).input provider =
      ⟨provider.data, provider.linesize⟩ := by
  cases provider <;> rfl

namespace VideoEncoder

/-- The call warns and changes nothing, whatever FFmpeg would answer. -/
def Rejects (encoder : VideoEncoder) (provider : PixelProvider) : Prop :=
  ∃ warning, ∀ filter codec,
    encoder.encode provider filter codec = (encoder, some warning)

/-- What the filter graph of an encoder for `widthIn` by `heightIn` pixels
reads through the borrowed pointer lies within the slice. -/
def ReadsInside (encoder : VideoEncoder) (widthIn heightIn : Nat)
    (provider : PixelProvider) : Prop :=
  ∀ filter codec scalers,
    (encoder.encode provider filter codec).1.scalers = some scalers →
      Inside (scalers.input provider).data.length heightIn
        (widthIn * provider.bytesPerPixel)
        (scalers.input provider).linesize.toInt

/-- The filter graph gets no frame or one that it reads inside the slice. -/
def StaysInFrame (encoder : VideoEncoder) (widthIn heightIn : Nat)
    (provider : PixelProvider) : Prop :=
  encoder.Rejects provider ∨ encoder.ReadsInside widthIn heightIn provider

/-- There is no scaler, or the slice is too short for the check, or the frame
has no pixels, or its last row fits. -/
def NothingBeyond (encoder : VideoEncoder) (provider : PixelProvider) : Prop :=
  encoder.scalers = none ∨ provider.data.length < provider.expected ∨
    provider.size.1 = 0 ∨ provider.size.2 = 0 ∨ provider.LastRowFits

variable {encoder : VideoEncoder} {provider : PixelProvider}

/-- A frame that passes the check is in the scaler, also if FFmpeg fails. -/
theorem encode_scalers {scalers : Scalers}
    (hasScalers : encoder.scalers = some scalers)
    (large : provider.expected ≤ provider.data.length) (filter : FilterReply)
    (codec : CodecReply) :
    (encoder.encode provider filter codec).1.scalers =
      some (scalers.setInput provider) := by
  simp only [encode, hasScalers, if_neg (Nat.not_lt.mpr large)]
  cases filter.scale with
  | error error => rfl
  | ok frame =>
      simp only [encodeFrame]
      by_cases refused : codec.sendFrame < 0
      · rw [if_pos refused]
      · rw [if_neg refused]
        cases receivePackets codec.packets <;> rfl

/-- The call rejects a frame on its own exactly if there is no scaler or the
check fails. -/
theorem rejects_iff : encoder.Rejects provider ↔
    encoder.scalers = none ∨ provider.data.length < provider.expected := by
  constructor
  · rintro ⟨warning, rejects⟩
    by_contra passes
    obtain ⟨isScalers, large⟩ := not_or.mp passes
    obtain ⟨scalers, hasScalers⟩ := Option.ne_none_iff_exists'.mp isScalers
    -- FFmpeg can accept the frame and end without a warning
    have accepted := rejects ⟨0, []⟩ ⟨0, 0, []⟩
    simp [encode, hasScalers, large, FilterReply.scale, FilterReply.drain,
      encodeFrame, receivePackets] at accepted
  · rintro (none | small)
    · refine ⟨"Scalers not initialized", ?_⟩
      intro filter codec
      simp only [encode, none]
    · cases hasScalers : encoder.scalers with
      | none =>
          refine ⟨"Scalers not initialized", ?_⟩
          intro filter codec
          simp only [encode, hasScalers]
      | some scalers =>
          refine ⟨provider.tooSmall, ?_⟩
          intro filter codec
          simp only [encode, hasScalers, if_pos small]

theorem readsInside_iff {scalers : Scalers}
    (hasScalers : encoder.scalers = some scalers)
    (large : provider.expected ≤ provider.data.length)
    (widthIn heightIn : Nat) :
    encoder.ReadsInside widthIn heightIn provider ↔
      Inside provider.data.length heightIn (widthIn * provider.bytesPerPixel)
        provider.linesize.toInt := by
  have isInput := Scalers.input_setInput scalers provider
  constructor
  · intro reads
    have inside := reads ⟨0, []⟩ ⟨0, 0, []⟩ _
      (encode_scalers hasScalers large _ _)
    rwa [isInput] at inside
  · intro inside filter codec after isAfter
    rw [encode_scalers hasScalers large] at isAfter
    cases isAfter
    rw [isInput]
    exact inside

/-- Rows that do not overlap leave nothing beyond the slice. -/
theorem nothingBeyond_of_le_pitch (encoder : VideoEncoder)
    (wide : provider.size.1 * provider.bytesPerPixel ≤ provider.pitch)
    (small : provider.pitch < 2 ^ 31)
    (fits : provider.pitch * provider.size.2 < usizeRange) :
    encoder.NothingBeyond provider := by
  by_cases short : provider.data.length < provider.expected
  · exact .inr (.inl short)
  · by_cases rows : provider.size.2 = 0
    · exact .inr (.inr (.inr (.inl rows)))
    · exact .inr (.inr (.inr (.inr (PixelProvider.lastRowFits_of_le_pitch wide
        small fits (Nat.not_lt.mp short) rows))))

/-- Of a frame of the encoder's size, only bytes of the slice are read or none
at all, exactly if nothing of its last row is beyond the slice; so it is when
the rows do not overlap and no number is cut off. -/
theorem staysInFrame_iff_nothingBeyond {widthIn heightIn : Nat}
    (sized : provider.size = (widthIn, heightIn)) :
    (encoder.StaysInFrame widthIn heightIn provider ↔
        encoder.NothingBeyond provider) ∧
      (widthIn * provider.bytesPerPixel ≤ provider.pitch →
        provider.pitch < 2 ^ 31 → provider.pitch * heightIn < usizeRange →
          encoder.NothingBeyond provider) := by
  obtain ⟨rfl, rfl⟩ : provider.size.1 = widthIn ∧ provider.size.2 = heightIn :=
    Prod.ext_iff.mp sized
  refine ⟨?_, encoder.nothingBeyond_of_le_pitch⟩
  rw [StaysInFrame, NothingBeyond, rejects_iff, or_assoc]
  refine or_congr_right' fun isScalers => or_congr_right' fun notSmall => ?_
  obtain ⟨scalers, hasScalers⟩ := Option.ne_none_iff_exists'.mp isScalers
  rw [readsInside_iff hasScalers (Nat.not_lt.mp notSmall)]
  by_cases columns : provider.size.1 = 0
  · refine iff_of_true (inside_of_rowLength_eq_zero ?_) (.inl columns)
    rw [columns, Nat.zero_mul]
  · by_cases rows : provider.size.2 = 0
    · exact iff_of_true (inside_of_rows_eq_zero rows) (.inr (.inl rows))
    · rw [PixelProvider.inside_iff_lastRowFits columns rows]
      simp only [columns, rows, false_or]

/-- An encoder as `new` leaves it behind. -/
def idle : VideoEncoder :=
  .new ⟨⟨[], 0⟩, ⟨[], 0⟩, ⟨[], 0⟩⟩

/-- Two by two pixels whose rows overlap: the check asks for eight bytes, the
second row ends at the twelfth. -/
def overlappingRows : PixelProvider :=
  .bgr0s 2 2 4 [0, 0, 0, 0, 0, 0, 0, 0]

theorem staysInFrame_iff_nothingBeyond_overlappingRows :
    overlappingRows.size = (2, 2) ∧
      (idle.StaysInFrame 2 2 overlappingRows ↔
        idle.NothingBeyond overlappingRows) :=
  ⟨rfl, (staysInFrame_iff_nothingBeyond rfl).1⟩

theorem overlappingRows_not_staysInFrame :
    ¬ ∀ (encoder : VideoEncoder) (widthIn heightIn : Nat)
      (provider : PixelProvider), provider.size = (widthIn, heightIn) →
        encoder.StaysInFrame widthIn heightIn provider := by
  intro stays
  rcases stays idle 2 2 overlappingRows rfl with rejects | reads
  · rcases rejects_iff.mp rejects with none | small
    · cases none
    · exact absurd small (by decide)
  · have inside := (readsInside_iff rfl (by decide) 2 2).mp reads
    have last := (inside 1 (by decide) 7 (by decide)).2
    exact absurd last (by decide)

end VideoEncoder

end Encode

end Rylus
