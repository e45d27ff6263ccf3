import Rylus.VideoThreads

/-!
# The size of the video

`handle_video` scales a captured frame down to the limits of the client and of
the encoder, and `VideoEncoder::new` rounds the result down to even numbers.
The scale is the least of four ratios; each of them keeps one dimension below
one limit.
-/

namespace Rylus

/-- The width that `VideoEncoder::new` keeps. -/
def VideoEncoder.widthOut (encoder : VideoEncoder) : Nat :=
  encoder.size.widthOut - encoder.size.widthOut % 2

/-- The height that `VideoEncoder::new` keeps. -/
def VideoEncoder.heightOut (encoder : VideoEncoder) : Nat :=
  encoder.size.heightOut - encoder.size.heightOut % 2

/-- An output dimension is positive and below its input and both limits. -/
structure WithinLimits (out input clientLimit limit : Nat) : Prop where
  pos : 1 ≤ out
  le_input : out ≤ input
  le_clientLimit : out ≤ clientLimit
  le_limit : out ≤ limit

/-- A dimension the encoder runs with. -/
structure IsEncodable (dimension out : Nat) : Prop where
  two_le : 2 ≤ dimension
  even : dimension % 2 = 0
  le_out : dimension ≤ out

private theorem scaled_le {input limit : Nat} {scale : ℚ} (inputPos : 1 ≤ input)
    (limitPos : 1 ≤ limit) (below : scale ≤ limit / input) :
    max (F64.toUsize (F64.ofNat input * scale)) 1 ≤ limit := by
  have positive : (0 : ℚ) < input := by exact_mod_cast inputPos
  have product : (input : ℚ) * scale ≤ limit := by
    rw [le_div_iff₀ positive] at below
    linarith
  have floor : ⌊(input : ℚ) * scale⌋ ≤ (limit : Int) := by
    have floorLe := Int.floor_le_floor product
    rwa [Int.floor_natCast] at floorLe
  change max ⌊(input : ℚ) * scale⌋.toNat 1 ≤ limit
  omega

/-- A scale below one and below both ratios of a dimension. -/
theorem withinLimits_scaled {input clientLimit limit : Nat} {scale : ℚ}
    (inputPos : 1 ≤ input) (clientPos : 1 ≤ clientLimit) (limitPos : 1 ≤ limit)
    (small : scale < 1) (belowClient : scale ≤ clientLimit / input)
    (belowLimit : scale ≤ limit / input) :
    WithinLimits (max (F64.toUsize (F64.ofNat input * scale)) 1) input
      clientLimit limit where
  pos := Nat.le_max_right _ _
  le_input := by
    have positive : (0 : ℚ) < input := by exact_mod_cast inputPos
    apply scaled_le inputPos inputPos
    rw [div_self positive.ne']
    exact small.le
  le_clientLimit := scaled_le inputPos clientPos belowClient
  le_limit := scaled_le inputPos limitPos belowLimit

private theorem withinLimits_self {input clientLimit limit : Nat} {scale : ℚ}
    (inputPos : 1 ≤ input) (large : 1 ≤ scale)
    (belowClient : scale ≤ clientLimit / input)
    (belowLimit : scale ≤ limit / input) :
    WithinLimits input input clientLimit limit where
  pos := inputPos
  le_input := le_rfl
  le_clientLimit := by
    have positive : (0 : ℚ) < input := by exact_mod_cast inputPos
    have ratio := (le_div_iff₀ positive).mp (large.trans belowClient)
    rw [one_mul] at ratio
    exact_mod_cast ratio
  le_limit := by
    have positive : (0 : ℚ) < input := by exact_mod_cast inputPos
    have ratio := (le_div_iff₀ positive).mp (large.trans belowLimit)
    rw [one_mul] at ratio
    exact_mod_cast ratio

/-- Both dimensions of the output, for exact scales. -/
theorem outputSize_withinLimits {maxWidth maxHeight widthIn heightIn : Nat}
    (maxWidthPos : 1 ≤ maxWidth) (maxHeightPos : 1 ≤ maxHeight)
    (widthPos : 1 ≤ widthIn) (heightPos : 1 ≤ heightIn) :
    let size := outputSize ℚ maxWidth maxHeight widthIn heightIn
    WithinLimits size.widthOut widthIn maxWidth 3840 ∧
      WithinLimits size.heightOut heightIn maxHeight 2160 := by
  have widest : (3840.0 : ℚ) = (3840 : Nat) := by norm_num
  have highest : (2160.0 : ℚ) = (2160 : Nat) := by norm_num
  have one : (1.0 : ℚ) = 1 := by norm_num
  have chosen : ∃ scale : ℚ, scale ≤ maxWidth / widthIn ∧
      scale ≤ maxHeight / heightIn ∧ scale ≤ (3840 : Nat) / widthIn ∧
      scale ≤ (2160 : Nat) / heightIn ∧
      outputSize ℚ maxWidth maxHeight widthIn heightIn =
        if scale < 1 then
          ⟨widthIn, heightIn, max (F64.toUsize (F64.ofNat widthIn * scale)) 1,
            max (F64.toUsize (F64.ofNat heightIn * scale)) 1⟩
        else ⟨widthIn, heightIn, widthIn, heightIn⟩ := by
    refine ⟨min (min ((maxWidth : ℚ) / widthIn) (maxHeight / heightIn))
      (min ((3840 : Nat) / widthIn) ((2160 : Nat) / heightIn)), ?_, ?_, ?_, ?_,
      ?_⟩
    · exact (min_le_left _ _).trans (min_le_left _ _)
    · exact (min_le_left _ _).trans (min_le_right _ _)
    · exact (min_le_right _ _).trans (min_le_left _ _)
    · exact (min_le_right _ _).trans (min_le_right _ _)
    · rw [← widest, ← highest, ← one]
      rfl
  obtain ⟨scale, clientWidth, clientHeight, width, height, isSize⟩ := chosen
  intro size
  have isSize : size = _ := isSize
  by_cases small : scale < 1
  · rw [isSize, if_pos small]
    exact ⟨withinLimits_scaled widthPos maxWidthPos (by decide) small
        clientWidth width,
      withinLimits_scaled heightPos maxHeightPos (by decide) small
        clientHeight height⟩
  · rw [isSize, if_neg small]
    have large := not_lt.mp small
    exact ⟨withinLimits_self widthPos large clientWidth width,
      withinLimits_self heightPos large clientHeight height⟩

private theorem isEncodable_of_gt {out : Nat} (accepted : 1 < out - out % 2) :
    IsEncodable (out - out % 2) out where
  two_le := accepted
  even := by omega
  le_out := Nat.sub_le _ _

theorem isEncodable_of_new {size : EncoderSize} {opened : Bool}
    {encoder : VideoEncoder}
    (accepts : VideoEncoder.new size opened = some encoder) :
    IsEncodable encoder.widthOut size.widthOut ∧
      IsEncodable encoder.heightOut size.heightOut := by
  rw [VideoEncoder.new] at accepts
  split at accepts
  next canOpen =>
    cases accepts
    simp only [VideoEncoder.canOpen, Bool.and_eq_true, decide_eq_true_eq]
      at canOpen
    obtain ⟨⟨width, height⟩, -⟩ := canOpen
    exact ⟨isEncodable_of_gt width, isEncodable_of_gt height⟩
  next => cases accepts

/-- The output size respects every limit, and an encoder either rejects it or
runs with even dimensions below it. -/
theorem outputSize_respectsLimits (maxWidth maxHeight widthIn heightIn : Nat)
    (maxWidthPos : 1 ≤ maxWidth) (maxHeightPos : 1 ≤ maxHeight)
    (widthPos : 1 ≤ widthIn) (heightPos : 1 ≤ heightIn) :
    let size := outputSize ℚ maxWidth maxHeight widthIn heightIn
    (WithinLimits size.widthOut widthIn maxWidth 3840 ∧
      WithinLimits size.heightOut heightIn maxHeight 2160) ∧
    ∀ opened encoder, VideoEncoder.new size opened = some encoder →
      IsEncodable encoder.widthOut size.widthOut ∧
        IsEncodable encoder.heightOut size.heightOut := by
  intro size
  constructor
  · exact outputSize_withinLimits maxWidthPos maxHeightPos widthPos heightPos
  · intro opened encoder accepts
    exact isEncodable_of_new accepts

/-- A frame of one line of a hundred thousand pixels. -/
theorem outputSize_respectsLimits_line :
    let size := outputSize ℚ 1920 1080 100000 1
    (WithinLimits size.widthOut 100000 1920 3840 ∧
      WithinLimits size.heightOut 1 1080 2160) ∧
    ∀ opened encoder, VideoEncoder.new size opened = some encoder →
      IsEncodable encoder.widthOut size.widthOut ∧
        IsEncodable encoder.heightOut size.heightOut :=
  outputSize_respectsLimits 1920 1080 100000 1 (by decide) (by decide)
    (by decide) (by decide)

end Rylus
