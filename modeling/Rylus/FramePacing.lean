import Rylus.ExactDouble
import Rylus.VideoThreads

/-!
# When the next frame is due

The frame rate that a client asks for becomes a frame duration, and every
round of `handle_video` computes from it the next multiple of the duration
after the last frame.  The rate is any double.
-/

namespace Rylus

open ExactDouble

/-- Doubles with exact finite values; `as usize` saturates, and
`Duration::from_secs_f64` rounds to the nearest nanosecond. -/
instance : F64 ExactDouble where
  decidableLt := inferInstance
  ofNat value := ofRat value
  toUsize
    | .finite value => min ⌊value⌋.toNat (2 ^ 64 - 1)
    | .infinite negative => if negative then 0 else 2 ^ 64 - 1
    | .nan => 0
  isFinite := ExactDouble.isFinite
  fromSecs
    | .finite secs =>
        if 0 ≤ secs ∧ secs < 2 ^ 64 then
          some (roundHalfEven (secs * 10 ^ 9)).toNat
        else none
    | .infinite _ | .nan => none
  asSecs nanos := ofRat (nanos / 10 ^ 9)

/-- `u32::MAX`. -/
def u32Max : Nat := 2 ^ 32 - 1

/-- The first number of nanoseconds beyond every `Duration`. -/
def durationEnd : Nat := fromSecs (2 ^ 64)

/-- The first number of nanoseconds beyond every `Instant`, whose seconds are
an `i64`. -/
def instantEnd : Nat := fromSecs (2 ^ 63)

/-- The quotient of two durations `as u32`: a quotient by zero is infinite or,
of zero itself, no number. -/
def framesPassed (elapsed frameDuration : Nat) : Nat :=
  if frameDuration = 0 then
    if elapsed = 0 then 0 else u32Max
  else
    min (elapsed / frameDuration) u32Max

/-- `last_frame + (frames_passed + 1) * frame_duration`; `none` when one of
the three operations overflows. -/
def nextFrame (lastFrame now frameDuration : Nat) : Option Nat :=
  let elapsed := now - lastFrame
  let framesPassed := framesPassed elapsed frameDuration
  if u32Max < framesPassed + 1 then none
  else
    let product := (framesPassed + 1) * frameDuration
    if durationEnd ≤ product then none
    else if instantEnd ≤ lastFrame + product then none
    else some (lastFrame + product)

/-- The frame rate gives a duration that is not zero, and with it the next
frame is due after now and at most one duration later. -/
def PacesSafely (frameRate : ExactDouble) (lastFrame now : Nat) : Prop :=
  ∃ frameDuration due, frameDurationOf frameRate = some frameDuration ∧
    frameDuration ≠ 0 ∧
    nextFrame lastFrame now frameDuration = some due ∧
    now < due ∧ due ≤ now + frameDuration

/-! ## Which rates and gaps are safe -/

/-- A positive rate of which one over it is a finite double. -/
def IsRate (frameRate : ExactDouble) (rate : ℚ) : Prop :=
  frameRate = .finite rate ∧ 0 < rate ∧ 1 / rate < overflow

instance (frameRate : ExactDouble) (rate : ℚ) :
    Decidable (IsRate frameRate rate) :=
  inferInstanceAs (Decidable (_ ∧ _ ∧ _))

/-- The time between frames in nanoseconds: that of the rate, at most
`effectiveInfinity`, which any other rate stands for. -/
def framePeriod : ExactDouble → Nat
  | .finite rate =>
      if IsRate (.finite rate) rate then
        min (roundHalfEven (1 / rate * 10 ^ 9)).toNat effectiveInfinity
      else effectiveInfinity
  | .infinite _ | .nan => effectiveInfinity

/-- A rate of more than one frame in `2 ^ 64` seconds and fewer than two in a
nanosecond; fewer than `u32Max` periods since the last frame; and an `Instant`
for the next one. -/
def Paceable (frameRate : ExactDouble) (lastFrame elapsed : Nat) : Prop :=
  (∀ rate, IsRate frameRate rate → 1 / 2 ^ 64 < rate ∧ rate < 2 * 10 ^ 9) ∧
    elapsed / framePeriod frameRate < u32Max ∧
    lastFrame + (elapsed / framePeriod frameRate + 1) *
      framePeriod frameRate < instantEnd

theorem effectiveInfinity_pos : 0 < effectiveInfinity := by
  decide

/-- The duration for a rate, unless the conversion panics. -/
theorem frameDurationOf_of_isRate {frameRate : ExactDouble} {rate : ℚ}
    (isRate : IsRate frameRate rate) :
    frameDurationOf frameRate =
      if 1 / 2 ^ 64 < rate then some (framePeriod frameRate) else none := by
  obtain ⟨rfl, positive, fits⟩ := isRate
  have reciprocalPos : 0 < 1 / rate := one_div_pos.mpr positive
  have isReciprocal : (1.0 : ExactDouble) / .finite rate =
      .finite (1 / rate) := by
    rw [ofScientific_one, one_div_finite positive.ne', ofRat, if_pos]
    rwa [abs_of_pos reciprocalPos]
  have valid : F64.isFinite ((1.0 : ExactDouble) / .finite rate) ∧
      (0.0 : ExactDouble) < 1.0 / .finite rate := by
    rw [isReciprocal, ofScientific_zero]
    exact ⟨rfl, zero_lt_finite_iff.mpr reciprocalPos⟩
  have slow : 1 / 2 ^ 64 < rate ↔ 1 / rate < 2 ^ 64 :=
    one_div_lt (by positivity) positive
  have period : framePeriod (.finite rate) =
      min (roundHalfEven (1 / rate * 10 ^ 9)).toNat effectiveInfinity := by
    rw [framePeriod, if_pos ⟨rfl, positive, fits⟩]
  rw [frameDurationOf, if_pos valid, isReciprocal, period]
  change Option.map _ (if 0 ≤ 1 / rate ∧ 1 / rate < 2 ^ 64 then _ else _) = _
  by_cases short : 1 / rate < 2 ^ 64
  · rw [if_pos ⟨reciprocalPos.le, short⟩, if_pos (slow.mpr short)]
    rfl
  · rw [if_neg fun valid => short valid.2, if_neg fun isSlow =>
      short (slow.mp isSlow)]
    rfl

theorem framePeriod_of_not_isRate {frameRate : ExactDouble}
    (noRate : ∀ rate, ¬ IsRate frameRate rate) :
    framePeriod frameRate = effectiveInfinity := by
  cases frameRate with
  | finite rate => rw [framePeriod, if_neg (noRate rate)]
  | infinite negative => rfl
  | nan => rfl

/-- Every other rate stands for `effectiveInfinity`. -/
theorem frameDurationOf_of_not_isRate {frameRate : ExactDouble}
    (noRate : ∀ rate, ¬ IsRate frameRate rate) :
    frameDurationOf frameRate = some (framePeriod frameRate) := by
  have period := framePeriod_of_not_isRate noRate
  have invalid : ¬ (F64.isFinite ((1.0 : ExactDouble) / frameRate) ∧
      (0.0 : ExactDouble) < 1.0 / frameRate) := by
    rw [ofScientific_one, ofScientific_zero]
    rintro ⟨isFinite, positive⟩
    cases frameRate with
    | nan => cases isFinite
    | infinite negative =>
        exact lt_irrefl _ (zero_lt_finite_iff.mp positive)
    | finite rate =>
        by_cases zero : rate = 0
        · subst zero
          cases isFinite
        · rw [one_div_finite zero, ofRat] at isFinite positive
          split at isFinite
          next fits =>
            rw [if_pos fits, zero_lt_finite_iff] at positive
            rw [abs_of_pos positive] at fits
            exact noRate rate ⟨rfl, one_div_pos.mp positive, fits⟩
          next => cases isFinite
  rw [frameDurationOf, if_neg invalid, period]

/-- Only rates from two frames in a nanosecond on leave no time between
frames. -/
theorem framePeriod_pos_iff (frameRate : ExactDouble) :
    0 < framePeriod frameRate ↔
      ∀ rate, IsRate frameRate rate → rate < 2 * 10 ^ 9 := by
  have infinity := effectiveInfinity_pos
  by_cases found : ∃ rate, IsRate frameRate rate
  · obtain ⟨rate, rfl, positive, fits⟩ := found
    have nanos : 0 ≤ 1 / rate * 10 ^ 9 := by positivity
    have isFast : 1 / 2 < 1 / rate * 10 ^ 9 ↔ rate < 2 * 10 ^ 9 := by
      rw [one_div_mul_eq_div, lt_div_iff₀ positive]
      constructor
      · intro slow
        linarith
      · intro slow
        linarith
    have only : (∀ other, IsRate (.finite rate) other → other < 2 * 10 ^ 9) ↔
        rate < 2 * 10 ^ 9 := by
      constructor
      · intro slow
        exact slow rate ⟨rfl, positive, fits⟩
      · rintro slow other ⟨same, -⟩
        cases same
        exact slow
    rw [framePeriod, if_pos ⟨rfl, positive, fits⟩, only, ← isFast,
      ← roundHalfEven_pos_iff nanos]
    omega
  · have noRate := not_exists.mp found
    rw [framePeriod_of_not_isRate noRate]
    constructor
    · intro _ rate isRate
      exact absurd isRate (noRate rate)
    · intro _
      exact infinity

/-- The pacing step for a duration that is not zero. -/
theorem nextFrame_iff {lastFrame elapsed frameDuration : Nat}
    (positive : 0 < frameDuration) :
    (∃ due, nextFrame lastFrame (lastFrame + elapsed) frameDuration =
        some due ∧ lastFrame + elapsed < due ∧
          due ≤ lastFrame + elapsed + frameDuration) ↔
      elapsed / frameDuration < u32Max ∧
        lastFrame + (elapsed / frameDuration + 1) * frameDuration <
          instantEnd := by
  have shorter : instantEnd < durationEnd := by decide
  have isElapsed : lastFrame + elapsed - lastFrame = elapsed :=
    Nat.add_sub_cancel_left _ _
  have quotient := Nat.div_add_mod elapsed frameDuration
  have rest := Nat.mod_lt elapsed positive
  have product : (elapsed / frameDuration + 1) * frameDuration =
      frameDuration * (elapsed / frameDuration) + frameDuration := by ring
  rw [nextFrame, isElapsed, framesPassed, if_neg positive.ne']
  dsimp only
  by_cases few : elapsed / frameDuration < u32Max
  · rw [Nat.min_eq_left few.le, if_neg (by omega), product]
    constructor
    · rintro ⟨due, isDue, -, -⟩
      split at isDue
      next => cases isDue
      next =>
        split at isDue
        next => cases isDue
        next fits => exact ⟨few, Nat.not_le.mp fits⟩
    · rintro ⟨-, fits⟩
      rw [if_neg (by omega), if_neg (by omega)]
      exact ⟨_, rfl, by omega, by omega⟩
  · rw [Nat.min_eq_right (Nat.not_lt.mp few), if_pos (Nat.lt_succ_self _)]
    constructor
    · rintro ⟨due, isDue, -⟩
      cases isDue
    · exact fun safe => absurd safe.1 few

/-- The conversion does not panic unless the rate is too slow. -/
theorem frameDurationOf_eq_some_iff (frameRate : ExactDouble)
    (frameDuration : Nat) :
    frameDurationOf frameRate = some frameDuration ↔
      frameDuration = framePeriod frameRate ∧
        ∀ rate, IsRate frameRate rate → 1 / 2 ^ 64 < rate := by
  by_cases found : ∃ rate, IsRate frameRate rate
  · obtain ⟨rate, isRate⟩ := found
    have only : (∀ other, IsRate frameRate other → 1 / 2 ^ 64 < other) ↔
        1 / 2 ^ 64 < rate := by
      constructor
      · intro notSlow
        exact notSlow rate isRate
      · rintro notSlow other ⟨same, -⟩
        cases isRate.1.symm.trans same
        exact notSlow
    rw [frameDurationOf_of_isRate isRate, only]
    split
    next notSlow =>
      rw [Option.some.injEq]
      exact ⟨fun same => ⟨same.symm, notSlow⟩, fun same => same.1.symm⟩
    next slow =>
      constructor
      · intro isDuration
        cases isDuration
      · intro isPeriod
        exact absurd isPeriod.2 slow
  · have noRate := not_exists.mp found
    rw [frameDurationOf_of_not_isRate noRate, Option.some.injEq]
    constructor
    · intro same
      exact ⟨same.symm, fun rate isRate => absurd isRate (noRate rate)⟩
    · intro same
      exact same.1.symm

theorem paceable_of_pacesSafely {frameRate : ExactDouble}
    {lastFrame elapsed : Nat}
    (safe : PacesSafely frameRate lastFrame (lastFrame + elapsed)) :
    Paceable frameRate lastFrame elapsed := by
  obtain ⟨frameDuration, due, isDuration, nonzero, isDue, bounds⟩ := safe
  obtain ⟨rfl, notSlow⟩ :=
    (frameDurationOf_eq_some_iff frameRate frameDuration).mp isDuration
  have positive := Nat.pos_of_ne_zero nonzero
  have notFast := (framePeriod_pos_iff frameRate).mp positive
  exact ⟨fun rate isRate => ⟨notSlow rate isRate, notFast rate isRate⟩,
    (nextFrame_iff positive).mp ⟨due, isDue, bounds⟩⟩

/-- For every frame rate and every time since the last frame, the pacing step
is safe exactly if the rate and the gap are. -/
theorem pacesSafely_iff_paceable (frameRate : ExactDouble)
    (lastFrame elapsed : Nat) :
    PacesSafely frameRate lastFrame (lastFrame + elapsed) ↔
      Paceable frameRate lastFrame elapsed := by
  constructor
  · exact paceable_of_pacesSafely
  · rintro ⟨rates, gap⟩
    have positive := (framePeriod_pos_iff frameRate).mpr
      fun rate isRate => (rates rate isRate).2
    have isDuration := (frameDurationOf_eq_some_iff frameRate _).mpr
      ⟨rfl, fun rate isRate => (rates rate isRate).1⟩
    obtain ⟨due, isDue, bounds⟩ := (nextFrame_iff positive).mpr gap
    exact ⟨framePeriod frameRate, due, isDuration, positive.ne', isDue, bounds⟩

/-- Four frames in a nanosecond leave no time between frames. -/
theorem fourFrames_not_pacesSafely :
    ¬ ∀ (frameRate : ExactDouble) (lastFrame elapsed : Nat),
      PacesSafely frameRate lastFrame (lastFrame + elapsed) := by
  intro safe
  obtain ⟨rates, -⟩ :=
    paceable_of_pacesSafely (safe (.finite (4 * 10 ^ 9)) 0 1)
  have isRate : IsRate (.finite (4 * 10 ^ 9)) (4 * 10 ^ 9) := by
    refine ⟨rfl, by norm_num, lt_trans ?_ one_lt_overflow⟩
    norm_num
  have slow := (rates _ isRate).2
  norm_num at slow

end Rylus
