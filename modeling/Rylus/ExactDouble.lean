import Mathlib.Data.Rat.Floor
import Mathlib.Algebra.Order.Round
import Mathlib.Tactic.Linarith
import Mathlib.Tactic.NormNum

/-!
# Double-precision numbers with exact finite values

Results that a double cannot hold overflow to infinity as in IEEE 754; other
results are not rounded.  The sign of zero is left out.
-/

/-- A double, whose finite value is exact. -/
inductive ExactDouble where
  | finite (value : ℚ)
  | infinite (negative : Bool)
  | nan
  deriving DecidableEq

namespace ExactDouble

/-- From here on the nearest double is infinite: half a unit in the last place
above the largest finite one. -/
def overflow : ℚ := 2 ^ 1024 - 2 ^ 970

def ofRat (value : ℚ) : ExactDouble :=
  if |value| < overflow then .finite value else .infinite (value < 0)

def isFinite : ExactDouble → Bool
  | finite _ => true
  | infinite _ | nan => false

def neg : ExactDouble → ExactDouble
  | finite value => .finite (-value)
  | infinite negative => .infinite !negative
  | nan => .nan

instance : Add ExactDouble where
  add
    | finite first, finite second => ofRat (first + second)
    | infinite first, infinite second =>
        if first = second then .infinite first else .nan
    | infinite first, finite _ => .infinite first
    | finite _, infinite second => .infinite second
    | nan, _ | _, nan => .nan

instance : Sub ExactDouble where
  sub first second := first + second.neg

instance : Mul ExactDouble where
  mul
    | finite first, finite second => ofRat (first * second)
    | infinite first, infinite second => .infinite (first != second)
    | infinite first, finite second =>
        if second = 0 then .nan else .infinite (first != decide (second < 0))
    | finite first, infinite second =>
        if first = 0 then .nan else .infinite (decide (first < 0) != second)
    | nan, _ | _, nan => .nan

instance : Div ExactDouble where
  div
    | finite first, finite second =>
        if second = 0 then
          if first = 0 then .nan else .infinite (first < 0)
        else ofRat (first / second)
    | infinite first, finite second =>
        .infinite (first != decide (second < 0))
    | finite _, infinite _ => .finite 0
    | infinite _, infinite _ => .nan
    | nan, _ | _, nan => .nan

/-- `nan` is not comparable with any number. -/
def lt : ExactDouble → ExactDouble → Bool
  | finite first, finite second => first < second
  | finite _, infinite negative => !negative
  | infinite negative, finite _ => negative
  | infinite first, infinite second => first && !second
  | nan, _ | _, nan => false

instance : LT ExactDouble where
  lt first second := first.lt second = true

instance : DecidableLT ExactDouble := fun first second =>
  inferInstanceAs (Decidable (first.lt second = true))

/-- Of a number and `nan` the maximum and the minimum are the number. -/
instance : Max ExactDouble where
  max
    | nan, second => second
    | first, nan => first
    | first, second => if first < second then second else first

instance : Min ExactDouble where
  min
    | nan, second => second
    | first, nan => first
    | first, second => if second < first then second else first

instance : OfScientific ExactDouble where
  ofScientific mantissa exponentSign exponent :=
    ofRat (OfScientific.ofScientific mantissa exponentSign exponent)

/-- The nearest integer, the even one of two. -/
def roundHalfEven (value : ℚ) : Int :=
  let rest := Int.fract value
  if rest < 1 / 2 then ⌊value⌋
  else if 1 / 2 < rest then ⌊value⌋ + 1
  else if ⌊value⌋ % 2 = 0 then ⌊value⌋
  else ⌊value⌋ + 1

/-- Only numbers up to one half round to zero. -/
theorem roundHalfEven_pos_iff {value : ℚ} (nonneg : 0 ≤ value) :
    0 < roundHalfEven value ↔ 1 / 2 < value := by
  have floorNonneg : 0 ≤ ⌊value⌋ := Int.floor_nonneg.mpr nonneg
  have split : (⌊value⌋ : ℚ) + Int.fract value = value :=
    Int.floor_add_fract value
  have small := Int.fract_lt_one value
  have restNonneg := Int.fract_nonneg value
  rcases floorNonneg.eq_or_lt with zero | positive
  · have whole : Int.fract value = value := by
      rw [← zero, Int.cast_zero, zero_add] at split
      exact split
    rw [roundHalfEven, ← zero, whole]
    constructor
    · intro positive
      by_contra half
      rcases lt_or_eq_of_le (not_lt.mp half) with less | equal
      · rw [if_pos less] at positive
        exact lt_irrefl _ positive
      · rw [equal, if_neg (lt_irrefl _), if_neg (lt_irrefl _)] at positive
        rw [if_pos (by decide : (0 : Int) % 2 = 0)] at positive
        exact lt_irrefl _ positive
    · intro half
      rw [if_neg (not_lt.mpr half.le), if_pos half]
      norm_num
  · have large : (1 : ℚ) ≤ ⌊value⌋ := by exact_mod_cast positive
    constructor
    · intro _
      linarith
    · intro _
      rw [roundHalfEven]
      split
      · exact positive
      · split
        · omega
        · split
          · exact positive
          · omega

/-- One over a double. -/
theorem one_div_finite {value : ℚ} (nonzero : value ≠ 0) :
    (finite 1 : ExactDouble) / finite value = ofRat (1 / value) := by
  change (if value = 0 then _ else ofRat (1 / value)) = _
  rw [if_neg nonzero]

theorem one_lt_overflow : (1 : ℚ) < overflow := by
  have unit : (1 : ℚ) ≤ 2 ^ 970 := one_le_pow₀ (by norm_num)
  have split : (2 : ℚ) ^ 1024 = 2 ^ 970 * 2 ^ 54 := by rw [← pow_add]
  have large : (3 : ℚ) ≤ 2 ^ 54 := by norm_num
  have product : (2 : ℚ) ^ 970 * 3 ≤ 2 ^ 970 * 2 ^ 54 :=
    mul_le_mul_of_nonneg_left large (zero_le_one.trans unit)
  rw [overflow, split]
  generalize (2 : ℚ) ^ 970 * 2 ^ 54 = largest at product ⊢
  generalize (2 : ℚ) ^ 970 = half at unit product ⊢
  linarith

theorem ofScientific_one : (1.0 : ExactDouble) = finite 1 := by
  change ofRat (1.0 : ℚ) = _
  have one : (1.0 : ℚ) = 1 := by norm_num
  rw [one, ofRat, if_pos]
  rw [abs_one]
  exact one_lt_overflow

theorem ofScientific_zero : (0.0 : ExactDouble) = finite 0 := by
  change ofRat (0.0 : ℚ) = _
  have zero : (0.0 : ℚ) = 0 := by norm_num
  rw [zero, ofRat, if_pos]
  rw [abs_zero]
  exact zero_lt_one.trans one_lt_overflow

theorem zero_lt_finite_iff {value : ℚ} :
    (finite 0 : ExactDouble) < finite value ↔ 0 < value := by
  change decide (0 < value) = true ↔ _
  exact decide_eq_true_iff

end ExactDouble
