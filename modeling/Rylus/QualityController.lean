import Mathlib.Data.Rat.Floor

/-!
# The adaptive quality controller

`QualityController` picks the quantisation parameter from the client's buffer
health, its round-trip time and the local encode time.  Floating-point
arithmetic is a parameter: `F64` lists the operations the code uses, without
any law, and rationals stand in where an example has to be computed.
-/

namespace Rylus

/-- The operations on `f64` that the video threads use. -/
class F64 (F : Type*) extends
    Add F, Sub F, Mul F, Div F, Max F, Min F, LT F, OfScientific F where
  decidableLt : DecidableLT F
  /-- `as f64` of an unsigned integer. -/
  ofNat : Nat → F
  /-- `as usize`, truncating and saturating. -/
  toUsize : F → Nat
  isFinite : F → Bool
  /-- `Duration::from_secs_f64` in nanoseconds; `none` when it panics. -/
  fromSecs : F → Option Nat
  /-- `Duration::as_secs_f64` of nanoseconds. -/
  asSecs : Nat → F

instance F64.decidableLT {F : Type*} [F64 F] : DecidableLT F :=
  F64.decidableLt

/-- Exact arithmetic. -/
instance : F64 ℚ where
  decidableLt := inferInstance
  ofNat value := value
  toUsize value := ⌊value⌋.toNat
  isFinite _ := true
  fromSecs secs :=
    if 0 ≤ secs ∧ secs < 2 ^ 64 then some ⌊secs * 10 ^ 9⌋.toNat else none
  asSecs nanos := nanos / 10 ^ 9

def qpMin : Nat := 18

def qpMax : Nat := 45

/-- Default QP used on startup and after encoder restart. -/
def qpDefault : Nat := 23

structure QualityController (F : Type*) where
  currentQp : Nat
  encodeTimeAvg : F
  bufferHealthSecs : Option F
  rttMsAvg : Option F

namespace QualityController

variable {F : Type*} [F64 F]

def new : QualityController F where
  currentQp := qpDefault
  encodeTimeAvg := 0.0
  bufferHealthSecs := none
  rttMsAvg := none

def reset (_ : QualityController F) : QualityController F := new

/-- Update the buffer health signal from the client. -/
def setBufferHealth (quality : QualityController F) (secs : F) :
    QualityController F :=
  { quality with bufferHealthSecs := some secs }

/-- Record a round-trip time measured by the client. -/
def setRttMs (quality : QualityController F) (rttMs : Nat) :
    QualityController F :=
  let sample := F64.ofNat rttMs
  { quality with
    rttMsAvg := some
      (match quality.rttMsAvg with
        | some avg => 0.3 * sample + 0.7 * avg
        | none => sample) }

/-- Update the local encode time, an exponential moving average. -/
def recordEncodeTime (quality : QualityController F) (elapsedSecs : F) :
    QualityController F :=
  { quality with
    encodeTimeAvg := 0.3 * elapsedSecs + 0.7 * quality.encodeTimeAvg }

/-- How far a high round-trip time tightens the thresholds. -/
def rttTightening (quality : QualityController F) : F :=
  match quality.rttMsAvg with
  | some avg =>
      if 150.0 < avg then 1.0
      else if 80.0 < avg then 0.5
      else 0.0
  | none => 0.0

/-- The buffer health signal. -/
def bufferDelta (quality : QualityController F) : Option Int :=
  let warnThreshold := max (2.0 - quality.rttTightening) 0.5
  let severeThreshold :=
    max (3.0 - quality.rttTightening) (warnThreshold + 0.5)
  quality.bufferHealthSecs.map fun health =>
    if severeThreshold < health then 2
    else if warnThreshold < health then 1
    else if health < 0.5 ∧ qpMin < quality.currentQp then -1
    else 0

/-- The local pipeline signal. -/
def pipelineDelta (quality : QualityController F) (frameBudgetSecs : F) :
    Option Int :=
  if 0.0 < frameBudgetSecs ∧ frameBudgetSecs < 1.0 then
    let ratio := quality.encodeTimeAvg / frameBudgetSecs
    if 0.8 < ratio ∧ quality.currentQp < qpMax then some 1
    else if ratio < 0.4 ∧ qpMin < quality.currentQp then some (-1)
    else some 0
  else
    none

/-- Buffer health wins when it has an opinion. -/
def combine : Option Int → Option Int → Int
  | some buffer, some pipeline => if buffer ≠ 0 then buffer else pipeline
  | some buffer, none => buffer
  | none, some pipeline => pipeline
  | none, none => 0

/-- The new QP, if it changes, and the controller left behind. -/
def decide (quality : QualityController F) (frameBudgetSecs : F) :
    Option Nat × QualityController F :=
  let delta :=
    combine quality.bufferDelta (quality.pipelineDelta frameBudgetSecs)
  -- the buffer signal is consumed
  let quality := { quality with bufferHealthSecs := none }
  if delta = 0 then
    (none, quality)
  else
    let newQp :=
      (max (qpMin : Int) (min ((quality.currentQp : Int) + delta) qpMax)).toNat
    if newQp ≠ quality.currentQp then
      (some newQp, { quality with currentQp := newQp })
    else
      (none, quality)

theorem decide_spec (quality : QualityController F) (frameBudgetSecs : F) :
    match quality.decide frameBudgetSecs with
    | (some newQp, next) => next.currentQp = newQp ∧ newQp ≤ qpMax
    | (none, next) => next.currentQp = quality.currentQp := by
  unfold decide
  generalize combine _ _ = delta
  by_cases still : delta = 0
  · simp [still]
  · simp only [still, if_false]
    split
    · rename_i newQp next chosen
      split at chosen
      · cases chosen
        refine ⟨rfl, ?_⟩
        have bounded : max (qpMin : Int)
            (min ((quality.currentQp : Int) + delta) qpMax) ≤ qpMax := by
          have order : (qpMin : Int) ≤ qpMax := by decide
          omega
        omega
      · cases chosen
    · rename_i next chosen
      split at chosen
      · cases chosen
      · cases chosen
        rfl

end QualityController

end Rylus
