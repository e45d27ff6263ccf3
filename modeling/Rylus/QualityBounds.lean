import Mathlib.Data.List.Induction
import Mathlib.Data.Rat.Floor
import Mathlib.Tactic.Linarith
import Rylus.QualityController

/-!
# The quality controller is bounded and monotone

A decision moves the QP by the combined delta and clamps it.  The delta grows
with each of the three signals: the buffer thresholds only fall with the
round-trip time, the buffer has an opinion below its thresholds only when it
is nearly empty, and the pipeline never asks for more than the mildest opinion
of the buffer.
-/

namespace Rylus

namespace QualityController

/-- A call of one of the methods. -/
inductive Call where
  | setBufferHealth (secs : ℚ)
  | setRttMs (rttMs : Nat)
  | recordEncodeTime (elapsedSecs : ℚ)
  | reset
  | decide (frameBudgetSecs : ℚ)

/-- The controller a call leaves behind. -/
def call (quality : QualityController ℚ) : Call → QualityController ℚ
  | .setBufferHealth secs => quality.setBufferHealth secs
  | .setRttMs rttMs => quality.setRttMs rttMs
  | .recordEncodeTime elapsedSecs => quality.recordEncodeTime elapsedSecs
  | .reset => quality.reset
  | .decide frameBudgetSecs => (quality.decide frameBudgetSecs).2

/-- The controller after calls on a new one. -/
def after (calls : List Call) : QualityController ℚ :=
  calls.foldl call new

/-- The QP is one the controller may choose. -/
def InRange (quality : QualityController ℚ) : Prop :=
  qpMin ≤ quality.currentQp ∧ quality.currentQp ≤ qpMax

/-- A decision stays in range, changes the QP by two at most, and answers with
the new QP exactly if it changes. -/
structure DecidesWell (quality : QualityController ℚ) (frameBudgetSecs : ℚ) :
    Prop where
  inRange : (quality.decide frameBudgetSecs).2.InRange
  raises : (quality.decide frameBudgetSecs).2.currentQp ≤
    quality.currentQp + 2
  lowers : quality.currentQp ≤
    (quality.decide frameBudgetSecs).2.currentQp + 2
  answers : ∀ newQp, (quality.decide frameBudgetSecs).1 = some newQp ↔
    (quality.decide frameBudgetSecs).2.currentQp ≠ quality.currentQp ∧
      (quality.decide frameBudgetSecs).2.currentQp = newQp

/-- Two controllers that differ only in one signal, which is as large or
larger in the second. -/
inductive Louder : QualityController ℚ → QualityController ℚ → Prop
  | buffer (quality : QualityController ℚ) {less more : ℚ}
      (order : less ≤ more) :
      Louder { quality with bufferHealthSecs := some less }
        { quality with bufferHealthSecs := some more }
  | rtt (quality : QualityController ℚ) {less more : ℚ}
      (order : less ≤ more) :
      Louder { quality with rttMsAvg := some less }
        { quality with rttMsAvg := some more }
  | encodeTime (quality : QualityController ℚ) {less more : ℚ}
      (order : less ≤ more) :
      Louder { quality with encodeTimeAvg := less }
        { quality with encodeTimeAvg := more }

/-! ### The new QP -/

/-- The QP moved by `delta` and clamped. -/
def moved (currentQp : Nat) (delta : Int) : Nat :=
  (max (qpMin : Int) (min ((currentQp : Int) + delta) qpMax)).toNat

/-- The combined delta of a decision. -/
def deltaOf (quality : QualityController ℚ) (frameBudgetSecs : ℚ) : Int :=
  combine quality.bufferDelta (quality.pipelineDelta frameBudgetSecs)

theorem moved_zero {quality : QualityController ℚ} (inRange : quality.InRange) :
    moved quality.currentQp 0 = quality.currentQp := by
  obtain ⟨least, most⟩ := inRange
  rw [moved]
  omega

theorem moved_mono {currentQp : Nat} {less more : Int} (order : less ≤ more) :
    moved currentQp less ≤ moved currentQp more := by
  rw [moved, moved]
  omega

/-- A decision is determined by the combined delta. -/
theorem decide_eq {quality : QualityController ℚ} (inRange : quality.InRange)
    (frameBudgetSecs : ℚ) :
    let newQp := moved quality.currentQp (quality.deltaOf frameBudgetSecs)
    quality.decide frameBudgetSecs =
      (if newQp ≠ quality.currentQp then some newQp else none,
        { quality with bufferHealthSecs := none, currentQp := newQp }) := by
  intro newQp
  by_cases still : quality.deltaOf frameBudgetSecs = 0
  · have same : newQp = quality.currentQp := by
      simp only [newQp, still]
      exact moved_zero inRange
    rw [if_neg (not_not.mpr same), same, decide]
    exact if_pos still
  · by_cases changes : newQp ≠ quality.currentQp
    · rw [if_pos changes, decide]
      exact (if_neg still).trans (if_pos changes)
    · rw [if_neg changes, decide]
      refine (if_neg still).trans ((if_neg changes).trans ?_)
      rw [not_not.mp changes]

/-! ### The signals -/

/-- The opinion of the buffer between two thresholds. -/
def opinion (currentQp : Nat) (warn severe health : ℚ) : Int :=
  if severe < health then 2
  else if warn < health then 1
  else if health < 0.5 ∧ qpMin < currentQp then -1
  else 0

/-- Lower thresholds and more seconds in the buffer only raise the opinion. -/
theorem opinion_mono (currentQp : Nat) {warn warn' severe severe' : ℚ}
    {health health' : ℚ} (warnOrder : warn' ≤ warn)
    (severeOrder : severe' ≤ severe) (order : health ≤ health') :
    opinion currentQp warn severe health ≤
      opinion currentQp warn' severe' health' := by
  rw [opinion, opinion]
  by_cases severe₁ : severe < health
  · rw [if_pos severe₁, if_pos (by linarith)]
  · rw [if_neg severe₁]
    by_cases warn₁ : warn < health
    · rw [if_pos warn₁]
      split
      · decide
      · rw [if_pos (by linarith)]
    · rw [if_neg warn₁]
      by_cases headroom : health < 0.5 ∧ qpMin < currentQp
      · rw [if_pos headroom]
        split_ifs <;> decide
      · have none : ¬ (health' < 0.5 ∧ qpMin < currentQp) := by
          intro headroom'
          exact headroom ⟨order.trans_lt headroom'.1, headroom'.2⟩
        rw [if_neg headroom, if_neg none]
        split_ifs <;> decide

theorem opinion_bounds (currentQp : Nat) (warn severe health : ℚ) :
    -1 ≤ opinion currentQp warn severe health ∧
      opinion currentQp warn severe health ≤ 2 := by
  rw [opinion]
  split_ifs <;> decide

/-- The threshold for a mild overload. -/
def warnThreshold (tightening : ℚ) : ℚ := max (2.0 - tightening) 0.5

/-- The threshold for a severe overload. -/
def severeThreshold (tightening : ℚ) : ℚ :=
  max (3.0 - tightening) (warnThreshold tightening + 0.5)

theorem warnThreshold_antitone {less more : ℚ} (order : less ≤ more) :
    warnThreshold more ≤ warnThreshold less :=
  max_le_max (sub_le_sub_left order _) le_rfl

theorem severeThreshold_antitone {less more : ℚ} (order : less ≤ more) :
    severeThreshold more ≤ severeThreshold less :=
  max_le_max (sub_le_sub_left order _)
    (add_le_add_left (warnThreshold_antitone order) _)

theorem bufferDelta_eq (quality : QualityController ℚ) :
    quality.bufferDelta = quality.bufferHealthSecs.map
      (opinion quality.currentQp (warnThreshold quality.rttTightening)
        (severeThreshold quality.rttTightening)) :=
  rfl

/-- A higher round-trip time tightens as much or more. -/
theorem rttTightening_mono (quality : QualityController ℚ) {less more : ℚ}
    (order : less ≤ more) :
    rttTightening { quality with rttMsAvg := some less } ≤
      rttTightening { quality with rttMsAvg := some more } := by
  change (if (150.0 : ℚ) < less then (1.0 : ℚ)
      else if (80.0 : ℚ) < less then 0.5 else 0.0) ≤
    if (150.0 : ℚ) < more then (1.0 : ℚ)
      else if (80.0 : ℚ) < more then 0.5 else 0.0
  split_ifs <;> linarith

/-- The opinion of the pipeline. -/
def pipelineOpinion (currentQp : Nat) (ratio : ℚ) : Int :=
  if 0.8 < ratio ∧ currentQp < qpMax then 1
  else if ratio < 0.4 ∧ qpMin < currentQp then -1
  else 0

theorem pipelineOpinion_mono (currentQp : Nat) {ratio ratio' : ℚ}
    (order : ratio ≤ ratio') :
    pipelineOpinion currentQp ratio ≤ pipelineOpinion currentQp ratio' := by
  rw [pipelineOpinion, pipelineOpinion]
  by_cases saturated : 0.8 < ratio ∧ currentQp < qpMax
  · rw [if_pos saturated, if_pos ⟨saturated.1.trans_le order, saturated.2⟩]
  · rw [if_neg saturated]
    by_cases headroom : ratio < 0.4 ∧ qpMin < currentQp
    · rw [if_pos headroom]
      split_ifs <;> decide
    · have none : ¬ (ratio' < 0.4 ∧ qpMin < currentQp) := by
        intro headroom'
        exact headroom ⟨order.trans_lt headroom'.1, headroom'.2⟩
      rw [if_neg headroom, if_neg none]
      split_ifs <;> decide

theorem pipelineOpinion_bounds (currentQp : Nat) (ratio : ℚ) :
    -1 ≤ pipelineOpinion currentQp ratio ∧
      pipelineOpinion currentQp ratio ≤ 1 := by
  rw [pipelineOpinion]
  split_ifs <;> decide

theorem pipelineDelta_eq (quality : QualityController ℚ)
    (frameBudgetSecs : ℚ) :
    quality.pipelineDelta frameBudgetSecs =
      if (0.0 : ℚ) < frameBudgetSecs ∧ frameBudgetSecs < 1.0 then
        some (pipelineOpinion quality.currentQp
          (quality.encodeTimeAvg / frameBudgetSecs))
      else none := by
  rw [pipelineDelta, pipelineOpinion]
  by_cases budget : (0.0 : ℚ) < frameBudgetSecs ∧ frameBudgetSecs < 1.0
  · rw [if_pos budget, apply_ite some, apply_ite some]
    exact (if_pos budget).symm
  · rw [if_neg budget]
    exact (if_neg budget).symm

/-- Either signal is absent in both controllers, or there in both and as large
or larger in the second. -/
def Raised (first second : Option Int) : Prop :=
  first = none ∧ second = none ∨
    ∃ delta delta', delta ≤ delta' ∧ first = some delta ∧
      second = some delta'

theorem Raised.refl (signal : Option Int) : Raised signal signal := by
  cases signal with
  | none => exact .inl ⟨rfl, rfl⟩
  | some delta => exact .inr ⟨delta, delta, le_rfl, rfl, rfl⟩

/-- The combined delta grows with both signals: an opinion of the buffer is
never milder than that of the pipeline on its side. -/
theorem combine_mono {buffer buffer' pipeline pipeline' : Option Int}
    (bufferRaised : Raised buffer buffer')
    (pipelineRaised : Raised pipeline pipeline')
    (bounded : ∀ delta, pipeline = some delta → -1 ≤ delta ∧ delta ≤ 1)
    (bounded' : ∀ delta, pipeline' = some delta → -1 ≤ delta ∧ delta ≤ 1) :
    combine buffer pipeline ≤ combine buffer' pipeline' := by
  rcases bufferRaised with ⟨rfl, rfl⟩ | ⟨delta, delta', order, rfl, rfl⟩
  · rcases pipelineRaised with ⟨rfl, rfl⟩ | ⟨step, step', stepOrder, rfl, rfl⟩
    · exact le_rfl
    · exact stepOrder
  · rcases pipelineRaised with ⟨rfl, rfl⟩ | ⟨step, step', stepOrder, rfl, rfl⟩
    · exact order
    · have bounds := bounded step rfl
      have bounds' := bounded' step' rfl
      simp only [combine]
      split_ifs <;> omega

theorem pipelineDelta_bounds {quality : QualityController ℚ}
    {frameBudgetSecs : ℚ} (delta : Int)
    (asks : quality.pipelineDelta frameBudgetSecs = some delta) :
    -1 ≤ delta ∧ delta ≤ 1 := by
  rw [pipelineDelta_eq] at asks
  split at asks
  next =>
    cases asks
    exact pipelineOpinion_bounds _ _
  next => cases asks

theorem deltaOf_bounds (quality : QualityController ℚ)
    (frameBudgetSecs : ℚ) :
    -1 ≤ quality.deltaOf frameBudgetSecs ∧
      quality.deltaOf frameBudgetSecs ≤ 2 := by
  have pipeline := @pipelineDelta_bounds quality frameBudgetSecs
  have buffer : ∀ delta, quality.bufferDelta = some delta →
      -1 ≤ delta ∧ delta ≤ 2 := by
    intro delta asks
    rw [bufferDelta_eq, Option.map_eq_some_iff] at asks
    obtain ⟨health, -, rfl⟩ := asks
    exact opinion_bounds _ _ _ health
  rw [deltaOf]
  generalize quality.bufferDelta = bufferDelta at buffer ⊢
  generalize quality.pipelineDelta frameBudgetSecs = pipelineDelta
    at pipeline ⊢
  cases bufferDelta with
  | none =>
      cases pipelineDelta with
      | none => decide
      | some step =>
          have bounds := pipeline step rfl
          simp only [combine]
          omega
  | some delta =>
      have bounds := buffer delta rfl
      cases pipelineDelta with
      | none => exact bounds
      | some step =>
          have stepBounds := pipeline step rfl
          simp only [combine]
          split_ifs <;> omega

theorem Louder.bufferRaised {first second : QualityController ℚ}
    (louder : Louder first second) :
    Raised first.bufferDelta second.bufferDelta := by
  cases louder with
  | buffer quality order =>
      exact .inr ⟨_, _, opinion_mono _ le_rfl le_rfl order, rfl, rfl⟩
  | rtt quality order =>
      have tighter := quality.rttTightening_mono order
      rw [bufferDelta_eq, bufferDelta_eq]
      cases quality.bufferHealthSecs with
      | none => exact .inl ⟨rfl, rfl⟩
      | some health =>
          refine .inr ⟨_, _, ?_, rfl, rfl⟩
          exact opinion_mono _ (warnThreshold_antitone tighter)
            (severeThreshold_antitone tighter) le_rfl
  | encodeTime quality order => exact Raised.refl _

theorem Louder.pipelineRaised {first second : QualityController ℚ}
    (louder : Louder first second) (frameBudgetSecs : ℚ) :
    Raised (first.pipelineDelta frameBudgetSecs)
      (second.pipelineDelta frameBudgetSecs) := by
  cases louder with
  | buffer quality order => exact Raised.refl _
  | rtt quality order => exact Raised.refl _
  | encodeTime quality order =>
      rw [pipelineDelta_eq, pipelineDelta_eq]
      by_cases budget : (0.0 : ℚ) < frameBudgetSecs ∧ frameBudgetSecs < 1.0
      · rw [if_pos budget, if_pos budget]
        refine .inr ⟨_, _, pipelineOpinion_mono _ ?_, rfl, rfl⟩
        have zero : (0.0 : ℚ) = 0 := by norm_num
        exact div_le_div_of_nonneg_right order (zero ▸ budget.1.le)
      · rw [if_neg budget, if_neg budget]
        exact Raised.refl none

theorem Louder.deltaOf_le {first second : QualityController ℚ}
    (louder : Louder first second) (frameBudgetSecs : ℚ) :
    first.deltaOf frameBudgetSecs ≤ second.deltaOf frameBudgetSecs :=
  combine_mono louder.bufferRaised (louder.pipelineRaised frameBudgetSecs)
    pipelineDelta_bounds pipelineDelta_bounds

theorem Louder.currentQp_eq {first second : QualityController ℚ}
    (louder : Louder first second) : second.currentQp = first.currentQp := by
  cases louder <;> rfl

/-! ### Calls -/

theorem decidesWell {quality : QualityController ℚ}
    (inRange : quality.InRange) (frameBudgetSecs : ℚ) :
    quality.DecidesWell frameBudgetSecs := by
  have bounds := quality.deltaOf_bounds frameBudgetSecs
  obtain ⟨least, most⟩ := inRange
  have order : qpMin ≤ qpMax := by decide
  have isNew := decide_eq ⟨least, most⟩ frameBudgetSecs
  generalize isMoved : moved quality.currentQp
    (quality.deltaOf frameBudgetSecs) = newQp at isNew
  rw [moved] at isMoved
  dsimp only at isNew
  refine ⟨?_, ?_, ?_, ?_⟩
  · rw [isNew]
    constructor
    · dsimp only
      omega
    · dsimp only
      omega
  · rw [isNew]
    dsimp only
    omega
  · rw [isNew]
    dsimp only
    omega
  · intro answer
    rw [isNew]
    dsimp only
    by_cases changes : newQp ≠ quality.currentQp
    · simp [changes]
    · simp [changes]

theorem InRange.call {quality : QualityController ℚ}
    (inRange : quality.InRange) (next : Call) :
    (quality.call next).InRange := by
  cases next with
  | setBufferHealth secs => exact inRange
  | setRttMs rttMs => exact inRange
  | recordEncodeTime elapsedSecs => exact inRange
  | reset =>
      have least : qpMin ≤ qpDefault := by decide
      have most : qpDefault ≤ qpMax := by decide
      exact ⟨least, most⟩
  | decide frameBudgetSecs =>
      exact (decidesWell inRange frameBudgetSecs).inRange

theorem inRange_after (calls : List Call) : (after calls).InRange := by
  induction calls using List.reverseRecOn with
  | nil => exact ⟨by decide, by decide⟩
  | append_singleton calls last ih =>
      rw [after, List.foldl_append]
      exact InRange.call ih last

/-- After any calls the QP is in range and a decision moves it by two at most
and reports exactly a change; and a decision with one louder signal never
gives a lower QP. -/
theorem decide_bounded_monotone :
    (∀ calls : List Call, (after calls).InRange ∧
      ∀ frameBudgetSecs, (after calls).DecidesWell frameBudgetSecs) ∧
    ∀ (first second : QualityController ℚ) (frameBudgetSecs : ℚ),
      first.InRange → Louder first second →
        (first.decide frameBudgetSecs).2.currentQp ≤
          (second.decide frameBudgetSecs).2.currentQp := by
  constructor
  · intro calls
    exact ⟨inRange_after calls, decidesWell (inRange_after calls)⟩
  · intro first second frameBudgetSecs inRange louder
    have inRange' : second.InRange := by
      rw [InRange, louder.currentQp_eq]
      exact inRange
    rw [decide_eq inRange, decide_eq inRange', louder.currentQp_eq]
    exact moved_mono (louder.deltaOf_le frameBudgetSecs)

/-- The controller on a slow link, with so many seconds of video waiting. -/
def slowLink (health : ℚ) : QualityController ℚ :=
  { after [.setRttMs 200, .recordEncodeTime (1 / 50)] with
    bufferHealthSecs := some health }

theorem decide_bounded_monotone_slowLink :
    (((slowLink (4 / 5)).decide (1 / 30)).2.currentQp ≤
      ((slowLink 3).decide (1 / 30)).2.currentQp) ∧
      ((slowLink (4 / 5)).decide (1 / 30)).2.currentQp = 22 ∧
      ((slowLink 3).decide (1 / 30)).2.currentQp = 25 := by
  have deltas : (slowLink (4 / 5)).deltaOf (1 / 30) = -1 ∧
      (slowLink 3).deltaOf (1 / 30) = 2 := by
    norm_num [slowLink, after, call, new, setRttMs, recordEncodeTime, deltaOf,
      bufferDelta, pipelineDelta, rttTightening, combine, qpMin, qpMax,
      qpDefault, F64.ofNat]
  have inRange (health : ℚ) : (slowLink health).InRange :=
    inRange_after [.setRttMs 200, .recordEncodeTime (1 / 50)]
  refine ⟨?_, ?_, ?_⟩
  rotate_left
  · rw [decide_eq (inRange _), deltas.1]
    rfl
  · rw [decide_eq (inRange _), deltas.2]
    rfl
  apply decide_bounded_monotone.2
  · exact inRange _
  · exact .buffer (after [.setRttMs 200, .recordEncodeTime (1 / 50)])
      (by norm_num)

end QualityController

end Rylus
