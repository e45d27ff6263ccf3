import Mathlib.Data.List.Induction

/-!
# Executions of labelled partial transitions

A concurrent system is a partial step function: `step state label` is the
state after one atomic step, or `none` when the label is not enabled.  A list
of labels is one interleaving.  This file collects the rules by which a fact
about single steps becomes a fact about whole executions, including the
exact form: a property holds in every state of an execution if and only if
every step of it meets a guard.
-/

namespace Transition

variable {State Label : Type*}

/-- Take the labelled steps in order; `none` once a label is not enabled. -/
def run (step : State → Label → Option State) :
    State → List Label → Option State
  | state, [] => some state
  | state, label :: labels =>
      (step state label).bind fun next => run step next labels

@[simp]
theorem run_nil (step : State → Label → Option State) (state : State) :
    run step state [] = some state :=
  rfl

@[simp]
theorem run_cons (step : State → Label → Option State) (state : State)
    (label : Label) (labels : List Label) :
    run step state (label :: labels) =
      (step state label).bind fun next => run step next labels :=
  rfl

theorem run_append (step : State → Label → Option State) (state : State)
    (first second : List Label) :
    run step state (first ++ second) =
      (run step state first).bind fun middle => run step middle second := by
  induction first generalizing state with
  | nil => rfl
  | cons label labels ih =>
      cases taken : step state label with
      | none => simp [taken]
      | some next => simpa [taken] using ih next

/-- Steps of one component, embedded in a larger system that the component
does not depend on. -/
theorem run_component {Part PartLabel : Type*}
    (step : State → Label → Option State)
    (partStep : Part → PartLabel → Option Part)
    (embed : Part → State) (relabel : PartLabel → Label)
    (commutes : ∀ part label,
      step (embed part) (relabel label) = (partStep part label).map embed)
    (part : Part) (labels : List PartLabel) :
    run step (embed part) (labels.map relabel) =
      (run partStep part labels).map embed := by
  induction labels generalizing part with
  | nil => rfl
  | cons label labels ih =>
      rw [List.map_cons, run_cons, run_cons, commutes]
      cases partStep part label with
      | none => rfl
      | some next => exact ih next

/-- States reached from `initial` by some interleaving. -/
def Reachable (step : State → Label → Option State)
    (initial state : State) : Prop :=
  ∃ labels, run step initial labels = some state

theorem Reachable.refl (step : State → Label → Option State)
    (initial : State) : Reachable step initial initial :=
  ⟨[], rfl⟩

theorem Reachable.tail {step : State → Label → Option State}
    {initial state next : State} {label : Label}
    (reached : Reachable step initial state)
    (taken : step state label = some next) :
    Reachable step initial next := by
  obtain ⟨labels, runs⟩ := reached
  refine ⟨labels ++ [label], ?_⟩
  simp [run_append, runs, taken]

/-- A property of the initial state kept by every step holds in every
reachable state. -/
theorem Reachable.invariant {step : State → Label → Option State}
    {initial state : State} {Invariant : State → Prop}
    (reached : Reachable step initial state)
    (starts : Invariant initial)
    (kept : ∀ before label after, Invariant before →
      step before label = some after → Invariant after) :
    Invariant state := by
  obtain ⟨labels, runs⟩ := reached
  induction labels generalizing initial with
  | nil =>
      cases runs
      exact starts
  | cons label labels ih =>
      cases taken : step initial label with
      | none => simp [taken] at runs
      | some next =>
          refine ih (kept initial label next starts taken) ?_
          simpa [taken] using runs

/-- `goal` can be reached by labels of the system's own. -/
def CanReach (step : State → Label → Option State) (own : Label → Prop)
    (goal : State → Prop) (state : State) : Prop :=
  ∃ labels final, (∀ label ∈ labels, own label) ∧
    run step state labels = some final ∧ goal final

section CanReach

variable {step : State → Label → Option State} {own : Label → Prop}
  {goal : State → Prop}

theorem CanReach.of_run {state next : State} {labels : List Label}
    (reaches : CanReach step own goal next)
    (isOwn : ∀ label ∈ labels, own label)
    (runs : run step state labels = some next) :
    CanReach step own goal state := by
  obtain ⟨more, final, moreOwn, runsMore, holds⟩ := reaches
  refine ⟨labels ++ more, final, ?_, ?_, holds⟩
  · intro label member
    rcases List.mem_append.mp member with first | second
    · exact isOwn label first
    · exact moreOwn label second
  · rw [run_append, runs, Option.bind_some, runsMore]

/-- A system that can always lower a measure until it is at its goal gets
there. -/
theorem canReach_of_measure (Invariant : State → Prop) (measure : State → Nat)
    (progress : ∀ state, Invariant state → ¬ goal state →
      ∃ labels next, (∀ label ∈ labels, own label) ∧
        run step state labels = some next ∧ Invariant next ∧
          measure next < measure state)
    {state : State} (holds : Invariant state) :
    CanReach step own goal state := by
  induction bound : measure state using Nat.strongRecOn
    generalizing state with
  | ind bound' ih =>
      by_cases reached : goal state
      · exact ⟨[], state, by simp, rfl, reached⟩
      · obtain ⟨labels, next, isOwn, runs, kept, lower⟩ :=
          progress state holds reached
        exact (ih (measure next) (bound ▸ lower) kept rfl).of_run isOwn runs

/-- A goal excluded by an invariant of the system's own steps is out of
reach. -/
theorem not_canReach_of_invariant (Invariant : State → Prop)
    (kept : ∀ before label after, Invariant before → own label →
      step before label = some after → Invariant after)
    (excludes : ∀ state, Invariant state → ¬ goal state)
    {state : State} (holds : Invariant state) :
    ¬ CanReach step own goal state := by
  rintro ⟨labels, final, isOwn, runs, reached⟩
  induction labels generalizing state with
  | nil =>
      cases runs
      exact excludes _ holds reached
  | cons label labels ih =>
      cases taken : step state label with
      | none => simp [taken] at runs
      | some next =>
          apply ih (kept state label next holds (isOwn label (by simp)) taken)
          · exact fun other member => isOwn other (by simp [member])
          · simpa [taken] using runs

end CanReach

/-- Taking the labels from `state` on, each step meets `guard`. -/
def MeetsFrom (step : State → Label → Option State)
    (guard : State → Label → Prop) : State → List Label → Prop
  | _, [] => True
  | state, label :: labels =>
      guard state label ∧
        ∀ next, step state label = some next → MeetsFrom step guard next labels

/-- Whether the guard is met can be computed by running the labels. -/
instance MeetsFrom.decidable {step : State → Label → Option State}
    {guard : State → Label → Prop}
    [∀ state label, Decidable (guard state label)] :
    ∀ (state : State) (labels : List Label),
      Decidable (MeetsFrom step guard state labels)
  | _, [] => .isTrue trivial
  | state, label :: labels =>
      have _ (next : State) : Decidable (MeetsFrom step guard next labels) :=
        MeetsFrom.decidable next labels
      have : Decidable (∀ next, step state label = some next →
          MeetsFrom step guard next labels) :=
        inferInstanceAs (Decidable (∀ next ∈ step state label,
          MeetsFrom step guard next labels))
      inferInstanceAs (Decidable (_ ∧ _))

theorem MeetsFrom.meets {step : State → Label → Option State}
    {guard : State → Label → Prop} {initial state : State}
    {taken rest : List Label} {label : Label}
    (meets : MeetsFrom step guard initial (taken ++ label :: rest))
    (runs : run step initial taken = some state) : guard state label := by
  induction taken generalizing initial with
  | nil =>
      cases runs
      exact meets.1
  | cons first taken ih =>
      cases enabled : step initial first with
      | none => simp [enabled] at runs
      | some next =>
          apply ih (meets.2 next enabled)
          simpa [enabled] using runs

/-- An interleaving together with the fact that all of it can be taken. -/
structure Execution (step : State → Label → Option State)
    (initial : State) where
  labels : List Label
  final : State
  runs : run step initial labels = some final

namespace Execution

variable {step : State → Label → Option State} {initial : State}

/-- `property` holds in every state the execution visits. -/
def Along (execution : Execution step initial)
    (property : State → Prop) : Prop :=
  ∀ taken rest state, execution.labels = taken ++ rest →
    run step initial taken = some state → property state

/-- Every step of the execution is taken in a state that meets `guard`. -/
def StepsMeet (execution : Execution step initial)
    (guard : State → Label → Prop) : Prop :=
  ∀ taken label rest state, execution.labels = taken ++ label :: rest →
    run step initial taken = some state → guard state label

theorem stepsMeet_of_meetsFrom {guard : State → Label → Prop}
    (execution : Execution step initial)
    (meets : MeetsFrom step guard initial execution.labels) :
    execution.StepsMeet guard := by
  intro taken label rest state split runs
  rw [split] at meets
  exact meets.meets runs

/-- `property` holds wherever the system can get on its own, by `own` labels
only, from any point of the execution. -/
def AlongContinuations (execution : Execution step initial)
    (own : Label → Prop) (property : State → Prop) : Prop :=
  ∀ taken rest more state, execution.labels = taken ++ rest →
    (∀ label ∈ more, own label) →
      run step initial (taken ++ more) = some state → property state

/-- Every label of an execution is enabled where it is taken. -/
theorem exists_next (execution : Execution step initial)
    {taken rest : List Label} {label : Label} {state : State}
    (split : execution.labels = taken ++ label :: rest)
    (runs : run step initial taken = some state) :
    ∃ next, step state label = some next ∧
      run step initial (taken ++ [label]) = some next := by
  have whole := execution.runs
  rw [split, run_append, runs] at whole
  cases enabled : step state label with
  | none => simp [enabled] at whole
  | some next =>
      exact ⟨next, rfl, by simp [run_append, runs, enabled]⟩

/-- Steps that meet `guard` carry `Invariant` along the execution. -/
theorem along_of_stepsMeet {Invariant : State → Prop}
    {guard : State → Label → Prop} (execution : Execution step initial)
    (starts : Invariant initial)
    (kept : ∀ before label after, Reachable step initial before →
      Invariant before → guard before label →
        step before label = some after → Invariant after)
    (meets : execution.StepsMeet guard) :
    execution.Along Invariant := by
  intro taken
  induction taken using List.reverseRecOn with
  | nil =>
      intro rest state _ runs
      cases runs
      exact starts
  | append_singleton taken label ih =>
      intro rest state split runs
      have split' : execution.labels = taken ++ label :: rest := by
        simpa using split
      rw [run_append] at runs
      cases before : run step initial taken with
      | none => simp [before] at runs
      | some middle =>
          have step' : step middle label = some state := by
            simpa [before] using runs
          exact kept middle label state ⟨taken, before⟩
            (ih (label :: rest) middle split' before)
            (meets taken label rest middle split' before) step'

/-- What every step keeps holds along every execution. -/
theorem along_of_kept (execution : Execution step initial)
    (Invariant : State → Prop) (starts : Invariant initial)
    (kept : ∀ before label after, Invariant before →
      step before label = some after → Invariant after) :
    execution.Along Invariant :=
  fun taken _ _ _ runs =>
    Reachable.invariant ⟨taken, runs⟩ starts kept

/-- When a step preserves `property` exactly if it meets `guard`, the
property holds along an execution exactly if all steps meet the guard. -/
theorem along_iff_stepsMeet {property : State → Prop}
    {guard : State → Label → Prop} (execution : Execution step initial)
    (starts : property initial)
    (exactStep : ∀ before label after, Reachable step initial before →
      property before → step before label = some after →
        (property after ↔ guard before label)) :
    execution.Along property ↔ execution.StepsMeet guard := by
  constructor
  · intro along taken label rest state split runs
    obtain ⟨next, enabled, runsNext⟩ := execution.exists_next split runs
    refine (exactStep state label next ⟨taken, runs⟩
      (along taken (label :: rest) state split runs) enabled).mp ?_
    exact along (taken ++ [label]) rest next (by simpa using split) runsNext
  · exact execution.along_of_stepsMeet starts
      fun before label after reached holds guarded taken =>
        (exactStep before label after reached holds taken).mpr guarded

/-- When `Invariant` is kept by guarded steps, the guard restricts no label
of the system's own, and every unguarded step lets the system break
`property` on its own, the property holds in all continuations exactly if all
steps meet the guard. -/
theorem alongContinuations_iff_stepsMeet
    {property : State → Prop} {own : Label → Prop}
    {guard : State → Label → Prop} (execution : Execution step initial)
    (Invariant : State → Prop) (starts : Invariant initial)
    (implies : ∀ state, Invariant state → property state)
    (kept : ∀ before label after, Invariant before → guard before label →
      step before label = some after → Invariant after)
    (free : ∀ state label, own label → guard state label)
    (escapes : ∀ before label after, Reachable step initial before →
      step before label = some after → ¬ guard before label →
        ∃ more state, (∀ label ∈ more, own label) ∧
          run step after more = some state ∧ ¬ property state) :
    execution.AlongContinuations own property ↔
      execution.StepsMeet guard := by
  constructor
  · intro along taken label rest state split runs
    by_contra unguarded
    obtain ⟨next, enabled, runsNext⟩ := execution.exists_next split runs
    obtain ⟨more, final, isOwn, runsMore, broken⟩ :=
      escapes state label next ⟨taken, runs⟩ enabled unguarded
    refine broken (along (taken ++ [label]) rest more final
      (by simpa using split) isOwn ?_)
    rw [run_append, runsNext]
    exact runsMore
  · intro meets taken rest more state split isOwn runs
    have along : execution.Along Invariant :=
      execution.along_of_stepsMeet starts
        (fun before label after _ => kept before label after) meets
    rw [run_append] at runs
    cases reached : run step initial taken with
    | none => simp [reached] at runs
    | some middle =>
        rw [reached] at runs
        refine implies state ?_
        have holds := along taken rest middle split reached
        clear along meets reached split
        induction more generalizing middle with
        | nil =>
            cases runs
            exact holds
        | cons label labels ih =>
            cases enabled : step middle label with
            | none => simp [enabled] at runs
            | some next =>
                refine ih (fun other member => isOwn other (by simp [member]))
                  next (by simpa [enabled] using runs) ?_
                exact kept middle label next holds
                  (free middle label (isOwn label (by simp))) enabled

/-- Guards that agree on every enabled step of a reachable state agree on
executions. -/
theorem stepsMeet_congr {first second : State → Label → Prop}
    (execution : Execution step initial)
    (agree : ∀ before label after, Reachable step initial before →
      step before label = some after →
        (first before label ↔ second before label)) :
    execution.StepsMeet first ↔ execution.StepsMeet second := by
  constructor
  · intro meets taken label rest state split runs
    obtain ⟨next, enabled, -⟩ := execution.exists_next split runs
    exact (agree state label next ⟨taken, runs⟩ enabled).mp
      (meets taken label rest state split runs)
  · intro meets taken label rest state split runs
    obtain ⟨next, enabled, -⟩ := execution.exists_next split runs
    exact (agree state label next ⟨taken, runs⟩ enabled).mpr
      (meets taken label rest state split runs)

/-- What holds of every single step, where the next state may depend on all
steps before: `property` needs `guard`, and guarded steps carry an invariant
under which `guard` is enough. -/
theorem stepsMeet_iff_stepsMeet {property guard : State → Label → Prop}
    (execution : Execution step initial)
    (Invariant : State → Prop) (starts : Invariant initial)
    (needs : ∀ before label after, step before label = some after →
      property before label → guard before label)
    (kept : ∀ before label after, Invariant before → guard before label →
      step before label = some after → Invariant after)
    (enough : ∀ before label after, Invariant before → guard before label →
      step before label = some after → property before label) :
    execution.StepsMeet property ↔ execution.StepsMeet guard := by
  constructor
  · intro holds taken label rest state split runs
    obtain ⟨next, enabled, -⟩ := execution.exists_next split runs
    exact needs state label next enabled
      (holds taken label rest state split runs)
  · intro meets taken label rest state split runs
    obtain ⟨next, enabled, -⟩ := execution.exists_next split runs
    have along : execution.Along Invariant :=
      execution.along_of_stepsMeet starts
        (fun before label after _ => kept before label after) meets
    exact enough state label next (along taken (label :: rest) state split runs)
      (meets taken label rest state split runs) enabled

/-- What holds of every single step, exactly if the step meets `guard`, as
long as an invariant holds that guarded steps keep. -/
theorem stepsMeet_iff_of_invariant {property guard : State → Label → Prop}
    (execution : Execution step initial)
    (Invariant : State → Prop) (starts : Invariant initial)
    (exactStep : ∀ before label after, Invariant before →
      step before label = some after →
        (property before label ↔ guard before label))
    (kept : ∀ before label after, Invariant before → guard before label →
      step before label = some after → Invariant after) :
    execution.StepsMeet property ↔ execution.StepsMeet guard := by
  constructor
  · intro holds taken label rest state split runs
    have along : execution.Along Invariant := by
      apply execution.along_of_stepsMeet starts _ holds
      intro before label after _ invariant holds taken
      have guarded := (exactStep before label after invariant taken).mp holds
      exact kept before label after invariant guarded taken
    obtain ⟨next, enabled, -⟩ := execution.exists_next split runs
    have invariant := along taken (label :: rest) state split runs
    exact (exactStep state label next invariant enabled).mp
      (holds taken label rest state split runs)
  · intro meets taken label rest state split runs
    have along : execution.Along Invariant :=
      execution.along_of_stepsMeet starts
        (fun before label after _ => kept before label after) meets
    obtain ⟨next, enabled, -⟩ := execution.exists_next split runs
    have invariant := along taken (label :: rest) state split runs
    exact (exactStep state label next invariant enabled).mpr
      (meets taken label rest state split runs)

/-- A bit that some labels set and others clear is clear at the end exactly
if each label that sets it is followed by one that clears it. -/
theorem clear_iff_followed (execution : Execution step initial)
    (bit : State → Bool) {Sets Clears : Label → Prop}
    (starts : bit initial = false)
    (sets : ∀ before label after, Reachable step initial before →
      step before label = some after → Sets label → bit after = true)
    (clears : ∀ before label after, Reachable step initial before →
      step before label = some after → Clears label → bit after = false)
    (keeps : ∀ before label after, Reachable step initial before →
      step before label = some after → ¬ Sets label → ¬ Clears label →
        bit after = bit before) :
    bit execution.final = false ↔
      ∀ taken label rest, execution.labels = taken ++ label :: rest →
        Sets label → ∃ later ∈ rest, Clears later := by
  obtain ⟨labels, final, runs⟩ := execution
  dsimp only
  induction labels using List.reverseRecOn generalizing final with
  | nil =>
      cases runs
      simp [starts]
  | append_singleton labels last ih =>
      rw [run_append] at runs
      cases reached : run step initial labels with
      | none => simp [reached] at runs
      | some middle =>
          have taken : step middle last = some final := by
            simpa [reached] using runs
          have ih := ih middle reached
          constructor
          · intro isClear before label rest split setting
            rcases List.eq_nil_or_concat rest with rfl | ⟨rest, other, rfl⟩
            · -- the last label sets the bit
              obtain ⟨-, same⟩ := List.append_inj' split rfl
              cases same
              have isSet := sets middle last final ⟨labels, reached⟩ taken
                setting
              rw [isClear] at isSet
              cases isSet
            · have split' : labels ++ [last] =
                  (before ++ label :: rest) ++ [other] := by
                simpa using split
              obtain ⟨rfl, same⟩ := List.append_inj' split' rfl
              cases same
              by_cases clearing : Clears last
              · exact ⟨last, by simp, clearing⟩
              · have unset : ¬ Sets last := by
                  intro again
                  have isSet := sets middle last final ⟨_, reached⟩ taken again
                  rw [isClear] at isSet
                  cases isSet
                rw [keeps middle last final ⟨_, reached⟩ taken unset clearing]
                  at isClear
                obtain ⟨later, member, cleared⟩ :=
                  ih.mp isClear before label rest rfl setting
                exact ⟨later, by simp [member], cleared⟩
          · intro followed
            by_cases clearing : Clears last
            · exact clears middle last final ⟨labels, reached⟩ taken clearing
            · have unset : ¬ Sets last := by
                intro setting
                obtain ⟨later, member, -⟩ :=
                  followed labels last [] rfl setting
                cases member
              rw [keeps middle last final ⟨labels, reached⟩ taken unset
                clearing]
              apply ih.mpr
              intro before label rest split setting
              obtain ⟨later, member, cleared⟩ :=
                followed before label (rest ++ [last]) (by simp [split])
                  setting
              rcases List.mem_append.mp member with earlier | isLast
              · exact ⟨later, earlier, cleared⟩
              · rw [List.mem_singleton.mp isLast] at cleared
                exact absurd cleared clearing

end Execution

end Transition
