import Mathlib.Data.List.ProdSigma
import Mathlib.Data.List.Nodup

/-!
# Loops that write single cells of an array

A loop over a list of indices, each of which updates one cell of an array in
place or fails.  When the cells are different for different indices, the array
after the loop is the array before it with every targeted cell updated once.
-/

namespace ArrayWrites

variable {σ ι κ α : Type*}

/-- Two nested loops are one loop over the pairs of indices. -/
theorem foldlM_product (rows : List ι) (cols : List κ)
    (step : σ → ι → κ → Option σ) (state : σ) :
    rows.foldlM
        (fun state row =>
          cols.foldlM (fun state col => step state row col) state) state =
      (rows ×ˢ cols).foldlM
        (fun state index => step state index.1 index.2) state := by
  induction rows generalizing state with
  | nil => rfl
  | cons row rows ih =>
      rw [List.product_cons, List.foldlM_append, List.foldlM_cons,
        List.foldlM_map]
      congr 1
      funext next
      exact ih next

/-- A loop fails when one of its steps fails in every state. -/
theorem foldlM_eq_none {indices : List ι} {step : σ → ι → Option σ}
    {index : ι} (member : index ∈ indices)
    (fails : ∀ state, step state index = none) (state : σ) :
    indices.foldlM step state = none := by
  induction indices generalizing state with
  | nil => cases member
  | cons first indices ih =>
      rw [List.foldlM_cons]
      rcases List.mem_cons.mp member with rfl | later
      · rw [fails state]
        rfl
      · cases step state first with
        | none => rfl
        | some next => exact ih later next

/-- Two loops whose steps look the same under a view of the state. -/
theorem map_foldlM_congr {τ γ : Type*} {view : σ → γ} {view' : τ → γ}
    {indices : List ι} {step : σ → ι → Option σ} {step' : τ → ι → Option τ}
    (same : ∀ index state state', view state = view' state' →
      (step state index).map view = (step' state' index).map view')
    {state : σ} {state' : τ} (starts : view state = view' state') :
    (indices.foldlM step state).map view =
      (indices.foldlM step' state').map view' := by
  induction indices generalizing state state' with
  | nil => exact congrArg some starts
  | cons first indices ih =>
      rw [List.foldlM_cons, List.foldlM_cons]
      have taken := same first state state' starts
      cases next : step state first with
      | none =>
          rw [next, Option.map_none] at taken
          rw [Option.map_eq_none_iff.mp taken.symm]
          rfl
      | some next =>
          rw [next, Option.map_some] at taken
          obtain ⟨next', taken', sameNext⟩ :=
            Option.map_eq_some_iff.mp taken.symm
          rw [taken']
          exact ih sameNext.symm

/-- A loop of which no step changes the state. -/
theorem foldlM_eq_self {indices : List ι} {step : σ → ι → Option σ}
    {state : σ} (idle : ∀ index ∈ indices, step state index = some state) :
    indices.foldlM step state = some state := by
  induction indices with
  | nil => rfl
  | cons first indices ih =>
      rw [List.foldlM_cons, idle first (by simp)]
      exact ih fun index member => idle index (by simp [member])

/-- What every step keeps, a loop that does not fail keeps. -/
theorem foldlM_invariant {indices : List ι} {step : σ → ι → Option σ}
    {Invariant : σ → Prop}
    (kept : ∀ index ∈ indices, ∀ before after, Invariant before →
      step before index = some after → Invariant after)
    {before after : σ} (starts : Invariant before)
    (runs : indices.foldlM step before = some after) : Invariant after := by
  induction indices generalizing before with
  | nil =>
      cases runs
      exact starts
  | cons first indices ih =>
      rw [List.foldlM_cons] at runs
      cases taken : step before first with
      | none => simp [taken] at runs
      | some next =>
          refine ih (fun index member => kept index (by simp [member]))
            (kept first (by simp) before next starts taken) ?_
          simpa [taken] using runs

/-- What one step establishes and every step keeps holds after a loop that
does not fail. -/
theorem foldlM_establishes {indices : List ι} {step : σ → ι → Option σ}
    {Goal : σ → Prop} {index : ι} (member : index ∈ indices)
    (reaches : ∀ before after, step before index = some after → Goal after)
    (kept : ∀ index ∈ indices, ∀ before after, Goal before →
      step before index = some after → Goal after)
    {before after : σ} (runs : indices.foldlM step before = some after) :
    Goal after := by
  induction indices generalizing before with
  | nil => cases member
  | cons first indices ih =>
      rw [List.foldlM_cons] at runs
      cases taken : step before first with
      | none => simp [taken] at runs
      | some next =>
          have rest : indices.foldlM step next = some after := by
            simpa [taken] using runs
          have keptRest := fun index member =>
            kept index (List.mem_cons_of_mem first member)
          rcases List.mem_cons.mp member with rfl | later
          · exact foldlM_invariant keptRest (reaches before next taken) rest
          · exact ih later keptRest rest

section Modify

variable {indices : List ι} {step : Array α → ι → Option (Array α)}
  {size : Nat} {target : ι → Nat} {update : ι → α → α}

/-- A loop whose steps update the cells `target index` of arrays of `size`
cells. -/
theorem foldlM_eq_foldl_modify
    (steps : ∀ index ∈ indices, ∀ data : Array α, data.size = size →
      step data index = some (data.modify (target index) (update index)))
    {data : Array α} (isSize : data.size = size) :
    indices.foldlM step data =
      some (indices.foldl
        (fun data index => data.modify (target index) (update index))
        data) := by
  induction indices generalizing data with
  | nil => rfl
  | cons first indices ih =>
      rw [List.foldlM_cons, steps first (by simp) data isSize]
      exact ih (fun index member => steps index (by simp [member]))
        (by simpa using isSize)

theorem size_foldl_modify (data : Array α) :
    (indices.foldl
        (fun data index => data.modify (target index) (update index))
        data).size = data.size := by
  induction indices generalizing data with
  | nil => rfl
  | cons first indices ih => rw [List.foldl_cons, ih, Array.size_modify]

theorem getElem?_foldl_modify_of_ne {cell : Nat}
    (untouched : ∀ index ∈ indices, target index ≠ cell) (data : Array α) :
    (indices.foldl
        (fun data index => data.modify (target index) (update index))
        data)[cell]? = data[cell]? := by
  induction indices generalizing data with
  | nil => rfl
  | cons first indices ih =>
      rw [List.foldl_cons, ih fun index member =>
        untouched index (by simp [member])]
      rw [Array.getElem?_modify, if_neg (untouched first (by simp))]

theorem getElem?_foldl_modify {index : ι} (member : index ∈ indices)
    (distinct : indices.Nodup)
    (injective : ∀ one ∈ indices, ∀ other ∈ indices,
      target one = target other → one = other) (data : Array α) :
    (indices.foldl
        (fun data index => data.modify (target index) (update index))
        data)[target index]? = data[target index]?.map (update index) := by
  induction indices generalizing data with
  | nil => cases member
  | cons first indices ih =>
      obtain ⟨fresh, distinct⟩ := List.nodup_cons.mp distinct
      rw [List.foldl_cons]
      rcases List.mem_cons.mp member with rfl | later
      · rw [getElem?_foldl_modify_of_ne, Array.getElem?_modify, if_pos rfl]
        intro other otherMember same
        have equal := injective other (by simp [otherMember]) index
          (by simp) same
        exact fresh (equal ▸ otherMember)
      · have other : target first ≠ target index := by
          intro same
          have equal := injective first (by simp) index
            (by simp [later]) same
          exact fresh (equal ▸ later)
        rw [ih later distinct fun one memberOne other memberOther =>
          injective one (by simp [memberOne]) other (by simp [memberOther])]
        rw [Array.getElem?_modify, if_neg other]

end Modify

end ArrayWrites
