import Mathlib.Data.Nat.Notation
import Mathlib.Order.Basic

/-!
# Walks over the items of a buffer

A walk reads the item at an offset and goes on behind it, up to a limit.  A
search returns what it finds, or nothing, or fails; it is specified by when it
returns and by what it finds.
-/

namespace BufferWalks

/-- Items in a buffer, at most one at each offset. -/
structure Layout (α : Type*) where
  IsAt : ℕ → α → Prop
  start : α → ℕ
  next : α → ℕ
  start_eq {offset : ℕ} {item : α} : IsAt offset item → start item = offset
  unique {offset : ℕ} {first second : α} :
    IsAt offset first → IsAt offset second → first = second

namespace Layout

variable {α : Type*} (layout : Layout α) (limit : ℕ) (skips : α → Prop)

/-- The items a walk reads from an offset on, if it goes on behind the items
that it skips. -/
inductive Meets : ℕ → α → Prop
  | here {offset : ℕ} {item : α} (inside : offset < limit)
      (isAt : layout.IsAt offset item) : Meets offset item
  | behind {offset : ℕ} {item found : α} (inside : offset < limit)
      (isAt : layout.IsAt offset item) (skipped : skips item)
      (meets : Meets (layout.next item) found) : Meets offset found

/-- Behind every item that is skipped the walk is further on. -/
def GoesOn (offset : ℕ) : Prop :=
  ∀ item, layout.Meets limit skips offset item → skips item →
    layout.start item < layout.next item

variable {layout limit skips} {offset : ℕ} {item found : α}

theorem not_meets_of_le (outside : limit ≤ offset) :
    ¬ layout.Meets limit skips offset found := by
  intro meets
  cases meets with
  | here inside => exact absurd inside (Nat.not_lt.mpr outside)
  | behind inside => exact absurd inside (Nat.not_lt.mpr outside)

theorem not_meets_of_nothing (nothing : ∀ item, ¬ layout.IsAt offset item) :
    ¬ layout.Meets limit skips offset found := by
  intro meets
  cases meets with
  | here _ isAt => exact nothing _ isAt
  | behind _ isAt => exact nothing _ isAt

theorem meets_iff (inside : offset < limit) (isAt : layout.IsAt offset item) :
    layout.Meets limit skips offset found ↔
      found = item ∨
        skips item ∧ layout.Meets limit skips (layout.next item) found := by
  constructor
  · intro meets
    cases meets with
    | here _ isFound => exact .inl (layout.unique isFound isAt)
    | behind _ isFirst skipped meets =>
        rw [layout.unique isFirst isAt] at skipped meets
        exact .inr ⟨skipped, meets⟩
  · rintro (rfl | ⟨skipped, meets⟩)
    · exact .here inside isAt
    · exact .behind inside isAt skipped meets

theorem forall_meets_iff (inside : offset < limit)
    (isAt : layout.IsAt offset item) {holds : α → Prop} :
    (∀ found, layout.Meets limit skips offset found → holds found) ↔
      holds item ∧ (skips item →
        ∀ found, layout.Meets limit skips (layout.next item) found →
          holds found) := by
  simp only [meets_iff inside isAt]
  constructor
  · intro all
    exact ⟨all item (.inl rfl), fun skipped found meets =>
      all found (.inr ⟨skipped, meets⟩)⟩
  · rintro ⟨first, rest⟩ found (rfl | ⟨skipped, meets⟩)
    · exact first
    · exact rest skipped found meets

theorem goesOn_of_le (outside : limit ≤ offset) :
    layout.GoesOn limit skips offset :=
  fun _ meets => absurd meets (not_meets_of_le outside)

theorem goesOn_of_nothing (nothing : ∀ item, ¬ layout.IsAt offset item) :
    layout.GoesOn limit skips offset :=
  fun _ meets => absurd meets (not_meets_of_nothing nothing)

theorem goesOn_iff (inside : offset < limit)
    (isAt : layout.IsAt offset item) :
    layout.GoesOn limit skips offset ↔
      (skips item → offset < layout.next item ∧
        layout.GoesOn limit skips (layout.next item)) := by
  rw [GoesOn, forall_meets_iff inside isAt, layout.start_eq isAt]
  exact imp_and.symm

end Layout

/-! ### Searches -/

/-- A search returns if it is safe, with the one thing it finds if there is
such a thing, and fails with a bad error otherwise. -/
structure Searches {ε α : Type*} (bad : ε → Prop)
    (run : Except ε (Option α)) (safe : Prop) (finds : α → Prop) : Prop where
  returns : safe → ∃ result, run = .ok result ∧
    ∀ found, result = some found ↔ finds found
  fails : ¬ safe → ∃ error, bad error ∧ run = .error error

namespace Searches

universe u

variable {ε : Type*} {α β : Type u} {bad : ε → Prop}
  {run : Except ε (Option α)} {safe : Prop} {finds : α → Prop}

theorem ofResult (result : Option α) :
    Searches bad (.ok result) True fun found => result = some found where
  returns _ := ⟨result, rfl, fun _ => Iff.rfl⟩
  fails unsafely := absurd trivial unsafely

theorem throws {error : ε} (isBad : bad error) :
    Searches bad (.error error) False fun _ : α => False where
  returns := False.elim
  fails _ := ⟨error, isBad, rfl⟩

theorem returns_iff (search : Searches bad run safe finds) :
    (∃ result, run = .ok result) ↔ safe := by
  constructor
  · rintro ⟨result, returned⟩
    by_contra unsafely
    obtain ⟨error, -, failed⟩ := search.fails unsafely
    rw [returned] at failed
    cases failed
  · intro safely
    obtain ⟨result, returned, -⟩ := search.returns safely
    exact ⟨result, returned⟩

/-- Only what the search finds when it is safe matters. -/
theorem congr (search : Searches bad run safe finds) {otherSafe : Prop}
    {otherFinds : α → Prop} (sameSafe : safe ↔ otherSafe)
    (sameFinds : safe → ∀ found, finds found ↔ otherFinds found) :
    Searches bad run otherSafe otherFinds where
  returns safely := by
    have before := sameSafe.mpr safely
    obtain ⟨result, returned, isFound⟩ := search.returns before
    exact ⟨result, returned, fun found =>
      (isFound found).trans (sameFinds before found)⟩
  fails unsafely := search.fails fun safely => unsafely (sameSafe.mp safely)

theorem nothing : Searches bad (.ok none) True fun _ : α => False :=
  (ofResult none).congr Iff.rfl (by simp)

theorem one (item : α) : Searches bad (.ok (some item)) True (· = item) :=
  (ofResult (some item)).congr Iff.rfl (by simp [eq_comm])

theorem none_or_one (search : Searches bad run safe finds) (safely : safe) :
    (run = .ok none ∧ ∀ item, ¬ finds item) ∨
      ∃ item, run = .ok (some item) ∧ ∀ other, finds other ↔ other = item := by
  obtain ⟨result, returned, isFound⟩ := search.returns safely
  cases result with
  | none => exact .inl ⟨returned, by simpa using isFound⟩
  | some item =>
      refine .inr ⟨item, returned, fun other => ?_⟩
      rw [← isFound other, Option.some.injEq, eq_comm]

theorem fails_bind (search : Searches bad run safe finds) (unsafely : ¬ safe)
    (next : Option α → Except ε (Option β)) :
    ∃ error, bad error ∧ (run >>= next) = .error error := by
  obtain ⟨error, isBad, failed⟩ := search.fails unsafely
  exact ⟨error, isBad, by rw [failed]; rfl⟩

/-- Search on from what has been found. -/
theorem andThen (first : Searches bad run safe finds)
    {next : Option α → Except ε (Option β)} {nextSafe : α → Prop}
    {nextFinds : α → β → Prop} (stops : next none = .ok none)
    (rest : ∀ item, finds item →
      Searches bad (next (some item)) (nextSafe item) (nextFinds item)) :
    Searches bad (run >>= next)
      (safe ∧ ∀ item, finds item → nextSafe item)
      fun found => ∃ item, finds item ∧ nextFinds item found := by
  by_cases safely : safe
  · rcases first.none_or_one safely with ⟨rfl, noneFound⟩ | ⟨item, rfl, only⟩
    · change Searches bad (next none) _ _
      rw [stops]
      refine nothing.congr ?_ fun _ found => ?_
      · simp [safely, noneFound]
      · simp [noneFound]
    · refine (rest item ((only item).mpr rfl)).congr ?_ fun _ found => ?_
      · simp [safely, only]
      · simp [only]
  · exact ⟨fun all => absurd all.1 safely, fun _ =>
      first.fails_bind safely next⟩

/-- Search elsewhere if nothing has been found, and on from there. -/
theorem orElse (first : Searches bad run safe finds)
    {other : Except ε (Option α)} {otherSafe : Prop} {otherFinds : α → Prop}
    (second : Searches bad other otherSafe otherFinds)
    {branch next : Option α → Except ε (Option β)} {nextSafe : α → Prop}
    {nextFinds : α → β → Prop}
    (onNone : branch none = other >>= next)
    (onSome : ∀ item, branch (some item) = next (some item))
    (stops : next none = .ok none)
    (rest : ∀ item, finds item ∨ (∀ item, ¬ finds item) ∧ otherFinds item →
      Searches bad (next (some item)) (nextSafe item) (nextFinds item)) :
    Searches bad (run >>= branch)
      ((safe ∧ ((∀ item, ¬ finds item) → otherSafe)) ∧
        ∀ item, finds item ∨ (∀ item, ¬ finds item) ∧ otherFinds item →
          nextSafe item)
      fun found => ∃ item,
        (finds item ∨ (∀ item, ¬ finds item) ∧ otherFinds item) ∧
          nextFinds item found := by
  by_cases safely : safe
  · rcases first.none_or_one safely with ⟨rfl, noneFound⟩ | ⟨item, rfl, only⟩
    · change Searches bad (branch none) _ _
      rw [onNone]
      have search := second.andThen stops fun item isOther =>
        rest item (.inr ⟨noneFound, isOther⟩)
      refine search.congr ?_ fun _ found => ?_
      · simp [safely, noneFound]
      · simp [noneFound]
    · change Searches bad (branch (some item)) _ _
      rw [onSome]
      have search := rest item (.inl ((only item).mpr rfl))
      refine search.congr ?_ fun _ found => ?_
      · simp [safely, only]
      · simp [only]
  · exact ⟨fun all => absurd all.1.1 safely, fun _ =>
      first.fails_bind safely branch⟩

end Searches

end BufferWalks
