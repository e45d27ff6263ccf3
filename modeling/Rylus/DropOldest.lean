import Mathlib.Data.List.DropRight

/-!
# Drop-oldest queues

A bounded queue that never refuses an item: pushing discards the oldest items
until there is room.  Between two drains it always holds the newest items
pushed, as many as fit.
-/

namespace DropOldest

variable {Item : Type*}

/-- Discard from the front until fewer than `capacity` items are left. -/
def makeRoom (capacity : Nat) : List Item → List Item
  | [] => []
  | oldest :: rest =>
      if capacity ≤ (oldest :: rest).length then makeRoom capacity rest
      else oldest :: rest

def push (capacity : Nat) (queue : List Item) (item : Item) : List Item :=
  makeRoom capacity queue ++ [item]

theorem makeRoom_eq_drop (capacity : Nat) (queue : List Item) :
    makeRoom capacity queue = queue.drop (queue.length + 1 - capacity) := by
  induction queue with
  | nil => simp [makeRoom]
  | cons oldest rest ih =>
      unfold makeRoom
      split
      · rename_i full
        have more : (oldest :: rest).length + 1 - capacity =
            (rest.length + 1 - capacity) + 1 := by
          simp only [List.length_cons] at full ⊢
          omega
        rw [ih, more, List.drop_succ_cons]
      · rename_i room
        have nothing : (oldest :: rest).length + 1 - capacity = 0 := by omega
        rw [nothing, List.drop_zero]

/-- The queue holds the newest items. -/
theorem push_rtake {capacity : Nat} (positive : 0 < capacity)
    (pushed : List Item) (item : Item) :
    push capacity (pushed.rtake capacity) item =
      (pushed ++ [item]).rtake capacity := by
  rw [push, makeRoom_eq_drop, List.rtake, List.rtake,
    List.drop_drop, List.drop_append_of_le_length]
  · congr 2
    simp only [List.length_drop, List.length_append, List.length_singleton]
    omega
  · simp only [List.length_append, List.length_singleton]
    omega

/-- Of what was pushed, an item that is not among the newest ones has that
many newer ones behind it. -/
theorem exists_newer_of_mem_rdrop {capacity : Nat} {pushed : List Item}
    {item : Item} (member : item ∈ pushed.rdrop capacity) :
    ∃ before newer, pushed = before ++ item :: newer ∧
      capacity ≤ newer.length := by
  obtain ⟨before, between, split⟩ := List.append_of_mem member
  have whole : pushed = pushed.rdrop capacity ++ pushed.rtake capacity :=
    (List.take_append_drop _ _).symm
  refine ⟨before, between ++ pushed.rtake capacity, ?_, ?_⟩
  · rw [split] at whole
    simpa using whole
  · have nonempty : 0 < (pushed.rdrop capacity).length :=
      List.length_pos_of_mem member
    have long : capacity < pushed.length := by
      simp only [List.rdrop, List.length_take] at nonempty
      omega
    simp only [List.length_append, List.rtake, List.length_drop]
    omega

end DropOldest
