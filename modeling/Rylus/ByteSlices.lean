import Mathlib.Algebra.Group.Nat.Defs
import Mathlib.Data.List.Basic

/-!
# Parts of a buffer and big-endian numbers

A part occurs in a buffer at an offset if the buffer has it there.  Formats
that concatenate their fields are read by following where the fields occur.
-/

namespace ByteSlices

section OccursAt

variable {α : Type*} {whole part first second : List α} {offset : Nat}

/-- The buffer has the part from the offset on. -/
def OccursAt (whole part : List α) (offset : Nat) : Prop :=
  ∃ before after, whole = before ++ part ++ after ∧ before.length = offset

theorem occursAt_between (before part after : List α) :
    OccursAt (before ++ part ++ after) part before.length :=
  ⟨before, after, rfl, rfl⟩

theorem OccursAt.left (occurs : OccursAt whole (first ++ second) offset) :
    OccursAt whole first offset := by
  obtain ⟨before, after, rfl, rfl⟩ := occurs
  exact ⟨before, second ++ after, by simp, rfl⟩

theorem OccursAt.right (occurs : OccursAt whole (first ++ second) offset) :
    OccursAt whole second (offset + first.length) := by
  obtain ⟨before, after, rfl, rfl⟩ := occurs
  exact ⟨before ++ first, after, by simp, by simp⟩

theorem OccursAt.length_le (occurs : OccursAt whole part offset) :
    offset + part.length ≤ whole.length := by
  obtain ⟨before, after, rfl, rfl⟩ := occurs
  simp

theorem OccursAt.getElem? (occurs : OccursAt whole part offset) {index : Nat}
    (inside : index < part.length) : whole[offset + index]? = part[index]? := by
  obtain ⟨before, after, rfl, rfl⟩ := occurs
  rw [List.append_assoc, List.getElem?_append_right (by omega),
    Nat.add_sub_cancel_left, List.getElem?_append_left inside]

/-- Cut out of the buffer, the part is what it was. -/
theorem OccursAt.take_drop (occurs : OccursAt whole part offset) :
    (whole.drop offset).take part.length = part := by
  obtain ⟨before, after, rfl, rfl⟩ := occurs
  rw [List.append_assoc, List.drop_left, List.take_left]

end OccursAt

/-! ### Numbers -/

/-- The low `count` bytes of a number, the highest first. -/
def bigEndian : Nat → Nat → List UInt8
  | 0, _ => []
  | count + 1, value => bigEndian count (value / 256) ++ [UInt8.ofNat value]

@[simp]
theorem length_bigEndian (count value : Nat) :
    (bigEndian count value).length = count := by
  induction count generalizing value with
  | zero => rfl
  | succ count ih => rw [bigEndian, List.length_append, ih]; rfl

theorem bigEndian_four (value : Nat) :
    bigEndian 4 value =
      [UInt8.ofNat (value / 2 ^ 24), UInt8.ofNat (value / 2 ^ 16),
        UInt8.ofNat (value / 2 ^ 8), UInt8.ofNat value] := by
  simp [bigEndian, Nat.div_div_eq_div_mul]

theorem bigEndian_eight (value : Nat) :
    bigEndian 8 value = bigEndian 4 (value / 2 ^ 32) ++ bigEndian 4 value := by
  simp [bigEndian, Nat.div_div_eq_div_mul]

end ByteSlices
