import Mathlib.Algebra.Order.Ring.Int
import Mathlib.Data.List.Basic
import Mathlib.Tactic.Linarith

/-!
# Rows that lie a stride apart

A picture is stored row by row in one buffer: row `row` begins at
`row * stride`.  The stride may be longer than a row, shorter, so that rows
overlap, or negative, so that they leave the buffer at its start.  Packing
moves the rows one after the other to where they would be without padding.
-/

namespace StridedRows

/-- Every cell of every row is in a buffer of the given length. -/
def Inside (length rows rowLength : Nat) (stride : Int) : Prop :=
  ∀ row < rows, ∀ cell < rowLength,
    0 ≤ (row : Int) * stride + cell ∧ (row : Int) * stride + cell < length

variable {length rows rowLength : Nat} {stride : Int}

theorem inside_of_rows_eq_zero (none : rows = 0) :
    Inside length rows rowLength stride := by
  intro row isRow
  omega

theorem inside_of_rowLength_eq_zero (empty : rowLength = 0) :
    Inside length rows rowLength stride := by
  intro row _ cell isCell
  omega

/-- No row ends behind the last one, unless the stride leads backwards. -/
theorem inside_of_last (forward : rows = 1 ∨ 0 ≤ stride)
    (last : ((rows - 1 : Nat) : Int) * stride + rowLength ≤ length) :
    Inside length rows rowLength stride := by
  intro row isRow cell isCell
  rcases forward with one | nonneg
  · obtain rfl : row = 0 := by omega
    subst one
    simp only [Nat.sub_self, Nat.cast_zero, zero_mul, zero_add] at last ⊢
    omega
  · have earlier : (row : Int) * stride ≤ ((rows - 1 : Nat) : Int) * stride :=
      mul_le_mul_of_nonneg_right (by omega) nonneg
    have start : 0 ≤ (row : Int) * stride :=
      mul_nonneg (Int.natCast_nonneg row) nonneg
    omega

/-- The first cell of the second row and the last cell of the last row decide
whether all of them are inside. -/
theorem inside_iff (some : rows ≠ 0) (nonempty : rowLength ≠ 0) :
    Inside length rows rowLength stride ↔
      (rows = 1 ∨ 0 ≤ stride) ∧
        ((rows - 1 : Nat) : Int) * stride + rowLength ≤ length := by
  constructor
  · intro inside
    constructor
    · by_contra backward
      push Not at backward
      have second := (inside 1 (by omega) 0 (by omega)).1
      simp only [Nat.cast_one, one_mul, Nat.cast_zero, add_zero] at second
      omega
    · have last := (inside (rows - 1) (by omega) (rowLength - 1) (by omega)).2
      omega
  · rintro ⟨forward, last⟩
    exact inside_of_last forward last

/-! ### Packing -/

variable {α : Type*}

/-- The buffer after `count` cells are copied from `src` on to `dst`. -/
def move (buf : List α) (src count dst : Nat) : List α :=
  buf.take dst ++ (buf.drop src).take count ++ buf.drop (dst + count)

/-- The buffer after the rows `1` to `moved` have been packed. -/
def packed (buf : List α) (rowLength stride : Nat) : Nat → List α
  | 0 => buf
  | moved + 1 => move (packed buf rowLength stride moved)
      ((moved + 1) * stride) rowLength ((moved + 1) * rowLength)

variable {buf : List α} {src count dst : Nat}

theorem length_move (srcFits : src + count ≤ buf.length)
    (dstFits : dst + count ≤ buf.length) :
    (move buf src count dst).length = buf.length := by
  simp only [move, List.length_append, List.length_take, List.length_drop]
  omega

/-- What has been copied. -/
theorem getElem?_move (srcFits : src + count ≤ buf.length)
    (dstFits : dst + count ≤ buf.length) {cell : Nat} (isCell : cell < count) :
    (move buf src count dst)[dst + cell]? = buf[src + cell]? := by
  have before : (buf.take dst).length = dst := by
    rw [List.length_take]
    omega
  have copied : ((buf.drop src).take count).length = count := by
    rw [List.length_take, List.length_drop]
    omega
  rw [move, List.append_assoc, List.getElem?_append_right (by omega), before,
    Nat.add_sub_cancel_left, List.getElem?_append_left (by omega),
    List.getElem?_take_of_lt isCell, List.getElem?_drop]

/-- The cells outside the target stay as they are. -/
theorem getElem?_move_of_outside (srcFits : src + count ≤ buf.length)
    (dstFits : dst + count ≤ buf.length) {position : Nat}
    (outside : position < dst ∨ dst + count ≤ position) :
    (move buf src count dst)[position]? = buf[position]? := by
  have before : (buf.take dst).length = dst := by
    rw [List.length_take]
    omega
  have copied : ((buf.drop src).take count).length = count := by
    rw [List.length_take, List.length_drop]
    omega
  rw [move]
  rcases outside with left | right
  · rw [List.append_assoc, List.getElem?_append_left (by omega),
      List.getElem?_take_of_lt left]
  · rw [List.getElem?_append_right (by rw [List.length_append]; omega),
      List.length_append, before, copied, List.getElem?_drop]
    congr 1
    omega

/-- The rows from `1` to `moved` lie in the buffer before and after they are
packed. -/
def Movable (length rowLength stride moved : Nat) : Prop :=
  ∀ row, 1 ≤ row → row ≤ moved →
    row * stride + rowLength ≤ length ∧ row * rowLength + rowLength ≤ length

theorem Movable.mono {length rowLength stride fewer more : Nat}
    (movable : Movable length rowLength stride more) (order : fewer ≤ more) :
    Movable length rowLength stride fewer :=
  fun row first last => movable row first (last.trans order)

section Packed

variable {rowLength stride moved : Nat}

theorem length_packed (movable : Movable buf.length rowLength stride moved) :
    (packed buf rowLength stride moved).length = buf.length := by
  induction moved with
  | zero => rfl
  | succ moved ih =>
      have same := ih (movable.mono (Nat.le_succ moved))
      obtain ⟨srcFits, dstFits⟩ :=
        movable (moved + 1) (Nat.succ_pos moved) le_rfl
      rw [packed, length_move (by omega) (by omega), same]

/-- The next row to be moved fits into what has been packed before. -/
theorem Movable.fits_packed
    (movable : Movable buf.length rowLength stride (moved + 1)) :
    (moved + 1) * stride + rowLength ≤
        (packed buf rowLength stride moved).length ∧
      (moved + 1) * rowLength + rowLength ≤
        (packed buf rowLength stride moved).length := by
  rw [length_packed (movable.mono (Nat.le_succ moved))]
  exact movable (moved + 1) (Nat.succ_pos moved) le_rfl

/-- The last row that has been moved. -/
theorem getElem?_packed_last
    (movable : Movable buf.length rowLength stride (moved + 1)) {cell : Nat}
    (isCell : cell < rowLength) :
    (packed buf rowLength stride (moved + 1))[
        (moved + 1) * rowLength + cell]? =
      (packed buf rowLength stride moved)[(moved + 1) * stride + cell]? := by
  obtain ⟨srcFits, dstFits⟩ := movable.fits_packed
  exact getElem?_move srcFits dstFits isCell

/-- Rows that have not been moved to yet are as they were. -/
theorem getElem?_packed_of_le
    (movable : Movable buf.length rowLength stride moved) {position : Nat}
    (behind : (moved + 1) * rowLength ≤ position) :
    (packed buf rowLength stride moved)[position]? = buf[position]? := by
  induction moved with
  | zero => rfl
  | succ moved ih =>
      obtain ⟨srcFits, dstFits⟩ := movable.fits_packed
      have next : (moved + 1 + 1) * rowLength =
          (moved + 1) * rowLength + rowLength := Nat.succ_mul _ _
      rw [packed, getElem?_move_of_outside srcFits dstFits (.inr (by omega))]
      exact ih (movable.mono (Nat.le_succ moved)) (by omega)

/-- A row that has been moved stays as it is. -/
theorem getElem?_packed_of_lt {earlier : Nat} (order : earlier ≤ moved)
    (movable : Movable buf.length rowLength stride moved) {position : Nat}
    (inFront : position < (earlier + 1) * rowLength) :
    (packed buf rowLength stride moved)[position]? =
      (packed buf rowLength stride earlier)[position]? := by
  induction moved, order using Nat.le_induction with
  | base => rfl
  | succ moved order ih =>
      obtain ⟨srcFits, dstFits⟩ := movable.fits_packed
      have before : (earlier + 1) * rowLength ≤ (moved + 1) * rowLength :=
        Nat.mul_le_mul_right rowLength (by omega)
      rw [packed, getElem?_move_of_outside srcFits dstFits (.inl (by omega))]
      exact ih (movable.mono (Nat.le_succ moved))

/-- Packing keeps the rows if they do not overlap, or if there are no more
than two: no row is moved over one that is still to be moved. -/
theorem getElem?_packed
    (movable : Movable buf.length rowLength stride moved)
    (apart : rowLength ≤ stride ∨ moved ≤ 1) {row cell : Nat}
    (isRow : row ≤ moved) (isCell : cell < rowLength) :
    (packed buf rowLength stride moved)[row * rowLength + cell]? =
      buf[row * stride + cell]? := by
  have inRow : row * rowLength + cell < (row + 1) * rowLength := by
    rw [Nat.succ_mul]
    omega
  rw [getElem?_packed_of_lt isRow movable inRow]
  cases row with
  | zero => simp only [packed, Nat.zero_mul]
  | succ row =>
      have upTo := movable.mono isRow
      rw [getElem?_packed_last upTo isCell]
      rcases apart with wide | few
      · have behind : (row + 1) * rowLength ≤ (row + 1) * stride :=
          Nat.mul_le_mul_left (row + 1) wide
        exact getElem?_packed_of_le (upTo.mono (Nat.le_succ row)) (by omega)
      · obtain rfl : row = 0 := by omega
        rfl

/-- Of rows that overlap, the third is taken from where the second one has
been moved to. -/
theorem getElem?_packed_third
    (movable : Movable buf.length rowLength stride moved) (third : 2 ≤ moved)
    {cell shift : Nat} (isCell : cell < rowLength)
    (isShift : stride + shift = rowLength)
    (covered : rowLength ≤ 2 * stride + cell)
    (below : 2 * stride + cell < 2 * rowLength) :
    (packed buf rowLength stride moved)[2 * rowLength + cell]? =
      buf[2 * stride + cell - shift]? := by
  have inRow : 2 * rowLength + cell < (2 + 1) * rowLength := by
    omega
  have two := movable.mono third
  have one := movable.mono (Nat.le_of_succ_le third)
  rw [getElem?_packed_of_lt third movable inRow,
    getElem?_packed_last two isCell]
  have inSecond : 2 * stride + cell - rowLength < rowLength := by
    omega
  have second := getElem?_packed_last one inSecond
  have position : (0 + 1) * rowLength + (2 * stride + cell - rowLength) =
      (1 + 1) * stride + cell := by
    omega
  have source : (0 + 1) * stride + (2 * stride + cell - rowLength) =
      2 * stride + cell - shift := by
    omega
  rw [position, source] at second
  exact second

end Packed

/-! ### The rows themselves -/

/-- The rows one after the other. -/
def rowsOf (buf : List α) (rows rowLength stride : Nat) : List α :=
  (List.range rows).flatMap fun row =>
    (buf.drop (row * stride)).take rowLength

/-- A buffer that holds every cell of the rows where it would be without
padding begins with the rows. -/
theorem take_eq_rowsOf {moved : List α} {rows rowLength stride : Nat}
    (same : ∀ row < rows, ∀ cell < rowLength,
      moved[row * rowLength + cell]? = buf[row * stride + cell]?) :
    moved.take (rows * rowLength) = rowsOf buf rows rowLength stride := by
  induction rows with
  | zero => simp [rowsOf]
  | succ rows ih =>
      have earlier : moved.take (rows * rowLength) =
          rowsOf buf rows rowLength stride :=
        ih fun row isRow => same row (Nat.lt_succ_of_lt isRow)
      have last : (moved.drop (rows * rowLength)).take rowLength =
          (buf.drop (rows * stride)).take rowLength := by
        apply List.ext_getElem?
        intro cell
        rcases Nat.lt_or_ge cell rowLength with isCell | beyond
        · rw [List.getElem?_take_of_lt isCell, List.getElem?_drop,
            List.getElem?_take_of_lt isCell, List.getElem?_drop]
          exact same rows (Nat.lt_succ_self rows) cell isCell
        · rw [List.getElem?_take_eq_none beyond,
            List.getElem?_take_eq_none beyond]
      rw [Nat.succ_mul, List.take_add, earlier, last]
      simp [rowsOf, List.range_succ, List.flatMap_append]

end StridedRows
