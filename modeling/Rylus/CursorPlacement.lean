import Rylus.CursorOverlay
import Mathlib.Tactic.Linarith

/-!
# When the cursor is drawn where it is

A cursor image that starts beyond the right or the lower edge of the capture
rectangle is not skipped: the loops then take negative indices.  The frame
gets exactly the cursor if and only if no such index is taken, or it is one
that happens to lead to a transparent pixel of the image, and all indices are
counted in an `i32`.
-/

namespace Rylus

namespace X11

/-! ## Where the cursor is and what it should draw -/

namespace CursorImage

/-- The column of the frame in which the cursor image starts. -/
def left (image : CursorImage) (capX : Int16) : Int :=
  image.x.toInt - image.xhot.toNat - capX.toInt

/-- The row of the frame in which the cursor image starts. -/
def top (image : CursorImage) (capY : Int16) : Int :=
  image.y.toInt - image.yhot.toNat - capY.toInt

/-- The pixel in column `i` and row `j` of the image, if there is one. -/
def pixelAt (image : CursorImage) (i j : Int) : Option UInt32 :=
  if 0 ≤ i ∧ i < image.width.toNat ∧ 0 ≤ j ∧ j < image.height.toNat then
    image.cursorImage[(j * image.width.toNat + i).toNat]?
  else none

end CursorImage

/-- What a frame pixel becomes under a cursor pixel. -/
def overlay (cPixel : UInt32) (dPixel : UInt32) : UInt32 :=
  if 0 < alpha cPixel then blend cPixel dPixel else dPixel

/-- Every frame pixel is blended with the cursor pixel that lies over it and
is unchanged where there is none. -/
def PlacedExactly (image : CursorImage) (capX capY : Int16) {w h : UInt16}
    (before : Frame w h) (after : Array UInt32) : Prop :=
  after.size = before.pixels.size ∧
    ∀ x y : Nat, x < w.toNat → y < h.toNat →
      after[y * w.toNat + x]? =
        before.pixels[y * w.toNat + x]?.map
          (((image.pixelAt (x - image.left capX) (y - image.top capY)).map
            overlay).getD id)

/-- The frame and every index of the cursor image that the loops take can be
counted in an `i32`, and a pixel that is taken from left of the image is
transparent. -/
def StaysInside (image : CursorImage) (capX capY : Int16) (w h : UInt16) :
    Prop :=
  ∀ i j, Visits (image.left capX) image.width w i →
    Visits (image.top capY) image.height h j →
      w.toNat * h.toNat < 2 ^ 31 ∧
        0 ≤ j * image.width.toNat + i ∧
        j * image.width.toNat + i < 2 ^ 31 ∧
        (i < 0 → ∀ cPixel,
          image.cursorImage[(j * image.width.toNat + i).toNat]? =
            some cPixel → alpha cPixel = 0)

/-! ## The steps of the loop -/

theorem compositePixel_eq_none {cursorPixels data : Array UInt32}
    {cursorX cursorY cw w j i : Int32}
    (small : cursorPixels.size < 2 ^ 63) (neg : (j * cw + i).toInt < 0) :
    compositePixel cursorPixels cursorX cursorY cw w data j i = none := by
  have beyond := le_asUsize neg
  have missing : cursorPixels[asUsize (j * cw + i)]? = none :=
    Array.getElem?_eq_none (by omega)
  rw [compositePixel, missing]

theorem compositePixel_transparent {cursorPixels data : Array UInt32}
    {cursorX cursorY cw w j i : Int32} {cPixel : UInt32}
    (read : cursorPixels[asUsize (j * cw + i)]? = some cPixel)
    (transparent : alpha cPixel = 0) :
    compositePixel cursorPixels cursorX cursorY cw w data j i = some data := by
  rw [compositePixel, read]
  dsimp only
  rw [transparent, if_neg (by decide)]

theorem compositePixel_eq_modify {cursorPixels data : Array UInt32}
    {cursorX cursorY cw w j i : Int32} {cPixel : UInt32}
    (read : cursorPixels[asUsize (j * cw + i)]? = some cPixel)
    (inside : asUsize ((j + cursorY) * w + (i + cursorX)) < data.size) :
    compositePixel cursorPixels cursorX cursorY cw w data j i =
      some (data.modify (asUsize ((j + cursorY) * w + (i + cursorX)))
        (overlay cPixel)) := by
  rw [compositePixel, read]
  dsimp only
  generalize asUsize ((j + cursorY) * w + (i + cursorX)) = dst at inside ⊢
  rw [Array.getElem?_eq_getElem inside]
  by_cases covers : 0 < alpha cPixel
  · have same : data.setIfInBounds dst (blend cPixel data[dst]) =
        data.modify dst (overlay cPixel) := by
      apply Array.ext_getElem?
      intro cell
      rw [Array.getElem?_setIfInBounds, Array.getElem?_modify]
      by_cases hit : dst = cell
      · subst hit
        simp [inside, overlay, covers]
      · rw [if_neg hit, if_neg hit]
    rw [if_pos covers]
    exact congrArg some same
  · have same : data = data.modify dst (overlay cPixel) := by
      apply Array.ext_getElem?
      intro cell
      have noChange : overlay cPixel = id := by
        funext dPixel
        rw [overlay, if_neg covers, id]
      rw [Array.getElem?_modify, noChange, Option.map_id, id, ite_self]
    rw [if_neg covers]
    exact congrArg some same

theorem toNat_and_255 (value : UInt32) : (value &&& 255).toNat ≤ 255 := by
  rw [UInt32.toNat_and]
  exact Nat.and_le_right

/-- None of the operations on a channel wraps. -/
theorem toNat_mix {c d a : UInt32} (cByte : c.toNat ≤ 255)
    (dByte : d.toNat ≤ 255) (aByte : a.toNat ≤ 255) :
    (c + d * (255 - a) / 255).toNat =
      c.toNat + d.toNat * (255 - a.toNat) / 255 := by
  have rest : (255 - a).toNat = 255 - a.toNat :=
    UInt32.toNat_sub_of_le _ _ (UInt32.le_iff_toNat_le.mpr aByte)
  have product := Nat.mul_le_mul dByte (show 255 - a.toNat ≤ 255 by omega)
  rw [UInt32.toNat_add, UInt32.toNat_div, UInt32.toNat_mul, rest]
  generalize d.toNat * (255 - a.toNat) = weight at product ⊢
  change (c.toNat + weight % 2 ^ 32 / 255) % 2 ^ 32 = _
  omega

/-- A blended pixel leaves the highest seven bits clear. -/
theorem blend_lt (cPixel dPixel : UInt32) :
    (blend cPixel dPixel).toNat < 2 ^ 25 := by
  have channel : ∀ c d : UInt32, ((c &&& 255) +
      (d &&& 255) * (255 - alpha cPixel) / 255).toNat < 2 ^ 9 := by
    intro c d
    have cSmall := toNat_and_255 c
    have dSmall := toNat_and_255 d
    have aSmall : (alpha cPixel).toNat ≤ 255 := toNat_and_255 _
    have product := Nat.mul_le_mul dSmall
      (show 255 - (alpha cPixel).toNat ≤ 255 by omega)
    rw [toNat_mix cSmall dSmall aSmall]
    omega
  have shifted : ∀ value : UInt32, value.toNat < 2 ^ 9 → ∀ shift : UInt32,
      shift.toNat ≤ 16 → (value <<< shift).toNat < 2 ^ 25 := by
    intro value small shift bound
    rw [UInt32.toNat_shiftLeft, Nat.mod_eq_of_lt (by omega : shift.toNat < 32),
      Nat.shiftLeft_eq]
    have power : 2 ^ shift.toNat ≤ 2 ^ 16 :=
      Nat.pow_le_pow_right (by decide) bound
    have product := Nat.mul_le_mul (Nat.le_of_lt_succ small) power
    exact lt_of_le_of_lt (Nat.mod_le _ _) (by omega)
  rw [blend, UInt32.toNat_or, UInt32.toNat_or]
  apply Nat.or_lt_two_pow
  · apply Nat.or_lt_two_pow
    · exact shifted _ (channel _ _) 16 (by decide)
    · exact shifted _ (channel _ _) 8 (by decide)
  · exact lt_trans (channel cPixel dPixel) (by decide)

/-! ## The loop over the visited pairs -/

theorem exists_mem_clipped (position : Int16) (hot : UInt16) (cap : Int16)
    {length extent : UInt16} {i : Int}
    (visits : Visits (position.toInt - hot.toNat - cap.toInt) length extent
      i) :
    ∃ value ∈ clipped (position.toInt32 - asI32 hot - cap.toInt32) length
      extent, value.toInt = i := by
  have lengthSmall := length.toNat_lt
  have hotSmall := hot.toNat_lt
  have mostPosition := position.toInt_lt
  have leastCap := cap.le_toInt
  have fits : (Int32.ofInt i).toInt = i := by
    rw [Visits] at visits
    exact Int32.toInt_ofInt_of_le (by omega) (by omega)
  refine ⟨Int32.ofInt i, ?_, fits⟩
  rw [mem_clipped_iff, fits]
  exact visits

namespace CursorImage

variable (image : CursorImage) (capX capY : Int16) (w h : UInt16)

def columns : List Int32 :=
  clipped (image.x.toInt32 - asI32 image.xhot - capX.toInt32) image.width w

def rows : List Int32 :=
  clipped (image.y.toInt32 - asI32 image.yhot - capY.toInt32) image.height h

/-- One step of the loop, for a row and a column. -/
def draw (data : Array UInt32) (index : Int32 × Int32) :
    Option (Array UInt32) :=
  compositePixel image.cursorImage
    (image.x.toInt32 - asI32 image.xhot - capX.toInt32)
    (image.y.toInt32 - asI32 image.yhot - capY.toInt32)
    (asI32 image.width) (asI32 w) data index.1 index.2

theorem mem_columns {i : Int32} :
    i ∈ image.columns capX w ↔ Visits (image.left capX) image.width w i.toInt :=
  mem_clipped_iff image.x image.xhot capX image.width w

theorem mem_rows {j : Int32} :
    j ∈ image.rows capY h ↔ Visits (image.top capY) image.height h j.toInt :=
  mem_clipped_iff image.y image.yhot capY image.height h

theorem size_lt : image.cursorImage.size < 2 ^ 32 := by
  have width := image.width.toNat_lt
  have height := image.height.toNat_lt
  have product := Nat.mul_le_mul (Nat.le_of_lt_succ width)
    (Nat.le_of_lt_succ height)
  rw [image.size_eq]
  omega

/-- A row-major index of the image, for a column and a row that the loops take
and the row not negative. -/
theorem index_bounds {i j : Int}
    (column : Visits (image.left capX) image.width w i)
    (row : Visits (image.top capY) image.height h j) (nonneg : 0 ≤ j) :
    -2 ^ 17 ≤ j * image.width.toNat + i ∧
      j * image.width.toNat + i < 2 ^ 32 := by
  have xhotSmall := image.xhot.toNat_lt
  have width := image.width.toNat_lt
  have height := image.height.toNat_lt
  have mostX := image.x.toInt_lt
  have leastCap := capX.le_toInt
  rw [Visits, left] at column
  rw [Visits] at row
  have least : 0 ≤ j * (image.width.toNat : Int) :=
    Int.mul_nonneg nonneg (by omega)
  have most : j * (image.width.toNat : Int) ≤ 65534 * 65535 := by
    apply Int.mul_le_mul
    all_goals omega
  omega

theorem toInt_index {i j : Int32} :
    (j * asI32 image.width + i).toInt =
      (j.toInt * image.width.toNat + i.toInt).bmod (2 ^ 32) := by
  rw [toInt_mul_add, toInt_asI32]

theorem draw_eq_none {i j : Int32}
    (neg : (j * asI32 image.width + i).toInt < 0) (data : Array UInt32) :
    image.draw capX capY w data (j, i) = none := by
  have small := image.size_lt
  exact compositePixel_eq_none (by omega) neg

/-- `compositeCursor` with the visited pairs named. -/
theorem compositeCursor_eq_loop (frame : Array UInt32) :
    compositeCursor image capX.toInt32 capY.toInt32 w h frame =
      if image.columns capX w = [] ∨ image.rows capY h = [] then some frame
      else if asUsize (asI32 w * asI32 h) ≤ frame.size then
        (image.rows capY h ×ˢ image.columns capX w).foldlM
          (image.draw capX capY w) frame
      else none :=
  compositeCursor_eq image capX.toInt32 capY.toInt32 w h frame

end CursorImage

theorem toInt_frameSize (w h : UInt16) :
    (asI32 w * asI32 h).toInt = ((w.toNat * h.toNat : Nat) : Int).bmod
      (2 ^ 32) := by
  rw [Int32.toInt_mul, toInt_asI32, toInt_asI32, Nat.cast_mul]

theorem Frame.size_lt {w h : UInt16} (frame : Frame w h) :
    frame.pixels.size < 2 ^ 32 := by
  have width := w.toNat_lt
  have height := h.toNat_lt
  have product := Nat.mul_le_mul (Nat.le_of_lt_succ width)
    (Nat.le_of_lt_succ height)
  rw [frame.size_eq]
  omega

/-- The slice over the frame is inside the frame. -/
theorem frameSize_le_iff {w h : UInt16} (frame : Frame w h) :
    asUsize (asI32 w * asI32 h) ≤ frame.pixels.size ↔
      w.toNat * h.toNat < 2 ^ 31 := by
  have small := frame.size_lt
  have isSize := toInt_frameSize w h
  rw [frame.size_eq] at small ⊢
  generalize w.toNat * h.toNat = size at isSize small ⊢
  by_cases fits : size < 2 ^ 31
  · rw [Int.bmod_eq_of_le (by omega) (by omega)] at isSize
    rw [asUsize_eq (by omega), isSize]
    omega
  · have neg : (asI32 w * asI32 h).toInt < 0 := by
      rw [isSize, Int.bmod]
      omega
    have beyond := le_asUsize neg
    omega

/-! ## Only if -/

section Needed

variable {image : CursorImage} {capX capY : Int16} {w h : UInt16}
  {frame : Frame w h} {after : Array UInt32}

/-- What a run of the loops that does not fail has gone through. -/
theorem loop_of_compositeCursor {i j : Int32}
    (column : i ∈ image.columns capX w) (row : j ∈ image.rows capY h)
    (runs : compositeCursor image capX.toInt32 capY.toInt32 w h frame.pixels =
      some after) :
    w.toNat * h.toNat < 2 ^ 31 ∧
      (image.rows capY h ×ˢ image.columns capX w).foldlM
        (image.draw capX capY w) frame.pixels = some after := by
  have columns := List.ne_nil_of_mem column
  have rows := List.ne_nil_of_mem row
  rw [image.compositeCursor_eq_loop, if_neg (not_or.mpr ⟨columns, rows⟩)]
    at runs
  split at runs
  next fits => exact ⟨(frameSize_le_iff frame).mp fits, runs⟩
  next => cases runs

theorem index_nonneg {i j : Int32}
    (column : i ∈ image.columns capX w) (row : j ∈ image.rows capY h)
    (runs : compositeCursor image capX.toInt32 capY.toInt32 w h frame.pixels =
      some after) : 0 ≤ (j * asI32 image.width + i).toInt := by
  by_contra neg
  obtain ⟨-, loop⟩ := loop_of_compositeCursor column row runs
  have fails := ArrayWrites.foldlM_eq_none
    (List.mem_product.mpr ⟨row, column⟩)
    (image.draw_eq_none capX capY w (Int.not_le.mp neg)) frame.pixels
  rw [fails] at loop
  cases loop

/-- Rows above the image come down to row -1, whose indices are negative and
too small to wrap. -/
theorem row_nonneg {i j : Int32}
    (column : i ∈ image.columns capX w) (row : j ∈ image.rows capY h)
    (runs : compositeCursor image capX.toInt32 capY.toInt32 w h frame.pixels =
      some after) : 0 ≤ j.toInt := by
  by_contra neg
  have lastRow : (-1 : Int32) ∈ image.rows capY h := by
    rw [CursorImage.mem_rows, Visits] at row ⊢
    have isLast : (-1 : Int32).toInt = -1 := rfl
    rw [isLast]
    omega
  have nonneg := index_nonneg column lastRow runs
  have width := image.width.toNat_lt
  have xhotSmall := image.xhot.toNat_lt
  have mostX := image.x.toInt_lt
  have leastCap := capX.le_toInt
  rw [CursorImage.mem_columns, Visits, CursorImage.left] at column
  have isIndex := image.toInt_index (i := i) (j := -1)
  have isLast : (-1 : Int32).toInt = -1 := rfl
  rw [isLast, Int.bmod_eq_of_le (by omega) (by omega)] at isIndex
  omega

/-- The indices of the image that a run has read. -/
theorem index_of_compositeCursor {i j : Int32}
    (column : i ∈ image.columns capX w) (row : j ∈ image.rows capY h)
    (runs : compositeCursor image capX.toInt32 capY.toInt32 w h frame.pixels =
      some after) :
    0 ≤ j.toInt * image.width.toNat + i.toInt ∧
      j.toInt * image.width.toNat + i.toInt < 2 ^ 31 := by
  have nonneg := index_nonneg column row runs
  have bounds := image.index_bounds capX capY w h
    ((image.mem_columns capX w).mp column) ((image.mem_rows capY h).mp row)
    (row_nonneg column row runs)
  rw [CursorImage.toInt_index, Int.bmod] at nonneg
  omega

/-- Some pixel has its highest seven bits clear. -/
def HasBlended (data : Array UInt32) : Prop :=
  ∃ (cell : Nat) (pixel : UInt32), data[cell]? = some pixel ∧
    pixel.toNat < 2 ^ 25

theorem hasBlended_set {data : Array UInt32} {cell : Nat}
    (inside : cell < data.size) (cPixel dPixel : UInt32) :
    HasBlended (data.setIfInBounds cell (blend cPixel dPixel)) := by
  refine ⟨cell, blend cPixel dPixel, ?_, blend_lt cPixel dPixel⟩
  rw [Array.getElem?_setIfInBounds, if_pos rfl, if_pos inside]

/-- A step either leaves the data as they are, at a transparent pixel, or
leaves a blended pixel in them. -/
theorem draw_cases {data next : Array UInt32} {index : Int32 × Int32}
    (taken : image.draw capX capY w data index = some next) :
    (next = data ∧ ∃ cPixel, image.cursorImage[asUsize
        (index.1 * asI32 image.width + index.2)]? = some cPixel ∧
          alpha cPixel = 0) ∨
      HasBlended next := by
  rw [CursorImage.draw, compositePixel] at taken
  split at taken
  next => cases taken
  next cPixel read =>
    split at taken
    next covers =>
      dsimp only at taken
      split at taken
      next => cases taken
      next dPixel present =>
        cases taken
        obtain ⟨inside, -⟩ := Array.getElem?_eq_some_iff.mp present
        exact .inr (hasBlended_set inside cPixel dPixel)
    next transparent =>
      cases taken
      refine .inl ⟨rfl, cPixel, read, ?_⟩
      rw [UInt32.lt_iff_toNat_lt] at transparent
      exact UInt32.toNat_inj.mp (Nat.eq_zero_of_not_pos transparent)

/-- Over a frame of which every pixel has one of its highest bits set, a pixel
that is not transparent leaves a trace. -/
theorem hasBlended_of_compositeCursor {i j : Int32} {cPixel : UInt32}
    (column : i ∈ image.columns capX w) (row : j ∈ image.rows capY h)
    (read : image.cursorImage[asUsize (j * asI32 image.width + i)]? =
      some cPixel)
    (covers : alpha cPixel ≠ 0)
    (runs : compositeCursor image capX.toInt32 capY.toInt32 w h frame.pixels =
      some after) : HasBlended after := by
  obtain ⟨-, loop⟩ := loop_of_compositeCursor column row runs
  refine ArrayWrites.foldlM_establishes
    (List.mem_product.mpr ⟨row, column⟩) ?_ ?_ loop
  · intro data next taken
    rcases draw_cases taken with ⟨-, cPixel', read', transparent⟩ | blended
    · rw [read] at read'
      cases read'
      exact absurd transparent covers
    · exact blended
  · intro index _ data next blended taken
    rcases draw_cases taken with ⟨rfl, -⟩ | blended
    · exact blended
    · exact blended

end Needed

/-- A frame with the highest bits of every pixel set. -/
def markedFrame (w h : UInt16) : Frame w h where
  pixels := Array.replicate (w.toNat * h.toNat) 0xff000000
  size_eq := Array.size_replicate

/-- Nothing lies under a cursor that starts beyond the right edge. -/
theorem eq_of_placedExactly {image : CursorImage} {capX capY : Int16}
    {w h : UInt16} {frame : Frame w h} {after : Array UInt32}
    (beyond : (w.toNat : Int) < image.left capX)
    (placed : PlacedExactly image capX capY frame after) :
    after = frame.pixels := by
  apply Array.ext_getElem?
  intro cell
  obtain ⟨sameSize, pixels⟩ := placed
  by_cases inside : cell < frame.pixels.size
  · have inside' := inside
    rw [frame.size_eq] at inside'
    have positive : 0 < w.toNat := by
      by_contra zero
      rw [Nat.eq_zero_of_not_pos zero] at inside'
      omega
    have column := Nat.mod_lt cell positive
    have row : cell / w.toNat < h.toNat :=
      Nat.div_lt_of_lt_mul inside'
    have pixel := pixels (cell % w.toNat) (cell / w.toNat) column row
    have none : image.pixelAt ((cell % w.toNat : Nat) - image.left capX)
        ((cell / w.toNat : Nat) - image.top capY) = none := by
      rw [CursorImage.pixelAt, if_neg]
      omega
    rw [none, Nat.div_add_mod'] at pixel
    simpa using pixel
  · rw [Array.getElem?_eq_none (by omega), Array.getElem?_eq_none (by omega)]

theorem not_hasBlended_markedFrame (w h : UInt16) :
    ¬ HasBlended (markedFrame w h).pixels := by
  rintro ⟨cell, pixel, present, small⟩
  obtain ⟨inside, isPixel⟩ := Array.getElem?_eq_some_iff.mp present
  simp only [markedFrame, Array.getElem_replicate] at isPixel
  rw [← isPixel] at small
  revert small
  decide

theorem staysInside_of_placedExactly {image : CursorImage}
    {capX capY : Int16} {w h : UInt16}
    (exact' : ∀ frame : Frame w h, ∃ after,
      compositeCursor image capX.toInt32 capY.toInt32 w h frame.pixels =
          some after ∧
        PlacedExactly image capX capY frame after) :
    StaysInside image capX capY w h := by
  intro i j column row
  obtain ⟨i, iMember, rfl⟩ := exists_mem_clipped _ _ _ column
  obtain ⟨j, jMember, rfl⟩ := exists_mem_clipped _ _ _ row
  obtain ⟨after, runs, placed⟩ := exact' (markedFrame w h)
  obtain ⟨small, -⟩ := loop_of_compositeCursor iMember jMember runs
  obtain ⟨least, most⟩ := index_of_compositeCursor iMember jMember runs
  refine ⟨small, least, most, ?_⟩
  intro neg cPixel read
  by_contra covers
  have isIndex := image.toInt_index (i := i) (j := j)
  rw [Int.bmod_eq_of_le (by omega) (by omega)] at isIndex
  have blended : HasBlended after := by
    refine hasBlended_of_compositeCursor iMember jMember ?_ covers runs
    rw [asUsize_eq (by omega), isIndex]
    exact read
  have beyond : (w.toNat : Int) < image.left capX := by
    rw [Visits] at column
    omega
  rw [eq_of_placedExactly beyond placed] at blended
  exact not_hasBlended_markedFrame w h blended

/-! ## If -/

section Enough

variable {image : CursorImage} {capX capY : Int16} {w h : UInt16}

theorem CursorImage.pixelAt_eq {i j : Int} (column : 0 ≤ i)
    (width : i < image.width.toNat) (row : 0 ≤ j)
    (height : j < image.height.toNat) :
    image.pixelAt i j =
      image.cursorImage[(j * image.width.toNat + i).toNat]? := by
  rw [pixelAt, if_pos ⟨column, width, row, height⟩]

/-- Row-major indices are different for different cells. -/
theorem rowMajor_inj {length x y x' y' : Int} (xNonneg : 0 ≤ x)
    (xSmall : x < length) (xNonneg' : 0 ≤ x') (xSmall' : x' < length)
    (same : y * length + x = y' * length + x') : x = x' ∧ y = y' := by
  have rows : y = y' := by
    rcases lt_trichotomy y y' with less | equal | more
    · nlinarith
    · exact equal
    · nlinarith
  subst rows
  exact ⟨by omega, rfl⟩

/-- The cell of the frame over which an index of the image lies. -/
def CursorImage.cellOf (image : CursorImage) (capX capY : Int16) (w : UInt16)
    (index : Int32 × Int32) : Nat :=
  ((index.1.toInt + image.top capY) * w.toNat +
    (index.2.toInt + image.left capX)).toNat

/-- What a step does to its cell. -/
def CursorImage.updateOf (image : CursorImage) (index : Int32 × Int32) :
    UInt32 → UInt32 :=
  ((image.pixelAt index.2.toInt index.1.toInt).map overlay).getD id

/-- The rows that the loops take are rows of the image. -/
theorem row_inside (inside : StaysInside image capX capY w h) {i j : Int}
    (column : Visits (image.left capX) image.width w i)
    (row : Visits (image.top capY) image.height h j) :
    0 ≤ j ∧ j < image.height.toNat ∧ 0 ≤ image.top capY + j ∧
      image.top capY + j < h.toNat := by
  obtain ⟨-, least, -, -⟩ := inside i j column row
  have nonneg : 0 ≤ j := by
    by_contra neg
    have width : (i : Int) < image.width.toNat ∨ i < 0 := by
      rw [Visits] at column
      omega
    have below : j * (image.width.toNat : Int) ≤ -1 * image.width.toNat :=
      Int.mul_le_mul_of_nonneg_right (by omega) (by omega)
    omega
  rw [Visits] at row
  omega

theorem cell_lt {x y : Int} (xNonneg : 0 ≤ x) (xSmall : x < w.toNat)
    (yNonneg : 0 ≤ y) (ySmall : y < h.toNat) :
    0 ≤ y * w.toNat + x ∧
      y * w.toNat + x < (w.toNat * h.toNat : Nat) := by
  have least : 0 ≤ y * (w.toNat : Int) := Int.mul_nonneg yNonneg (by omega)
  have most : (y + 1) * (w.toNat : Int) ≤ h.toNat * w.toNat :=
    Int.mul_le_mul_of_nonneg_right (by omega) (by omega)
  rw [Nat.mul_comm, Nat.cast_mul]
  constructor
  · omega
  · linarith

theorem toInt_add_of_fits {a b : Int32} (least : -2 ^ 31 ≤ a.toInt + b.toInt)
    (most : a.toInt + b.toInt < 2 ^ 31) :
    (a + b).toInt = a.toInt + b.toInt := by
  rw [Int32.toInt_add]
  exact Int.bmod_eq_of_le (by omega) (by omega)

/-- What the step at a visited pair reads of the cursor image. -/
theorem read_eq (inside : StaysInside image capX capY w h) {i j : Int32}
    (column : i ∈ image.columns capX w) (row : j ∈ image.rows capY h) :
    image.cursorImage[asUsize (j * asI32 image.width + i)]? =
      image.cursorImage[
        (j.toInt * image.width.toNat + i.toInt).toNat]? := by
  rw [CursorImage.mem_columns] at column
  rw [CursorImage.mem_rows] at row
  obtain ⟨-, least, most, -⟩ := inside i.toInt j.toInt column row
  have isIndex := image.toInt_index (i := i) (j := j)
  rw [Int.bmod_eq_of_le (by omega) (by omega)] at isIndex
  rw [asUsize_eq (by omega), isIndex]

/-- Every index of the image that the loops take is that of a pixel. -/
theorem exists_read (inside : StaysInside image capX capY w h) {i j : Int32}
    (column : i ∈ image.columns capX w) (row : j ∈ image.rows capY h) :
    ∃ cPixel, image.cursorImage[
      (j.toInt * image.width.toNat + i.toInt).toNat]? = some cPixel := by
  rw [CursorImage.mem_columns] at column
  rw [CursorImage.mem_rows] at row
  obtain ⟨-, least, -, -⟩ := inside i.toInt j.toInt column row
  obtain ⟨-, height, -, -⟩ := row_inside inside column row
  have width : i.toInt < image.width.toNat := by
    rw [Visits] at column
    omega
  have most : (j.toInt + 1) * (image.width.toNat : Int) ≤
      image.height.toNat * image.width.toNat :=
    Int.mul_le_mul_of_nonneg_right (by omega) (by omega)
  have isSize : (image.cursorImage.size : Int) =
      image.height.toNat * image.width.toNat := by
    rw [image.size_eq, Nat.mul_comm, Nat.cast_mul]
  refine ⟨_, Array.getElem?_eq_getElem ?_⟩
  rw [Int.add_mul, Int.one_mul] at most
  omega

/-- The index of a frame pixel does not wrap. -/
theorem asUsize_target {startX startY i j : Int32}
    (small : w.toNat * h.toNat < 2 ^ 31)
    (xNonneg : 0 ≤ i.toInt + startX.toInt)
    (xSmall : i.toInt + startX.toInt < w.toNat)
    (yNonneg : 0 ≤ j.toInt + startY.toInt)
    (ySmall : j.toInt + startY.toInt < h.toNat) :
    asUsize ((j + startY) * asI32 w + (i + startX)) =
      ((j.toInt + startY.toInt) * w.toNat +
        (i.toInt + startX.toInt)).toNat := by
  have wSmall := w.toNat_lt
  have hSmall := h.toNat_lt
  have isY := @toInt_add_of_fits j startY (by omega) (by omega)
  have isX := @toInt_add_of_fits i startX (by omega) (by omega)
  obtain ⟨cellNonneg, cellSmall⟩ := cell_lt xNonneg xSmall yNonneg ySmall
  have isCell := toInt_mul_add (j + startY) (asI32 w) (i + startX)
  rw [isY, isX, toInt_asI32, Int.bmod_eq_of_le (by omega) (by omega)]
    at isCell
  rw [asUsize_eq (by omega), isCell]

theorem draw_eq_modify (inside : StaysInside image capX capY w h)
    {i j : Int32} (column : i ∈ image.columns capX w)
    (row : j ∈ image.rows capY h) (nonneg : 0 ≤ i.toInt)
    {data : Array UInt32} (isSize : data.size = w.toNat * h.toNat) :
    image.draw capX capY w data (j, i) =
      some (data.modify (image.cellOf capX capY w (j, i))
        (image.updateOf (j, i))) := by
  obtain ⟨cPixel, read⟩ := exists_read inside column row
  have read' := (read_eq inside column row).trans read
  rw [CursorImage.mem_columns] at column
  rw [CursorImage.mem_rows] at row
  obtain ⟨small, -, -, -⟩ := inside i.toInt j.toInt column row
  obtain ⟨jNonneg, height, yNonneg, ySmall⟩ := row_inside inside column row
  rw [Visits] at column
  have isUpdate : image.updateOf (j, i) = overlay cPixel := by
    rw [CursorImage.updateOf, CursorImage.pixelAt_eq nonneg (by omega)
      jNonneg height, read]
    rfl
  have isLeft : _ = image.left capX := toInt_start image.x image.xhot capX
  have isTop : _ = image.top capY := toInt_start image.y image.yhot capY
  obtain ⟨cellNonneg, cellSmall⟩ :=
    @cell_lt w h (i.toInt + image.left capX) (j.toInt + image.top capY)
      (by omega) (by omega) (by omega) (by omega)
  rw [CursorImage.draw, isUpdate, CursorImage.cellOf]
  dsimp only
  rw [← isLeft, ← isTop] at cellNonneg cellSmall ⊢
  generalize image.x.toInt32 - asI32 image.xhot - capX.toInt32 = startX
    at isLeft cellNonneg cellSmall ⊢
  generalize image.y.toInt32 - asI32 image.yhot - capY.toInt32 = startY
    at isTop cellNonneg cellSmall ⊢
  have isTarget := @asUsize_target w h startX startY i j small
    (by omega) (by omega) (by omega) (by omega)
  rw [← isTarget]
  exact compositePixel_eq_modify read' (by omega)

theorem draw_eq_self (inside : StaysInside image capX capY w h)
    {i j : Int32} (column : i ∈ image.columns capX w)
    (row : j ∈ image.rows capY h) (neg : i.toInt < 0)
    (data : Array UInt32) :
    image.draw capX capY w data (j, i) = some data := by
  obtain ⟨cPixel, read⟩ := exists_read inside column row
  have read' := (read_eq inside column row).trans read
  rw [CursorImage.mem_columns] at column
  rw [CursorImage.mem_rows] at row
  obtain ⟨-, -, -, transparent⟩ := inside i.toInt j.toInt column row
  exact compositePixel_transparent read' (transparent neg cPixel read)

theorem pixelAt_eq_none_of_beyond {x : Nat} {j : Int}
    (beyond : (w.toNat : Int) < image.left capX) (column : x < w.toNat) :
    image.pixelAt (x - image.left capX) j = none := by
  rw [CursorImage.pixelAt, if_neg]
  omega

/-- Where a pixel of the image lies over the frame, the loops take it. -/
theorem exists_visited {x y : Nat} {cPixel : UInt32} (column : x < w.toNat)
    (row : y < h.toNat)
    (covered : image.pixelAt (x - image.left capX) (y - image.top capY) =
      some cPixel) :
    ∃ i ∈ image.columns capX w, ∃ j ∈ image.rows capY h,
      i.toInt = x - image.left capX ∧ j.toInt = y - image.top capY := by
  rw [CursorImage.pixelAt] at covered
  split at covered
  next inImage =>
    have visitsColumn : Visits (image.left capX) image.width w
        (x - image.left capX) := by
      rw [Visits]
      omega
    have visitsRow : Visits (image.top capY) image.height h
        (y - image.top capY) := by
      rw [Visits]
      omega
    obtain ⟨i, iMember, isColumn⟩ := exists_mem_clipped _ _ _ visitsColumn
    obtain ⟨j, jMember, isRow⟩ := exists_mem_clipped _ _ _ visitsRow
    exact ⟨i, iMember, j, jMember, isColumn, isRow⟩
  next => cases covered

/-- An unchanged frame is right when no pixel of the image lies over it. -/
theorem placedExactly_self (frame : Frame w h)
    (apart : ∀ x y : Nat, x < w.toNat → y < h.toNat →
      image.pixelAt (x - image.left capX) (y - image.top capY) = none) :
    PlacedExactly image capX capY frame frame.pixels := by
  refine ⟨rfl, ?_⟩
  intro x y column row
  rw [apart x y column row]
  simp

/-- The frame after the loops of a cursor that starts before the right edge. -/
theorem placedExactly_foldl (inside : StaysInside image capX capY w h)
    (before : image.left capX ≤ w.toNat) (frame : Frame w h) :
    PlacedExactly image capX capY frame
      ((image.rows capY h ×ˢ image.columns capX w).foldl
        (fun data index => data.modify (image.cellOf capX capY w index)
          (image.updateOf index)) frame.pixels) := by
  -- the frame coordinates of a visited pair
  have bounds : ∀ index ∈ image.rows capY h ×ˢ image.columns capX w,
      0 ≤ index.2.toInt + image.left capX ∧
        index.2.toInt + image.left capX < w.toNat ∧
        0 ≤ index.1.toInt + image.top capY ∧
        index.1.toInt + image.top capY < h.toNat := by
    rintro ⟨j, i⟩ member
    obtain ⟨row, column⟩ := List.mem_product.mp member
    rw [CursorImage.mem_columns] at column
    rw [CursorImage.mem_rows] at row
    have rowInside := row_inside inside column row
    rw [Visits] at column
    dsimp only
    omega
  have cellNonneg : ∀ index ∈ image.rows capY h ×ˢ image.columns capX w,
      0 ≤ (index.1.toInt + image.top capY) * (w.toNat : Int) +
        (index.2.toInt + image.left capX) := by
    intro index member
    obtain ⟨xNonneg, xSmall, yNonneg, ySmall⟩ := bounds index member
    exact (cell_lt xNonneg xSmall yNonneg ySmall).1
  have distinct : (image.rows capY h ×ˢ image.columns capX w).Nodup :=
    List.Nodup.product (nodup_rangeI32 _ _) (nodup_rangeI32 _ _)
  have injective : ∀ one ∈ image.rows capY h ×ˢ image.columns capX w,
      ∀ other ∈ image.rows capY h ×ˢ image.columns capX w,
        image.cellOf capX capY w one = image.cellOf capX capY w other →
          one = other := by
    intro one oneMember other otherMember same
    have oneBounds := bounds one oneMember
    have otherBounds := bounds other otherMember
    have oneNonneg := cellNonneg one oneMember
    have otherNonneg := cellNonneg other otherMember
    rw [CursorImage.cellOf, CursorImage.cellOf] at same
    obtain ⟨sameX, sameY⟩ := rowMajor_inj oneBounds.1 oneBounds.2.1
      otherBounds.1 otherBounds.2.1
      ((Int.toNat_of_nonneg oneNonneg).symm.trans
        ((congrArg Int.ofNat same).trans (Int.toNat_of_nonneg otherNonneg)))
    apply Prod.ext
    · exact Int32.toInt_inj.mp (by omega)
    · exact Int32.toInt_inj.mp (by omega)
  refine ⟨ArrayWrites.size_foldl_modify _, ?_⟩
  intro x y column row
  have isCell : ((y * w.toNat + x : Nat) : Int) = y * w.toNat + x := by
    push_cast
    rfl
  cases covered : image.pixelAt (x - image.left capX) (y - image.top capY) with
  | none =>
      rw [ArrayWrites.getElem?_foldl_modify_of_ne]
      · simp
      · rintro ⟨j, i⟩ member same
        obtain ⟨xNonneg, xSmall, yNonneg, ySmall⟩ := bounds _ member
        have nonneg := cellNonneg _ member
        rw [CursorImage.cellOf] at same
        obtain ⟨sameX, sameY⟩ := rowMajor_inj xNonneg xSmall
          (Int.natCast_nonneg x) (Int.ofNat_lt.mpr column)
          ((Int.toNat_of_nonneg nonneg).symm.trans
            ((congrArg Int.ofNat same).trans isCell))
        obtain ⟨rowMember, columnMember⟩ := List.mem_product.mp member
        obtain ⟨cPixel, read⟩ := exists_read inside columnMember rowMember
        rw [CursorImage.mem_columns] at columnMember
        rw [CursorImage.mem_rows] at rowMember
        have rowInside := row_inside inside columnMember rowMember
        rw [Visits] at columnMember
        dsimp only at sameX sameY
        rw [← sameX, ← sameY, Int.add_sub_cancel, Int.add_sub_cancel,
          CursorImage.pixelAt_eq (by omega) (by omega) (by omega) (by omega),
          read] at covered
        cases covered
  | some cPixel =>
      obtain ⟨i, iMember, j, jMember, isColumn, isRow⟩ :=
        exists_visited column row covered
      have member : (j, i) ∈ image.rows capY h ×ˢ image.columns capX w :=
        List.mem_product.mpr ⟨jMember, iMember⟩
      have target : image.cellOf capX capY w (j, i) = y * w.toNat + x := by
        rw [CursorImage.cellOf]
        dsimp only
        rw [isColumn, isRow, Int.sub_add_cancel, Int.sub_add_cancel]
        omega
      have update : image.updateOf (j, i) = overlay cPixel := by
        rw [CursorImage.updateOf]
        dsimp only
        rw [isColumn, isRow, covered]
        rfl
      rw [← target, ArrayWrites.getElem?_foldl_modify member distinct
        injective, update]
      rfl

theorem placedExactly_of_staysInside
    (inside : StaysInside image capX capY w h) (frame : Frame w h) :
    ∃ after, compositeCursor image capX.toInt32 capY.toInt32 w h
        frame.pixels = some after ∧
      PlacedExactly image capX capY frame after := by
  rw [CursorImage.compositeCursor_eq_loop]
  by_cases skipped : image.columns capX w = [] ∨ image.rows capY h = []
  · rw [if_pos skipped]
    refine ⟨_, rfl, placedExactly_self frame ?_⟩
    intro x y column row
    by_contra covered
    obtain ⟨cPixel, covered⟩ := Option.ne_none_iff_exists'.mp covered
    obtain ⟨i, iMember, j, jMember, -, -⟩ := exists_visited column row covered
    rcases skipped with none | none
    · simp [none] at iMember
    · simp [none] at jMember
  · obtain ⟨columns, rows⟩ := not_or.mp skipped
    obtain ⟨i, iMember⟩ := List.exists_mem_of_ne_nil _ columns
    obtain ⟨j, jMember⟩ := List.exists_mem_of_ne_nil _ rows
    obtain ⟨small, -⟩ := inside i.toInt j.toInt
      ((image.mem_columns capX w).mp iMember)
      ((image.mem_rows capY h).mp jMember)
    rw [if_neg skipped, if_pos ((frameSize_le_iff frame).mpr small)]
    by_cases beyond : (w.toNat : Int) < image.left capX
    · refine ⟨frame.pixels, ArrayWrites.foldlM_eq_self ?_,
        placedExactly_self frame fun x y column _ =>
          pixelAt_eq_none_of_beyond beyond column⟩
      rintro ⟨j, i⟩ member
      obtain ⟨row, column⟩ := List.mem_product.mp member
      refine draw_eq_self inside column row ?_ _
      rw [CursorImage.mem_columns, Visits] at column
      omega
    · refine ⟨_, ArrayWrites.foldlM_eq_foldl_modify ?_ frame.size_eq,
        placedExactly_foldl inside (Int.not_lt.mp beyond) frame⟩
      rintro ⟨j, i⟩ member data isSize
      obtain ⟨row, column⟩ := List.mem_product.mp member
      refine draw_eq_modify inside column row ?_ isSize
      rw [CursorImage.mem_columns, Visits] at column
      omega

end Enough

/-- Over every frame the cursor is drawn exactly where it is, without an
access out of range, if and only if its placement keeps the loops inside. -/
theorem compositeCursor_placedExactly_iff (image : CursorImage)
    (capX capY : Int16) (w h : UInt16) :
    (∀ frame : Frame w h, ∃ after,
      compositeCursor image capX.toInt32 capY.toInt32 w h frame.pixels =
          some after ∧
        PlacedExactly image capX capY frame after) ↔
      StaysInside image capX capY w h :=
  ⟨staysInside_of_placedExactly, placedExactly_of_staysInside⟩

/-- A cursor of one pixel, one column to the right of a rectangle of one
pixel. -/
def cursorBeside : CursorImage :=
  ⟨2, 0, 1, 1, 0, 0, #[0xffffffff], rfl⟩

/-- The loops read column -1 of the cursor image. -/
theorem compositeCursor_beside :
    ¬ ∀ (image : CursorImage) (capX capY : Int16) (w h : UInt16)
        (frame : Frame w h), ∃ after,
      compositeCursor image capX.toInt32 capY.toInt32 w h frame.pixels =
          some after ∧
        PlacedExactly image capX capY frame after := by
  intro exact'
  obtain ⟨after, runs, -⟩ := exact' cursorBeside 0 0 1 1 ⟨#[0], rfl⟩
  have fails : compositeCursor cursorBeside 0 0 1 1 #[0] = none := by
    decide
  cases fails.symm.trans runs

end X11

end Rylus
