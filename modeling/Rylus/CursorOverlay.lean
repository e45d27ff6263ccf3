import Mathlib.Algebra.Group.Nat.Defs
import Mathlib.Algebra.Ring.Int.Defs
import Rylus.ArrayWrites

/-!
# The cursor drawn into a captured frame

`composite_cursor` clips the cursor image to the capture rectangle and blends
each pixel that is left over the frame in the shared memory.  All of its
coordinates are `i32`.
-/

namespace Rylus

namespace X11

/-- `xfixes::GetCursorImageReply`: the connection delivers as many pixels as
the size says. -/
structure CursorImage where
  x : Int16
  y : Int16
  width : UInt16
  height : UInt16
  xhot : UInt16
  yhot : UInt16
  cursorImage : Array UInt32
  size_eq : cursorImage.size = width.toNat * height.toNat

/-- The frame in the shared memory, one word for a pixel. -/
structure Frame (width height : UInt16) where
  pixels : Array UInt32
  size_eq : pixels.size = width.toNat * height.toNat

/-- `as i32` of an unsigned 16-bit number. -/
def asI32 (value : UInt16) : Int32 :=
  Int32.ofNat value.toNat

/-- `as usize` of an `i32`, which extends the sign. -/
def asUsize (value : Int32) : Nat :=
  (value.toInt % 2 ^ 64).toNat

/-- `first..last`. -/
def rangeI32 (first last : Int32) : List Int32 :=
  (List.range (last.toInt - first.toInt).toNat).map fun offset : Nat =>
    Int32.ofInt (first.toInt + offset)

def alpha (cPixel : UInt32) : UInt32 :=
  (cPixel >>> 24) &&& 0xff

/-- A cursor pixel, premultiplied with alpha, over a frame pixel.  The channels
are at most 255, so that none of the sums and products overflows. -/
def blend (cPixel dPixel : UInt32) : UInt32 :=
  let a := alpha cPixel
  let cR := (cPixel >>> 16) &&& 0xff
  let cG := (cPixel >>> 8) &&& 0xff
  let cB := cPixel &&& 0xff
  let dR := (dPixel >>> 16) &&& 0xff
  let dG := (dPixel >>> 8) &&& 0xff
  let dB := dPixel &&& 0xff
  let fR := cR + dR * (255 - a) / 255
  let fG := cG + dG * (255 - a) / 255
  let fB := cB + dB * (255 - a) / 255
  (fR <<< 16) ||| (fG <<< 8) ||| fB

/-- The body of the loops of `composite_cursor`; `none` when an index is out
of range. -/
def compositePixel (cursorPixels : Array UInt32)
    (cursorX cursorY cw w : Int32) (data : Array UInt32) (j i : Int32) :
    Option (Array UInt32) :=
  match cursorPixels[asUsize (j * cw + i)]? with
  | none => none
  | some cPixel =>
      if 0 < alpha cPixel then
        let dstIdx := asUsize ((j + cursorY) * w + (i + cursorX))
        match data[dstIdx]? with
        | none => none
        | some dPixel =>
            some (data.setIfInBounds dstIdx (blend cPixel dPixel))
      else some data

/-- `composite_cursor` once the X server has answered.  The slice over the
shared memory is within it only if it has no more than the `frame`'s pixels;
`none` stands for any access out of range.  `i32` arithmetic wraps as in a
release build. -/
def compositeCursor (cursorImg : CursorImage) (capX capY : Int32)
    (capWidth capHeight : UInt16) (frame : Array UInt32) :
    Option (Array UInt32) :=
  let cursorX := cursorImg.x.toInt32 - asI32 cursorImg.xhot - capX
  let cursorY := cursorImg.y.toInt32 - asI32 cursorImg.yhot - capY
  let cw := asI32 cursorImg.width
  let ch := asI32 cursorImg.height
  let w := asI32 capWidth
  let h := asI32 capHeight
  let i0 := min (min (max 0 (-cursorX)) (w - cursorX)) cw
  let i1 := max (min cw (w - cursorX)) 0
  let j0 := min (min (max 0 (-cursorY)) (h - cursorY)) ch
  let j1 := max (min ch (h - cursorY)) 0
  if i1 ≤ i0 ∨ j1 ≤ j0 then some frame
  else if asUsize (w * h) ≤ frame.size then
    (rangeI32 j0 j1).foldlM (fun data j =>
      (rangeI32 i0 i1).foldlM (fun data i =>
        compositePixel cursorImg.cursorImage cursorX cursorY cw w data j i)
        data) frame
  else none

/-! ## `i32` numbers that do not wrap -/

@[simp]
theorem toInt_asI32 (value : UInt16) : (asI32 value).toInt = value.toNat := by
  have small := value.toNat_lt
  rw [asI32, Int32.toInt_ofNat_of_lt (by omega)]

theorem toInt_sub_of_fits {a b : Int32} (least : -2 ^ 31 ≤ a.toInt - b.toInt)
    (most : a.toInt - b.toInt < 2 ^ 31) :
    (a - b).toInt = a.toInt - b.toInt := by
  rw [Int32.toInt_sub]
  exact Int.bmod_eq_of_le (by omega) (by omega)

theorem toInt_neg_of_fits {a : Int32} (least : -2 ^ 31 < a.toInt) :
    (-a).toInt = -a.toInt := by
  have most := a.toInt_lt
  rw [Int32.toInt_neg]
  exact Int.bmod_eq_of_le (by omega) (by omega)

theorem toInt_max (a b : Int32) : (max a b).toInt = max a.toInt b.toInt := by
  change (if a ≤ b then b else a).toInt = _
  split
  next le => rw [Int32.le_iff_toInt_le] at le; omega
  next gt => rw [Int32.le_iff_toInt_le] at gt; omega

theorem toInt_min (a b : Int32) : (min a b).toInt = min a.toInt b.toInt := by
  change (if a ≤ b then a else b).toInt = _
  split
  next le => rw [Int32.le_iff_toInt_le] at le; omega
  next gt => rw [Int32.le_iff_toInt_le] at gt; omega

/-- `row * length + col`, which wraps only beyond 31 bits. -/
theorem toInt_mul_add (row length col : Int32) :
    (row * length + col).toInt =
      (row.toInt * length.toInt + col.toInt).bmod (2 ^ 32) := by
  rw [Int32.toInt_add, Int32.toInt_mul, Int.bmod_add_bmod]

theorem asUsize_eq {value : Int32} (nonneg : 0 ≤ value.toInt) :
    asUsize value = value.toInt.toNat := by
  have most := value.toInt_lt
  rw [asUsize]
  omega

/-- A negative index is far beyond every array. -/
theorem le_asUsize {value : Int32} (neg : value.toInt < 0) :
    2 ^ 63 ≤ asUsize value := by
  have least := value.le_toInt
  rw [asUsize]
  omega

@[simp]
theorem mem_rangeI32 {first last value : Int32} :
    value ∈ rangeI32 first last ↔
      first.toInt ≤ value.toInt ∧ value.toInt < last.toInt := by
  have least := first.le_toInt
  have most := last.toInt_lt
  simp only [rangeI32, List.mem_map, List.mem_range]
  constructor
  · rintro ⟨offset, inside, rfl⟩
    rw [Int32.toInt_ofInt_of_le (by omega) (by omega)]
    omega
  · intro inside
    refine ⟨(value.toInt - first.toInt).toNat, by omega, ?_⟩
    rw [← Int32.toInt_inj, Int32.toInt_ofInt_of_le]
    all_goals omega

theorem nodup_rangeI32 (first last : Int32) : (rangeI32 first last).Nodup := by
  have least := first.le_toInt
  have most := last.toInt_lt
  refine List.Nodup.map_on ?_ List.nodup_range
  intro one oneInside other otherInside same
  have oneInside := List.mem_range.mp oneInside
  have otherInside := List.mem_range.mp otherInside
  have same := congrArg Int32.toInt same
  rw [Int32.toInt_ofInt_of_le (by omega) (by omega),
    Int32.toInt_ofInt_of_le (by omega) (by omega)] at same
  omega

theorem rangeI32_eq_nil {first last : Int32} :
    rangeI32 first last = [] ↔ last ≤ first := by
  rw [rangeI32, List.map_eq_nil_iff, List.range_eq_nil,
    Int32.le_iff_toInt_le]
  omega

/-! ## The clipped ranges -/

/-- The indices of an image line that a clipped loop takes when the line has
`length` pixels and starts at `start` of `extent` pixels: those inside both
and, when the line starts beyond the extent, the negative ones down to
`extent - start`. -/
def Visits (start : Int) (length extent : UInt16) (i : Int) : Prop :=
  (0 ≤ i ∧ i < length.toNat ∧ 0 ≤ start + i ∧ start + i < extent.toNat) ∨
    (extent.toNat - start ≤ i ∧ i < 0)

/-- The range of one of the loops. -/
def clipped (start : Int32) (length extent : UInt16) : List Int32 :=
  rangeI32
    (min (min (max 0 (-start)) (asI32 extent - start)) (asI32 length))
    (max (min (asI32 length) (asI32 extent - start)) 0)

section Clip

variable (position : Int16) (hot : UInt16) (cap : Int16)

theorem toInt_start :
    (position.toInt32 - asI32 hot - cap.toInt32).toInt =
      position.toInt - hot.toNat - cap.toInt := by
  have hotSmall := hot.toNat_lt
  have leastPosition := position.le_toInt
  have mostPosition := position.toInt_lt
  have leastCap := cap.le_toInt
  have mostCap := cap.toInt_lt
  have first : (position.toInt32 - asI32 hot).toInt =
      position.toInt - hot.toNat := by
    rw [toInt_sub_of_fits]
    all_goals simp only [Int16.toInt_toInt32, toInt_asI32]
    all_goals omega
  rw [toInt_sub_of_fits]
  all_goals simp only [Int16.toInt_toInt32, first]
  all_goals omega

variable (length extent : UInt16)

/-- The indices between the bounds that `composite_cursor` computes. -/
theorem mem_clipped_iff {value : Int32} :
    value ∈ clipped (position.toInt32 - asI32 hot - cap.toInt32) length extent ↔
      Visits (position.toInt - hot.toNat - cap.toInt) length extent
        value.toInt := by
  have isStart := toInt_start position hot cap
  have hotSmall := hot.toNat_lt
  have extentSmall := extent.toNat_lt
  have leastPosition := position.le_toInt
  have mostPosition := position.toInt_lt
  have leastCap := cap.le_toInt
  have mostCap := cap.toInt_lt
  generalize position.toInt32 - asI32 hot - cap.toInt32 = start at isStart ⊢
  have isNeg : (-start).toInt = -start.toInt :=
    toInt_neg_of_fits (by omega)
  have isRest : (asI32 extent - start).toInt = extent.toNat - start.toInt := by
    rw [toInt_sub_of_fits]
    all_goals simp only [toInt_asI32]
    all_goals omega
  rw [clipped, mem_rangeI32, ← isStart, Visits]
  simp only [toInt_min, toInt_max, toInt_asI32, isNeg, isRest,
    Int32.toInt_zero]
  omega

end Clip

/-- The two loops as one over the pairs of indices. -/
theorem compositeCursor_eq (image : CursorImage) (capX capY : Int32)
    (w h : UInt16) (frame : Array UInt32) :
    let cursorX := image.x.toInt32 - asI32 image.xhot - capX
    let cursorY := image.y.toInt32 - asI32 image.yhot - capY
    let cols := clipped cursorX image.width w
    let rows := clipped cursorY image.height h
    compositeCursor image capX capY w h frame =
      if cols = [] ∨ rows = [] then some frame
      else if asUsize (asI32 w * asI32 h) ≤ frame.size then
        (rows ×ˢ cols).foldlM (fun data index =>
          compositePixel image.cursorImage cursorX cursorY
            (asI32 image.width) (asI32 w) data index.1 index.2) frame
      else none := by
  intro cursorX cursorY cols rows
  rw [compositeCursor]
  simp only [← rangeI32_eq_nil, ArrayWrites.foldlM_product]
  rfl

end X11

end Rylus
