import Rylus.ReleaseFailures

/-!
# Axis values and their declared ranges

Each virtual device is created with a minimum and a maximum for every axis it
has.  Coordinates are clamped before they are scaled.  Pressure and the size of
a touch are scaled as the client sends them, and the tilt of a pen is passed
on, so these stay in their ranges only if the client keeps them there.
-/

namespace Rylus

open EventDevice (InputEvent)

/-- `AbsInfo`. -/
structure AbsInfo where
  value : Int
  minimum : Int
  maximum : Int
  fuzz : Int
  flat : Int
  resolution : Int

/-! ### The axes of the devices -/

/-- The absolute axes of `create_mouse`. -/
def createMouse : List (Nat × AbsInfo) :=
  [(ecAbsoluteX, ⟨0, 0, absMaxval, 0, 0, 0⟩),
    (ecAbsoluteY, ⟨0, 0, absMaxval, 0, 0, 0⟩)]

/-- The absolute axes of `create_stylus`. -/
def createStylus : List (Nat × AbsInfo) :=
  [(ecAbsoluteX, ⟨0, 0, absMaxval, 0, 0, 12⟩),
    (ecAbsoluteY, ⟨0, 0, absMaxval, 0, 0, 12⟩),
    (ecAbsolutePressure, ⟨0, 0, absMaxval, 0, 0, 12⟩),
    (ecAbsoluteTiltX, ⟨0, -90, 90, 0, 0, 12⟩),
    (ecAbsoluteTiltY, ⟨0, -90, 90, 0, 0, 12⟩),
    (ecAbsoluteDistance, ⟨0, 0, absMaxval, 0, 0, 12⟩)]

/-- The absolute axes of `create_touch`. -/
def createTouch : List (Nat × AbsInfo) :=
  [(ecAbsoluteX, ⟨0, 0, absMaxval, 0, 0, 200⟩),
    (ecAbsoluteY, ⟨0, 0, absMaxval, 0, 0, 200⟩),
    (ecAbsMtSlot, ⟨0, 0, 4, 0, 0, 0⟩),
    (ecAbsMtTrackingId, ⟨0, 0, 4, 0, 0, 0⟩),
    (ecAbsMtPositionX, ⟨0, 0, absMaxval, 0, 0, 200⟩),
    (ecAbsMtPositionY, ⟨0, 0, absMaxval, 0, 0, 200⟩),
    (ecAbsMtPressure, ⟨0, 0, absMaxval, 0, 0, 0⟩),
    (ecAbsMtTouchMajor, ⟨0, 0, absMaxval, 0, 0, 12⟩),
    (ecAbsMtTouchMinor, ⟨0, 0, absMaxval, 0, 0, 12⟩),
    (ecAbsMtOrientation, ⟨0, 0, 1, 0, 0, 0⟩)]

/-- The minimum and the maximum declared for an axis. -/
def axisRange (axes : List (Nat × AbsInfo)) (code : Nat) :
    Option (Int × Int) :=
  (axes.lookup code).map fun info => (info.minimum, info.maximum)

/-- A value of an axis is within what was declared for it.  The tracking id -1
ends a contact and is in no range. -/
def Declares (axes : List (Nat × AbsInfo)) (event : InputEvent) : Prop :=
  event.eventType = .absolute →
    event = absolute ecAbsMtTrackingId (-1) ∨
      ∃ least greatest, axisRange axes event.code = some (least, greatest) ∧
        least ≤ event.value ∧ event.value ≤ greatest

@[simp]
theorem declares_key (axes : List (Nat × AbsInfo)) (code : Nat)
    (value : Int) : Declares axes (key code value) := by
  intro isAbsolute
  cases isAbsolute

theorem declares_absolute_iff {axes : List (Nat × AbsInfo)} {code : Nat}
    {least greatest : Int}
    (declared : axisRange axes code = some (least, greatest))
    (other : code ≠ ecAbsMtTrackingId) (value : Int) :
    Declares axes (absolute code value) ↔
      least ≤ value ∧ value ≤ greatest := by
  constructor
  · intro declares
    rcases declares rfl with isId | ⟨_, _, looked, inRange⟩
    · exact absurd (congrArg InputEvent.code isId) other
    · change axisRange axes code = _ at looked
      rw [declared] at looked
      cases looked
      exact inRange
  · intro inRange _
    exact .inr ⟨least, greatest, declared, inRange⟩

/-! ### Which numbers scale into a range -/

section Scaling

variable {F : Type*} [F64Convert F]

/-- Laws of `f64`: what truncates into `0..=65535`, numbers that are not
numbers included, and that scaling the unit interval stays there. -/
class LawfulScale (F : Type*) [F64Convert F] : Prop where
  toI32_inRange_iff : ∀ value : F,
    (0 ≤ (F64Convert.toI32 value).toInt ∧
        (F64Convert.toI32 value).toInt ≤ 65535) ↔
      ¬ value ≤ 0.0 - 1.0 ∧ ¬ 65536.0 ≤ value
  scale_unit : ∀ value : F, ¬ value < 0.0 → ¬ 1.0 < value →
    ¬ value * 65535.0 ≤ 0.0 - 1.0 ∧ ¬ 65536.0 ≤ value * 65535.0
  zero_in_unit : ¬ (0.0 : F) < 0.0 ∧ ¬ (1.0 : F) < 0.0
  one_in_unit : ¬ (1.0 : F) < 0.0 ∧ ¬ (1.0 : F) < 1.0

/-- The number scales to less than one step outside the range of an axis. -/
def FitsAxis (value : F) : Prop :=
  ¬ value * 65535.0 ≤ 0.0 - 1.0 ∧ ¬ 65536.0 ≤ value * 65535.0

/-- The truncation of a rational number within `i32`. -/
theorem toInt_ofInt_saturated (value : Int) :
    (Int32.ofInt (max (-2 ^ 31) (min (2 ^ 31 - 1) value))).toInt =
      max (-2 ^ 31) (min (2 ^ 31 - 1) value) := by
  apply Int32.toInt_ofInt_of_le
  · exact le_max_left _ _
  · have upper : max (-2 ^ 31) (min (2 ^ 31 - 1) value) ≤ (2 ^ 31 - 1 : Int) :=
      max_le (by norm_num) (min_le_left _ _)
    omega

theorem rat_toI32_inRange_iff (value : ℚ) :
    (0 ≤ (F64Convert.toI32 value).toInt ∧
        (F64Convert.toI32 value).toInt ≤ 65535) ↔
      -1 < value ∧ value < 65536 := by
  have truncated : (0 ≤ (if 0 ≤ value then ⌊value⌋ else ⌈value⌉) ∧
      (if 0 ≤ value then ⌊value⌋ else ⌈value⌉) ≤ 65535) ↔
        -1 < value ∧ value < 65536 := by
    split
    · rename_i nonneg
      have below : ⌊value⌋ < 65536 ↔ value < 65536 := by
        exact_mod_cast Int.floor_lt (a := value) (z := 65536)
      have floorNonneg := Int.floor_nonneg.mpr nonneg
      constructor
      · intro inRange
        exact ⟨by linarith, below.mp (by omega)⟩
      · intro inRange
        have small := below.mpr inRange.2
        omega
    · rename_i negative
      have above : -1 < ⌈value⌉ ↔ -1 < value := by
        exact_mod_cast Int.lt_ceil (a := value) (z := -1)
      have ceilNonpos : ⌈value⌉ ≤ 0 :=
        Int.ceil_le.mpr (by push_cast; linarith)
      constructor
      · intro inRange
        exact ⟨above.mp (by omega), by linarith⟩
      · intro inRange
        have large := above.mpr inRange.1
        omega
  rw [← truncated]
  change 0 ≤ (Int32.ofInt _).toInt ∧ (Int32.ofInt _).toInt ≤ 65535 ↔ _
  rw [toInt_ofInt_saturated]
  omega

instance lawfulScaleRat : LawfulScale ℚ where
  toI32_inRange_iff value := by
    rw [rat_toI32_inRange_iff]
    norm_num
  scale_unit value notBelow notAbove := by
    norm_num at notBelow notAbove ⊢
    constructor <;> linarith
  zero_in_unit := by norm_num
  one_in_unit := by norm_num

variable [LawfulScale F]

/-- A number scales into the range of an axis exactly if it fits. -/
theorem fitsAxis_iff (value : F) :
    (0 ≤ (F64Convert.toI32 (value * 65535.0)).toInt ∧
        (F64Convert.toI32 (value * 65535.0)).toInt ≤ absMaxval) ↔
      FitsAxis value :=
  LawfulScale.toI32_inRange_iff (value * 65535.0)

/-- Clamping is enough. -/
theorem fitsAxis_clampUnit (value : F) : FitsAxis (clampUnit value) := by
  unfold FitsAxis clampUnit
  split
  · exact LawfulScale.scale_unit _ LawfulScale.zero_in_unit.1
      LawfulScale.zero_in_unit.2
  · rename_i notBelow
    split
    · exact LawfulScale.scale_unit _ LawfulScale.one_in_unit.1
        LawfulScale.one_in_unit.2
    · rename_i notAbove
      exact LawfulScale.scale_unit _ notBelow notAbove

end Scaling

namespace UInputDevice

variable {F : Type*} [F64Convert F]

/-- Everything emitted so far is within the ranges declared. -/
structure AxesInRange (device : UInputDevice F) : Prop where
  stylus : ∀ emitted ∈ device.stylus, Declares createStylus emitted
  mouse : ∀ emitted ∈ device.mouse, Declares createMouse emitted
  touch : ∀ emitted ∈ device.touch, Declares createTouch emitted

/-- What an event scales or passes on is in range: for a touch that has or
gets a slot its pressure and its size, for a pen its tilt and, while it
touches, its pressure. -/
def AxesFit (device : UInputDevice F) (attempt : PointerAttempt F) : Prop :=
  let event := attempt.event
  attempt.geometry ≠ none → event.eventType.isRelease = false →
    match event.pointerType with
    | .touch =>
        device.findSlot event.pointerId ≠ none ∨ device.freeSlot ≠ none →
          FitsAxis event.pressure ∧ FitsAxis event.width ∧
            FitsAxis event.height
    | .pen =>
        (-90 ≤ event.tiltX.toInt ∧ event.tiltX.toInt ≤ 90) ∧
          (-90 ≤ event.tiltY.toInt ∧ event.tiltY.toInt ≤ 90) ∧
            (device.penTouching = true ∨ event.eventType = .down →
              FitsAxis event.pressure)
    | .mouse | .unknown => True

section Emitted

variable [LawfulScale F]

theorem transformX_inRange (device : UInputDevice F) (x : F) :
    0 ≤ device.transformX x ∧ device.transformX x ≤ absMaxval :=
  (fitsAxis_iff _).mpr (fitsAxis_clampUnit _)

theorem transformY_inRange (device : UInputDevice F) (y : F) :
    0 ≤ device.transformY y ∧ device.transformY y ≤ absMaxval :=
  (fitsAxis_iff _).mpr (fitsAxis_clampUnit _)

omit [LawfulScale F] in
theorem computeHoverDistance_inRange (pressure : F) :
    0 ≤ computeHoverDistance pressure ∧
      computeHoverDistance pressure ≤ absMaxval := by
  unfold computeHoverDistance absMaxval
  split <;> omega

/-- Of the axes of a touch, those that are not clamped decide. -/
theorem touchAxes_declared_iff (device : UInputDevice F)
    (event : PointerEvent F) :
    (∀ emitted ∈ device.touchAxes event, Declares createTouch emitted) ↔
      FitsAxis event.pressure ∧ FitsAxis event.width ∧
        FitsAxis event.height := by
  have full (code : Nat) (value : Int)
      (axis : code ∈ [ecAbsMtPressure, ecAbsMtTouchMajor, ecAbsMtTouchMinor,
        ecAbsMtPositionX, ecAbsMtPositionY, ecAbsoluteX, ecAbsoluteY]) :
      Declares createTouch (absolute code value) ↔
        0 ≤ value ∧ value ≤ absMaxval := by
    simp only [List.mem_cons, List.not_mem_nil, or_false] at axis
    rcases axis with rfl | rfl | rfl | rfl | rfl | rfl | rfl <;>
      exact declares_absolute_iff rfl (by decide) value
  have orientation (value : Int) :
      Declares createTouch (absolute ecAbsMtOrientation value) ↔
        0 ≤ value ∧ value ≤ 1 :=
    declares_absolute_iff rfl (by decide) value
  have pressure := fitsAxis_iff event.pressure
  have width := fitsAxis_iff event.width
  have height := fitsAxis_iff event.height
  have x := device.transformX_inRange event.x
  have y := device.transformY_inRange event.y
  unfold touchAxes
  by_cases taller : event.width ≤ event.height
  · simp only [if_pos taller, List.forall_mem_cons, orientation]
    simp [full, pressure, x, y, computeTransformPressure,
      computeTransformTouchSize, width, height]
    tauto
  · simp only [if_neg taller, List.forall_mem_cons, orientation]
    simp [full, pressure, x, y, computeTransformPressure,
      computeTransformTouchSize, width, height]

/-- The slot and the tracking id of a contact are always in range, and its
keys have none. -/
theorem touchMoved_declared_iff (device : UInputDevice F)
    (event : PointerEvent F) (slot : Fin 5) :
    (∀ emitted ∈ device.touchMoved event slot,
        Declares createTouch emitted) ↔
      FitsAxis event.pressure ∧ FitsAxis event.width ∧
        FitsAxis event.height := by
  have inSlots : 0 ≤ (slot : Int) ∧ (slot : Int) ≤ 4 := by omega
  have slotDeclared : Declares createTouch (absolute ecAbsMtSlot slot) :=
    (declares_absolute_iff rfl (by decide) _).mpr inSlots
  have idDeclared : Declares createTouch (absolute ecAbsMtTrackingId slot) :=
    fun _ => .inr ⟨0, 4, rfl, inSlots⟩
  have toolsDeclared : ∀ emitted ∈ downTools device.activeCount,
      Declares createTouch emitted := by
    unfold downTools
    split <;> simp
  unfold touchMoved
  rw [List.forall_mem_append, List.forall_mem_append, touchAxes_declared_iff]
  simp only [List.forall_mem_cons, slotDeclared, idDeclared, true_and]
  split
  · exact and_iff_right ⟨by simp, toolsDeclared⟩
  · simp

omit [LawfulScale F] [F64Convert F] in
theorem touchEnded_declared (device : UInputDevice F) (slot : Fin 5) :
    ∀ emitted ∈ device.touchEnded slot, Declares createTouch emitted := by
  have inSlots : 0 ≤ (slot : Int) ∧ (slot : Int) ≤ 4 := by omega
  have slotDeclared : Declares createTouch (absolute ecAbsMtSlot slot) :=
    (declares_absolute_iff rfl (by decide) _).mpr inSlots
  have idDeclared : Declares createTouch (absolute ecAbsMtTrackingId (-1)) :=
    fun _ => .inl rfl
  unfold touchEnded upTools
  split <;> simp [slotDeclared, idDeclared]

end Emitted

/-! ### One event -/

variable {device next : UInputDevice F} {event : PointerEvent F}

omit [F64Convert F] in
/-- Only what is new can leave the ranges. -/
theorem AxesInRange.append_iff (inRange : device.AxesInRange)
    {onStylus onMouse onTouch : List InputEvent}
    (stylus : next.stylus = device.stylus ++ onStylus)
    (mouse : next.mouse = device.mouse ++ onMouse)
    (touch : next.touch = device.touch ++ onTouch) :
    next.AxesInRange ↔
      (∀ event ∈ onStylus, Declares createStylus event) ∧
        (∀ event ∈ onMouse, Declares createMouse event) ∧
          ∀ event ∈ onTouch, Declares createTouch event := by
  constructor
  · rintro ⟨wholeStylus, wholeMouse, wholeTouch⟩
    rw [stylus, List.forall_mem_append] at wholeStylus
    rw [mouse, List.forall_mem_append] at wholeMouse
    rw [touch, List.forall_mem_append] at wholeTouch
    exact ⟨wholeStylus.2, wholeMouse.2, wholeTouch.2⟩
  · rintro ⟨newStylus, newMouse, newTouch⟩
    constructor
    · rw [stylus, List.forall_mem_append]
      exact ⟨inRange.stylus, newStylus⟩
    · rw [mouse, List.forall_mem_append]
      exact ⟨inRange.mouse, newMouse⟩
    · rw [touch, List.forall_mem_append]
      exact ⟨inRange.touch, newTouch⟩

omit [F64Convert F] in
theorem AxesInRange.touch_iff (inRange : device.AxesInRange)
    {emitted : List InputEvent}
    (onTouch : next.touch = device.touch ++ emitted)
    (stylus : next.stylus = device.stylus)
    (mouse : next.mouse = device.mouse) :
    next.AxesInRange ↔ ∀ event ∈ emitted, Declares createTouch event := by
  rw [← List.append_nil device.stylus] at stylus
  rw [← List.append_nil device.mouse] at mouse
  rw [inRange.append_iff stylus mouse onTouch]
  simp

omit [F64Convert F] in
theorem AxesInRange.stylus_iff (inRange : device.AxesInRange)
    {emitted : List InputEvent}
    (onStylus : next.stylus = device.stylus ++ emitted)
    (mouse : next.mouse = device.mouse)
    (touch : next.touch = device.touch) :
    next.AxesInRange ↔ ∀ event ∈ emitted, Declares createStylus event := by
  rw [← List.append_nil device.mouse] at mouse
  rw [← List.append_nil device.touch] at touch
  rw [inRange.append_iff onStylus mouse touch]
  simp

omit [F64Convert F] in
theorem AxesInRange.mouse_iff (inRange : device.AxesInRange)
    {emitted : List InputEvent}
    (onMouse : next.mouse = device.mouse ++ emitted)
    (stylus : next.stylus = device.stylus)
    (touch : next.touch = device.touch) :
    next.AxesInRange ↔ ∀ event ∈ emitted, Declares createMouse event := by
  rw [← List.append_nil device.stylus] at stylus
  rw [← List.append_nil device.touch] at touch
  rw [inRange.append_iff stylus onMouse touch]
  simp

theorem penGone_declared :
    ∀ emitted ∈ penGone, Declares createStylus emitted := by
  have pressure : Declares createStylus (absolute ecAbsolutePressure 0) :=
    (declares_absolute_iff rfl (by decide) _).mpr (by decide)
  simp [penGone, pressure]

omit [F64Convert F] in
/-- The end of a hover sends a pressure of zero. -/
theorem axesInRange_clearStalePenHover (inRange : device.AxesInRange)
    (now : Nat) : (device.clearStalePenHover now).AxesInRange := by
  unfold clearStalePenHover
  split
  · exact (inRange.stylus_iff (by rfl) (by rfl) (by rfl)).mpr
      penGone_declared
  · exact inRange

variable [LawfulScale F]

theorem axesInRange_sendTouchEvent_iff (inRange : device.AxesInRange)
    (event : PointerEvent F) :
    (device.sendTouchEvent event).AxesInRange ↔
      (event.eventType.isRelease = false →
        device.findSlot event.pointerId ≠ none ∨ device.freeSlot ≠ none →
          FitsAxis event.pressure ∧ FitsAxis event.width ∧
            FitsAxis event.height) := by
  have moved {moving : UInputDevice F} {slot : Fin 5} {touches} :
      ({ device with
        touches := touches
        touch := device.touch ++ moving.touchMoved event slot } :
          UInputDevice F).AxesInRange ↔
        FitsAxis event.pressure ∧ FitsAxis event.width ∧
          FitsAxis event.height := by
    rw [← touchMoved_declared_iff moving event slot]
    exact inRange.touch_iff (by rfl) (by rfl) (by rfl)
  have ended {slot : Fin 5} {touches} :
      ({ device with
        touches := touches
        touch := device.touch ++ device.touchEnded slot } :
          UInputDevice F).AxesInRange :=
    (inRange.touch_iff (by rfl) (by rfl) (by rfl)).mpr
      (device.touchEnded_declared slot)
  unfold sendTouchEvent
  cases event.eventType with
  | up | cancel | leave | out =>
      cases device.findSlot event.pointerId with
      | some slot => simp [PointerEventType.isRelease, ended]
      | none => simp [PointerEventType.isRelease, inRange]
  | _ =>
      cases device.findSlot event.pointerId with
      | some slot => simp [PointerEventType.isRelease, moved]
      | none =>
          cases device.freeSlot with
          | some slot => simp [PointerEventType.isRelease, moved]
          | none => simp [inRange]

omit [F64Convert F] [LawfulScale F] in
theorem penKeys_declared (isDown entersRange erases : Bool) :
    ∀ emitted ∈ penKeys isDown entersRange erases,
      Declares createStylus emitted := by
  unfold penKeys
  cases isDown <;> cases entersRange <;> cases erases <;> simp

/-- A pen's coordinates and its distance are always in range. -/
theorem penAxes_declared_iff (device : UInputDevice F)
    (event : PointerEvent F) (penTouching : Bool) :
    (∀ emitted ∈ device.penAxes event penTouching,
        Declares createStylus emitted) ↔
      (-90 ≤ event.tiltX.toInt ∧ event.tiltX.toInt ≤ 90) ∧
        (-90 ≤ event.tiltY.toInt ∧ event.tiltY.toInt ≤ 90) ∧
          (penTouching = true → FitsAxis event.pressure) := by
  have full (code : Nat) (value : Int)
      (axis : code ∈ [ecAbsoluteX, ecAbsoluteY, ecAbsolutePressure,
        ecAbsoluteDistance]) :
      Declares createStylus (absolute code value) ↔
        0 ≤ value ∧ value ≤ absMaxval := by
    simp only [List.mem_cons, List.not_mem_nil, or_false] at axis
    rcases axis with rfl | rfl | rfl | rfl <;>
      exact declares_absolute_iff rfl (by decide) value
  have tilt (code : Nat) (value : Int)
      (axis : code ∈ [ecAbsoluteTiltX, ecAbsoluteTiltY]) :
      Declares createStylus (absolute code value) ↔
        -90 ≤ value ∧ value ≤ 90 := by
    simp only [List.mem_cons, List.not_mem_nil, or_false] at axis
    rcases axis with rfl | rfl <;>
      exact declares_absolute_iff rfl (by decide) value
  have x := device.transformX_inRange event.x
  have y := device.transformY_inRange event.y
  have distance := computeHoverDistance_inRange event.pressure
  have pressure : (0 ≤ (if penTouching then
      computeTransformPressure event.pressure else 0) ∧
        (if penTouching then computeTransformPressure event.pressure
          else 0) ≤ absMaxval) ↔
            (penTouching = true → FitsAxis event.pressure) := by
    cases penTouching with
    | false => simp [absMaxval]
    | true =>
        simpa [computeTransformPressure] using fitsAxis_iff event.pressure
  rw [penAxes, List.forall_mem_cons, full _ _ (by simp),
    List.forall_mem_cons, full _ _ (by simp), List.forall_mem_cons,
    full _ _ (by simp), pressure, List.forall_mem_cons, tilt _ _ (by simp),
    List.forall_mem_cons, tilt _ _ (by simp), List.forall_mem_cons,
    full _ _ (by simp)]
  constructor
  · rintro ⟨-, -, pressed, tiltX, tiltY, -⟩
    exact ⟨tiltX, tiltY, pressed⟩
  · rintro ⟨tiltX, tiltY, pressed⟩
    exact ⟨x, y, pressed, tiltX, tiltY, distance, by simp⟩

theorem axesInRange_sendPenEvent_iff (inRange : device.AxesInRange)
    (event : PointerEvent F) (now : Nat) :
    (device.sendPenEvent event now).AxesInRange ↔
      (event.eventType.isRelease = false →
        (-90 ≤ event.tiltX.toInt ∧ event.tiltX.toInt ≤ 90) ∧
          (-90 ≤ event.tiltY.toInt ∧ event.tiltY.toInt ≤ 90) ∧
            (device.penTouching = true ∨ event.eventType = .down →
              FitsAxis event.pressure)) := by
  cases releases : event.eventType.isRelease with
  | true =>
      have distance :
          Declares createStylus (absolute ecAbsoluteDistance absMaxval) :=
        (declares_absolute_iff rfl (by decide) _).mpr (by decide)
      have sent := device.sendPenEvent_of_release now releases
      rw [sent, inRange.stylus_iff (by rfl) (by rfl) (by rfl),
        List.forall_mem_append]
      simpa [distance] using penGone_declared
  | false =>
      obtain ⟨entersRange, erases, sent⟩ :=
        device.sendPenEvent_of_not_release now releases
      rw [sent, inRange.stylus_iff (by rfl) (by rfl) (by rfl),
        List.forall_mem_append,
        and_iff_right (penKeys_declared _ _ _), penAxes_declared_iff,
        Bool.or_eq_true, decide_eq_true_iff]
      simp

/-- Both coordinates of a mouse are clamped. -/
theorem axesInRange_sendMouseEvent (inRange : device.AxesInRange)
    (event : PointerEvent F) : (device.sendMouseEvent event).AxesInRange := by
  have x : Declares createMouse
      (absolute ecAbsoluteX (device.transformX event.x)) :=
    (declares_absolute_iff (by rfl) (by decide) _).mpr
      (device.transformX_inRange event.x)
  have y : Declares createMouse
      (absolute ecAbsoluteY (device.transformY event.y)) :=
    (declares_absolute_iff (by rfl) (by decide) _).mpr
      (device.transformY_inRange event.y)
  unfold sendMouseEvent
  cases event.eventType with
  | up | cancel | leave | out =>
      cases mouseKey event.button with
      | some code =>
          exact (inRange.mouse_iff (by rfl) (by rfl) (by rfl)).mpr (by simp)
      | none => exact inRange
  | _ =>
      dsimp only
      rw [List.append_assoc]
      apply (inRange.mouse_iff (by rfl) (by rfl) (by rfl)).mpr
      cases mouseKey event.button <;> simp [x, y]

/-- An event keeps the emitted values in their ranges exactly if the values
that it scales or passes on are. -/
theorem axesInRange_attemptStep_iff (inRange : device.AxesInRange)
    {attempt : PointerAttempt F}
    (sent : device.attemptStep attempt = some next) :
    next.AxesInRange ↔ device.AxesFit attempt := by
  obtain ⟨event, geometry, now⟩ := attempt
  cases sent
  unfold AxesFit
  cases geometry with
  | none => simpa [sendPointerEvent] using inRange
  | some geometry =>
      have located : ({ device with geometry := geometry } :
          UInputDevice F).AxesInRange :=
        ⟨inRange.stylus, inRange.mouse, inRange.touch⟩
      have cleared := axesInRange_clearStalePenHover located now
      obtain ⟨stylus, toolPenActive, same⟩ := clearStalePenHover_frame
        ({ device with geometry := geometry } : UInputDevice F) now
      rw [same] at cleared
      rw [sendPointerEvent_some, same]
      unfold sendLocated
      simp only [ne_eq, reduceCtorEq, not_false_eq_true, forall_const]
      cases event.pointerType with
      | touch => exact axesInRange_sendTouchEvent_iff cleared event
      | pen => exact axesInRange_sendPenEvent_iff cleared event now
      | mouse | unknown =>
          simpa using axesInRange_sendMouseEvent cleared event

/-- In a run of pointer events all emitted values stay in their ranges exactly
if every event fits. -/
theorem axesInRange_along_iff (now : Nat)
    (execution : Transition.Execution attemptStep
      (new now : UInputDevice F)) :
    execution.Along AxesInRange ↔ execution.StepsMeet AxesFit := by
  apply execution.along_iff_stepsMeet
  · constructor <;> simp [new]
  · intro before attempt after _ inRange sent
    exact axesInRange_attemptStep_iff inRange sent

/-- A touch in the middle of the screen, one hundredth of it large. -/
def touchWith (pressure : ℚ) : PointerAttempt ℚ where
  event :=
    { eventType := .down
      pointerId := 1
      timestamp := 0
      isPrimary := true
      pointerType := .touch
      button := .none
      buttons := .none
      x := 1 / 2
      y := 1 / 2
      pressure := pressure
      tiltX := 0
      tiltY := 0
      twist := 0
      width := 1 / 100
      height := 1 / 100
      altitudeAngle := none
      azimuthAngle := none }
  geometry := some ⟨0, 0, 1, 1⟩
  now := 0

/-- The run of one touch. -/
def touchRun (pressure : ℚ) :
    Transition.Execution attemptStep (new 0 : UInputDevice ℚ) where
  labels := [touchWith pressure]
  final := _
  runs := rfl

/-- A touch of full pressure fits. -/
theorem axesInRange_along_touchRun : (touchRun 1).Along AxesInRange := by
  apply (axesInRange_along_iff 0 (touchRun 1)).mpr
  apply Transition.Execution.stepsMeet_of_meetsFrom
  refine ⟨?_, fun _ _ => trivial⟩
  intro _ _ _
  simp only [touchWith, FitsAxis]
  norm_num

/-- A pressure of two leaves the range of its axis. -/
theorem touchRun_not_axesInRange :
    ¬ ∀ (now : Nat) (execution : Transition.Execution attemptStep
      (new now : UInputDevice ℚ)), execution.Along AxesInRange := by
  intro always
  have inRange := always 0 (touchRun 2) [touchWith 2] [] _ rfl rfl
  have emitted : absolute ecAbsMtPressure 131070 ∈
      ((new 0).sendPointerEvent (touchWith 2).event (touchWith 2).geometry
        0).touch := by
    decide +kernel
  have declared := (declares_absolute_iff (by rfl) (by decide) _).mp
    (inRange.touch _ emitted)
  exact absurd declared.2 (by decide)

end UInputDevice

end Rylus
