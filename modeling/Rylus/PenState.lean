import Rylus.TouchKeys

/-!
# The pen and its device

`UInputDevice` keeps two flags for a pen and a time at which it gives up a pen
that hovers.  This file shows that after any sequence of pointer events, of
pens or not, the flags are what the kernel sees on the stylus device.
-/

namespace Rylus

open EventDevice (InputEvent DeviceState)

/-- An attempt to send a pointer event, with the geometry of the capturable
unless the window could not be activated or has none. -/
structure PointerAttempt (F : Type*) where
  event : PointerEvent F
  geometry : Option (Rect F)
  now : Nat

namespace UInputDevice

variable {F : Type*} [F64Convert F]

/-- Pointer events reach the device one after the other. -/
def attemptStep (device : UInputDevice F) (attempt : PointerAttempt F) :
    Option (UInputDevice F) :=
  some (device.sendPointerEvent attempt.event attempt.geometry attempt.now)

/-- The kernel's view of the stylus device. -/
def stylusState (device : UInputDevice F) : DeviceState :=
  DeviceState.initial.after device.stylus

/-- The flags say what the kernel sees; the pen and its eraser are not there
at once, and only a pen that touches has pressure. -/
structure PenMirrors (device : UInputDevice F) : Prop where
  toolPen : device.stylusState.held ecKeyToolPen = device.toolPenActive
  exclusive : ¬ (device.stylusState.held ecKeyToolPen = true ∧
    device.stylusState.held ecKeyToolRubber = true)
  touch : device.stylusState.held ecKeyTouch = device.penTouching
  pressure : device.stylusState.axes ecAbsolutePressure ≠ 0 →
    device.penTouching = true

variable {device next : UInputDevice F} {event : PointerEvent F}

omit [F64Convert F] in
theorem stylusState_append {events : List InputEvent}
    (emitted : next.stylus = device.stylus ++ events) :
    next.stylusState = device.stylusState.after events := by
  rw [stylusState, emitted, DeviceState.after_append]
  rfl

omit [F64Convert F] in
/-- The mirror is about the stylus device and the two flags only. -/
theorem PenMirrors.of_eq (mirrors : device.PenMirrors)
    (stylus : next.stylus = device.stylus)
    (toolPen : next.toolPenActive = device.toolPenActive)
    (touching : next.penTouching = device.penTouching) : next.PenMirrors := by
  have same : next.stylusState = device.stylusState := by
    rw [stylusState, stylus]
    rfl
  constructor
  · rw [same, toolPen]
    exact mirrors.toolPen
  · rw [same]
    exact mirrors.exclusive
  · rw [same, touching]
    exact mirrors.touch
  · rw [same, touching]
    exact mirrors.pressure

/-- What is emitted for a pen that is gone or has left its range. -/
def penGone : List InputEvent :=
  [key ecKeyTouch 0, key ecKeyToolPen 0, key ecKeyToolRubber 0,
    absolute ecAbsolutePressure 0]

/-- After that no key is held and there is no pressure. -/
theorem after_penGone (state : DeviceState) :
    (state.after penGone).held ecKeyTouch = false ∧
      (state.after penGone).held ecKeyToolPen = false ∧
        (state.after penGone).held ecKeyToolRubber = false ∧
          (state.after penGone).axes ecAbsolutePressure = 0 := by
  have noSlot : ecAbsolutePressure ≠ EventDevice.absMtSlot := by decide
  have noId : ecAbsolutePressure ≠ EventDevice.absMtTrackingId := by decide
  refine ⟨?_, ?_, ?_, ?_⟩
  · simp [penGone, DeviceState.held_handle, key, absolute, ecKeyTouch,
      ecKeyToolPen, ecKeyToolRubber]
  · simp [penGone, DeviceState.held_handle, key, absolute, ecKeyTouch,
      ecKeyToolPen, ecKeyToolRubber]
  · simp [penGone, DeviceState.held_handle, key, absolute]
  · simp [penGone, DeviceState.axes_handle, noSlot, noId, absolute]

omit [F64Convert F] in
/-- A pen that is gone is mirrored by both flags being off. -/
theorem penMirrors_of_gone
    (toolPen : next.stylusState.held ecKeyToolPen = false)
    (touch : next.stylusState.held ecKeyTouch = false)
    (pressure : next.stylusState.axes ecAbsolutePressure = 0)
    (notActive : next.toolPenActive = false)
    (notTouching : next.penTouching = false) : next.PenMirrors := by
  constructor
  · rw [toolPen, notActive]
  · rintro ⟨isHeld, -⟩
    rw [toolPen] at isHeld
    cases isHeld
  · rw [touch, notTouching]
  · exact fun pressed => absurd pressure pressed

omit [F64Convert F] in
/-- Giving up a pen that hovers keeps the mirror. -/
theorem penMirrors_clearStalePenHover (mirrors : device.PenMirrors)
    (now : Nat) : (device.clearStalePenHover now).PenMirrors := by
  unfold clearStalePenHover
  split
  · rename_i stale
    have notTouching : device.penTouching = false := by
      simp only [Bool.and_eq_true, Bool.not_eq_true'] at stale
      exact stale.1.2
    obtain ⟨touch, toolPen, -, pressure⟩ :=
      after_penGone device.stylusState
    apply penMirrors_of_gone
    · rw [stylusState_append rfl]
      exact toolPen
    · rw [stylusState_append rfl]
      exact touch
    · rw [stylusState_append rfl]
      exact pressure
    · rfl
    · exact notTouching
  · exact mirrors

/-- A release says that the pen is gone and far away. -/
theorem sendPenEvent_of_release (device : UInputDevice F) (now : Nat)
    (releases : event.eventType.isRelease = true) :
    device.sendPenEvent event now =
      { device with
        lastPenEvent := now
        toolPenActive := false
        penTouching := false
        stylus := device.stylus ++
          (penGone ++ [absolute ecAbsoluteDistance absMaxval]) } := by
  unfold sendPenEvent
  cases isType : event.eventType <;> first
    | rfl
    | simp [isType, PointerEventType.isRelease] at releases

/-- A pen that is released keeps the mirror. -/
theorem penMirrors_of_release {now : Nat}
    (releases : event.eventType.isRelease = true) :
    (device.sendPenEvent event now).PenMirrors ∧
      (device.sendPenEvent event now).penTouching = false := by
  have sent := device.sendPenEvent_of_release now releases
  have noSlot : ecAbsolutePressure ≠ EventDevice.absMtSlot := by decide
  have noId : ecAbsolutePressure ≠ EventDevice.absMtTrackingId := by decide
  obtain ⟨touch, toolPen, -, pressure⟩ := after_penGone device.stylusState
  rw [sent]
  refine ⟨?_, rfl⟩
  apply penMirrors_of_gone
  · rw [stylusState_append rfl, DeviceState.after_append,
      DeviceState.after_cons, DeviceState.after_nil, DeviceState.held_handle]
    simpa [absolute] using toolPen
  · rw [stylusState_append rfl, DeviceState.after_append,
      DeviceState.after_cons, DeviceState.after_nil, DeviceState.held_handle]
    simpa [absolute] using touch
  · rw [stylusState_append rfl, DeviceState.after_append,
      DeviceState.after_cons, DeviceState.after_nil,
      DeviceState.axes_handle _ noSlot noId, if_neg]
    · exact pressure
    · exact fun isPressure => absurd isPressure.2 (by decide)
  · rfl
  · rfl

/-- The keys for a pen that touches or hovers: the tip, the tool if the pen
enters its range, and the eraser. -/
def penKeys (isDown entersRange erases : Bool) : List InputEvent :=
  (if isDown then [key ecKeyTouch 1] else []) ++
    (if entersRange then [key ecKeyToolPen 1, key ecKeyToolRubber 0]
      else []) ++
    if erases then [key ecKeyToolPen 0, key ecKeyToolRubber 1] else []

theorem held_after_penKeys (state : DeviceState)
    (isDown entersRange erases : Bool) :
    (state.after (penKeys isDown entersRange erases)).held ecKeyTouch =
        (state.held ecKeyTouch || isDown) ∧
      (state.after (penKeys isDown entersRange erases)).held ecKeyToolPen =
        ((state.held ecKeyToolPen || entersRange) && !erases) ∧
      (state.after (penKeys isDown entersRange erases)).held
          ecKeyToolRubber =
        ((state.held ecKeyToolRubber && !entersRange) || erases) := by
  unfold penKeys
  cases isDown <;> cases entersRange <;> cases erases <;>
    simp [key, ecKeyTouch, ecKeyToolPen, ecKeyToolRubber]

/-- The axes for a pen that touches or hovers. -/
def penAxes (device : UInputDevice F) (event : PointerEvent F)
    (penTouching : Bool) : List InputEvent :=
  [absolute ecAbsoluteX (device.transformX event.x),
    absolute ecAbsoluteY (device.transformY event.y),
    absolute ecAbsolutePressure
      (if penTouching then computeTransformPressure event.pressure else 0),
    absolute ecAbsoluteTiltX event.tiltX.toInt,
    absolute ecAbsoluteTiltY event.tiltY.toInt,
    absolute ecAbsoluteDistance (computeHoverDistance event.pressure)]

theorem held_after_penAxes (state : DeviceState) (penTouching : Bool) :
    (state.after (device.penAxes event penTouching)).held = state.held := by
  have areAxes : ∀ axis ∈ device.penAxes event penTouching,
      DeviceState.IsAxis axis := by
    intro axis member
    simp only [penAxes, List.mem_cons, List.not_mem_nil, or_false] at member
    rcases member with rfl | rfl | rfl | rfl | rfl | rfl <;>
      exact isAxis_absolute _ (by decide) (by decide)
  exact (DeviceState.after_axes areAxes).1

/-- There is pressure only with contact. -/
theorem pressure_after_penAxes (state : DeviceState) (penTouching : Bool) :
    (state.after (device.penAxes event penTouching)).axes
        ecAbsolutePressure =
      if penTouching then computeTransformPressure event.pressure else 0 := by
  have noSlot : ecAbsolutePressure ≠ EventDevice.absMtSlot := by decide
  have noId : ecAbsolutePressure ≠ EventDevice.absMtTrackingId := by decide
  simp only [penAxes, DeviceState.after_cons, DeviceState.after_nil,
    DeviceState.axes_handle _ noSlot noId]
  simp [absolute, ecAbsolutePressure, ecAbsoluteTiltX, ecAbsoluteTiltY,
    ecAbsoluteDistance]

/-- A pen that touches or hovers sends its keys and then its axes. -/
theorem sendPenEvent_of_not_release (device : UInputDevice F) (now : Nat)
    (stays : event.eventType.isRelease = false) :
    ∃ entersRange erases : Bool,
      device.sendPenEvent event now =
        { device with
          lastPenEvent := now
          penTouching :=
            device.penTouching || decide (event.eventType = .down)
          toolPenActive := (device.toolPenActive || entersRange) && !erases
          stylus := device.stylus ++
            (penKeys (decide (event.eventType = .down)) entersRange erases ++
              device.penAxes event
                (device.penTouching ||
                  decide (event.eventType = .down))) } := by
  refine ⟨!device.toolPenActive && !event.buttons.contains .eraser,
    decide (event.button = .eraser), ?_⟩
  unfold sendPenEvent penKeys
  cases isType : event.eventType <;> first
    | simp only [List.append_assoc]
      rfl
    | simp [isType, PointerEventType.isRelease] at stays

/-- A pen that touches or hovers keeps the mirror. -/
theorem penMirrors_of_not_release (mirrors : device.PenMirrors) {now : Nat}
    (stays : event.eventType.isRelease = false) :
    (device.sendPenEvent event now).PenMirrors := by
  obtain ⟨entersRange, erases, sent⟩ :=
    device.sendPenEvent_of_not_release now stays
  generalize decide (event.eventType = .down) = isDown at sent
  obtain ⟨touch, toolPen, rubber⟩ :=
    held_after_penKeys device.stylusState isDown entersRange erases
  have keys : (device.sendPenEvent event now).stylusState.held =
      (device.stylusState.after (penKeys isDown entersRange erases)).held := by
    rw [sent, stylusState_append rfl, DeviceState.after_append,
      held_after_penAxes]
  have pressure : (device.sendPenEvent event now).stylusState.axes
      ecAbsolutePressure =
        if device.penTouching || isDown then
          computeTransformPressure event.pressure
        else 0 := by
    rw [sent, stylusState_append rfl, DeviceState.after_append,
      pressure_after_penAxes]
  constructor
  · rw [keys, toolPen, mirrors.toolPen, sent]
  · rw [keys, toolPen, rubber]
    rintro ⟨isPen, isRubber⟩
    have exclusive := mirrors.exclusive
    rw [mirrors.toolPen] at isPen exclusive
    cases erases with
    | true => simp at isPen
    | false =>
        cases entersRange with
        | true => simp at isRubber
        | false =>
            have active : device.toolPenActive = true := by
              simpa using isPen
            have erased : device.stylusState.held ecKeyToolRubber = true := by
              simpa using isRubber
            exact exclusive ⟨active, erased⟩
  · rw [keys, touch, mirrors.touch, sent]
  · rw [pressure, sent]
    intro pressed
    by_contra notTouching
    exact pressed (if_neg notTouching)

theorem penMirrors_sendPenEvent (mirrors : device.PenMirrors)
    (event : PointerEvent F) (now : Nat) :
    (device.sendPenEvent event now).PenMirrors := by
  cases isType : event.eventType.isRelease with
  | true => exact (penMirrors_of_release isType).1
  | false => exact penMirrors_of_not_release mirrors isType

/-- Touches and the mouse leave the pen alone. -/
theorem penMirrors_sendPointerEvent (mirrors : device.PenMirrors)
    (event : PointerEvent F) (geometry : Option (Rect F)) (now : Nat) :
    (device.sendPointerEvent event geometry now).PenMirrors := by
  unfold sendPointerEvent
  cases geometry with
  | none => exact mirrors
  | some geometry =>
      have located : ({ device with geometry := geometry } :
          UInputDevice F).PenMirrors :=
        mirrors.of_eq rfl rfl rfl
      have cleared := penMirrors_clearStalePenHover located now
      simp only
      cases event.pointerType with
      | touch =>
          obtain ⟨touch, touches, same⟩ := sendTouchEvent_frame
            (({ device with geometry := geometry } :
              UInputDevice F).clearStalePenHover now) event
          simp only [same]
          exact cleared.of_eq rfl rfl rfl
      | pen => exact penMirrors_sendPenEvent cleared event now
      | mouse | unknown =>
          obtain ⟨mouse, same⟩ := sendMouseEvent_frame
            (({ device with geometry := geometry } :
              UInputDevice F).clearStalePenHover now) event
          simp only [same]
          exact cleared.of_eq rfl rfl rfl

/-- The pen's flags are what the kernel sees after any sequence of pointer
events of all types, at any times. -/
theorem penMirrors_along (now : Nat)
    (execution : Transition.Execution attemptStep
      (new now : UInputDevice F)) :
    execution.Along PenMirrors := by
  intro taken rest device _ runs
  have reached : Transition.Reachable attemptStep (new now) device :=
    ⟨taken, runs⟩
  apply reached.invariant
  · apply penMirrors_of_gone <;> rfl
  · intro before attempt after mirrors moved
    cases moved
    exact penMirrors_sendPointerEvent mirrors _ _ _

end UInputDevice

end Rylus
