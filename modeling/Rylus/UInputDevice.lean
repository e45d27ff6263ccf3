import Rylus.EventDevice
import Rylus.Protocol
import Rylus.QualityController

/-!
# The uinput backend

`UInputDevice` turns the events of a client into events of four virtual
devices.  The model keeps everything that was emitted on each of them; what
the kernel makes of it is the state of `EventDevice`.  Sending a pointer event
takes the geometry of the capturable, if it could be determined, and the time.
-/

namespace Rylus

open EventDevice (InputEvent)

/-- Conversions of `f64` on top of its arithmetic. -/
class F64Convert (F : Type*) extends F64 F, LE F where
  decidableLE : DecidableLE F
  /-- `as i32`, truncating and saturating. -/
  toI32 : F → Int32
  /-- `as f32`, rounding. -/
  asF32 : F → F

instance F64Convert.instDecidableLE {F : Type*} [F64Convert F] :
    DecidableLE F :=
  F64Convert.decidableLE

/-- Exact arithmetic. -/
instance f64ConvertRat : F64Convert ℚ where
  decidableLE := inferInstance
  toI32 value :=
    Int32.ofInt (max (-2 ^ 31) (min (2 ^ 31 - 1)
      (if 0 ≤ value then ⌊value⌋ else ⌈value⌉)))
  asF32 value := value

/-- Events after which a pointer is gone. -/
def PointerEventType.isRelease : PointerEventType → Bool
  | .up | .cancel | .leave | .out => true
  | .down | .move | .over | .enter => false

/-- A key event. -/
def key (code : Nat) (value : Int) : InputEvent := ⟨.key, code, value⟩

/-- An event of an absolute axis. -/
def absolute (code : Nat) (value : Int) : InputEvent := ⟨.absolute, code, value⟩

/-- An event of a relative axis. -/
def relative (code : Nat) (value : Int) : InputEvent := ⟨.relative, code, value⟩

/-! ### Event codes -/

def ecKeyMouseLeft : Nat := 0x110
def ecKeyMouseRight : Nat := 0x111
def ecKeyMouseMiddle : Nat := 0x112
def ecKeyToolPen : Nat := 0x140
def ecKeyToolRubber : Nat := 0x141
def ecKeyTouch : Nat := 0x14a
def ecKeyToolFinger : Nat := 0x145
def ecKeyToolDoubletap : Nat := 0x14d
def ecKeyToolTripletap : Nat := 0x14e
def ecKeyToolQuadtap : Nat := 0x14f
def ecKeyToolQuinttap : Nat := 0x148

def ecRelHwheel : Nat := 0x06
def ecRelWheel : Nat := 0x08
def ecRelWheelHiRes : Nat := 0x0b
def ecRelHwheelHiRes : Nat := 0x0c

def ecAbsoluteX : Nat := 0x00
def ecAbsoluteY : Nat := 0x01
def ecAbsolutePressure : Nat := 0x18
def ecAbsoluteDistance : Nat := 0x19
def ecAbsoluteTiltX : Nat := 0x1a
def ecAbsoluteTiltY : Nat := 0x1b
def ecAbsMtSlot : Nat := 0x2f
def ecAbsMtTouchMajor : Nat := 0x30
def ecAbsMtTouchMinor : Nat := 0x31
def ecAbsMtOrientation : Nat := 0x34
def ecAbsMtPositionX : Nat := 0x35
def ecAbsMtPositionY : Nat := 0x36
def ecAbsMtTrackingId : Nat := 0x39
def ecAbsMtPressure : Nat := 0x3a

/-- `ABS_MAXVAL`. -/
def absMaxval : Int := 65535

/-- The tool for a number of touches; there is none for more than five. -/
def toolKeyForTouchCount : Nat → Nat
  | 1 => ecKeyToolFinger
  | 2 => ecKeyToolDoubletap
  | 3 => ecKeyToolTripletap
  | 4 => ecKeyToolQuadtap
  | _ => ecKeyToolQuinttap

/-! ### Coordinates -/

section Coordinates

variable {F : Type*} [F64Convert F]

/-- `f64::clamp(0.0, 1.0)`. -/
def clampUnit (value : F) : F :=
  if value < 0.0 then 0.0 else if 1.0 < value then 1.0 else value

def computeTransformX (x geomX geomW : F) : Int :=
  (F64Convert.toI32 (clampUnit (x * geomW + geomX) * 65535.0)).toInt

def computeTransformY (y geomY geomH : F) : Int :=
  (F64Convert.toI32 (clampUnit (y * geomH + geomY) * 65535.0)).toInt

def computeTransformPressure (pressure : F) : Int :=
  (F64Convert.toI32 (pressure * 65535.0)).toInt

def computeTransformTouchSize (size : F) : Int :=
  (F64Convert.toI32 (size * 65535.0)).toInt

def computeHoverDistance (pressure : F) : Int :=
  if 0.0 < F64Convert.asF32 pressure then 0 else absMaxval

end Coordinates

/-- A uinput device with the events emitted on its virtual devices. -/
structure UInputDevice (F : Type*) where
  keyboard : List InputEvent
  stylus : List InputEvent
  mouse : List InputEvent
  touch : List InputEvent
  touches : Fin 5 → Option Int64
  toolPenActive : Bool
  penTouching : Bool
  lastPenEvent : Nat
  geometry : Rect F

namespace UInputDevice

variable {F : Type*} [F64Convert F]

def new (now : Nat) : UInputDevice F where
  keyboard := []
  stylus := []
  mouse := []
  touch := []
  touches := fun _ => none
  toolPenActive := false
  penTouching := false
  lastPenEvent := now
  geometry := ⟨0.0, 0.0, 1.0, 1.0⟩

def transformX (device : UInputDevice F) (x : F) : Int :=
  computeTransformX x device.geometry.x device.geometry.w

def transformY (device : UInputDevice F) (y : F) : Int :=
  computeTransformY y device.geometry.y device.geometry.h

omit [F64Convert F] in
/-- The slot of a pointer. -/
def findSlot (device : UInputDevice F) (id : Int64) : Option (Fin 5) :=
  (List.finRange 5).find? fun slot => device.touches slot = some id

/-- The first slot that is free. -/
def freeSlot (device : UInputDevice F) : Option (Fin 5) :=
  (List.finRange 5).find? fun slot => device.touches slot = none

/-- The number of slots occupied. -/
def activeCount (device : UInputDevice F) : Nat :=
  (List.finRange 5).countP fun slot => (device.touches slot).isSome

/-- `clear_stale_pen_hover`: fifty milliseconds after the last event of a pen
that does not touch. -/
def clearStalePenHover (device : UInputDevice F) (now : Nat) :
    UInputDevice F :=
  if device.toolPenActive && !device.penTouching &&
      decide (50000000 < now - device.lastPenEvent) then
    { device with
      toolPenActive := false
      stylus := device.stylus ++
        [key ecKeyTouch 0, key ecKeyToolPen 0, key ecKeyToolRubber 0,
          absolute ecAbsolutePressure 0] }
  else
    device

/-- A contact makes the tool one touch larger. -/
def downTools (activeCount : Nat) : List InputEvent :=
  [key ecKeyTouch 1] ++
    (if 1 < activeCount then
      [key (toolKeyForTouchCount (activeCount - 1)) 0]
    else
      []) ++
    [key (toolKeyForTouchCount activeCount) 1]

/-- The end of a contact makes the tool one touch smaller. -/
def upTools (countBefore : Nat) : List InputEvent :=
  [key ecKeyTouch 0, key (toolKeyForTouchCount countBefore) 0] ++
    if 1 ≤ countBefore - 1 then
      [key (toolKeyForTouchCount (countBefore - 1)) 1]
    else
      []

/-- Where a touch is and how large. -/
def touchAxes (device : UInputDevice F) (event : PointerEvent F) :
    List InputEvent :=
  let (major, minor, orientation) :=
    if event.width ≤ event.height then
      (computeTransformTouchSize event.height,
        computeTransformTouchSize event.width, 0)
    else
      (computeTransformTouchSize event.width,
        computeTransformTouchSize event.height, 1)
  let tx := device.transformX event.x
  let ty := device.transformY event.y
  [absolute ecAbsMtPressure (computeTransformPressure event.pressure),
    absolute ecAbsMtTouchMajor major,
    absolute ecAbsMtTouchMinor minor,
    absolute ecAbsMtOrientation orientation,
    absolute ecAbsMtPositionX tx,
    absolute ecAbsMtPositionY ty,
    absolute ecAbsoluteX tx,
    absolute ecAbsoluteY ty]

/-- Events that begin a touch or move it. -/
def touchMoved (device : UInputDevice F) (event : PointerEvent F)
    (slot : Fin 5) : List InputEvent :=
  [absolute ecAbsMtSlot slot, absolute ecAbsMtTrackingId slot] ++
    (if event.eventType = .down then downTools device.activeCount else []) ++
    device.touchAxes event

/-- Events that end a touch. -/
def touchEnded (device : UInputDevice F) (slot : Fin 5) : List InputEvent :=
  [absolute ecAbsMtSlot slot, absolute ecAbsMtTrackingId (-1)] ++
    upTools device.activeCount

/-- The arm of `send_pointer_event` for touch. -/
def sendTouchEvent (device : UInputDevice F) (event : PointerEvent F) :
    UInputDevice F :=
  match event.eventType with
  | .down | .move | .over | .enter =>
      match device.findSlot event.pointerId with
      | some slot =>
          { device with
            touch := device.touch ++ device.touchMoved event slot }
      | none =>
          match device.freeSlot with
          | some slot =>
              let device :=
                { device with
                  touches := Function.update device.touches slot
                    (some event.pointerId) }
              { device with
                touch := device.touch ++ device.touchMoved event slot }
          | none => device
  | .cancel | .up | .leave | .out =>
      match device.findSlot event.pointerId with
      | some slot =>
          { device with
            touch := device.touch ++ device.touchEnded slot
            touches := Function.update device.touches slot none }
      | none => device

/-- The arm of `send_pointer_event` for a pen. -/
def sendPenEvent (device : UInputDevice F) (event : PointerEvent F)
    (now : Nat) : UInputDevice F :=
  let device := { device with lastPenEvent := now }
  match event.eventType with
  | .down | .move | .over | .enter =>
      let isDown := decide (event.eventType = .down)
      let entersRange :=
        !device.toolPenActive && !event.buttons.contains .eraser
      let erases := decide (event.button = .eraser)
      let penTouching := device.penTouching || isDown
      { device with
        penTouching := penTouching
        toolPenActive := (device.toolPenActive || entersRange) && !erases
        stylus := device.stylus ++
          (if isDown then [key ecKeyTouch 1] else []) ++
          (if entersRange then
            [key ecKeyToolPen 1, key ecKeyToolRubber 0]
          else
            []) ++
          (if erases then [key ecKeyToolPen 0, key ecKeyToolRubber 1]
          else []) ++
          [absolute ecAbsoluteX (device.transformX event.x),
            absolute ecAbsoluteY (device.transformY event.y),
            absolute ecAbsolutePressure
              (if penTouching then computeTransformPressure event.pressure
              else 0),
            absolute ecAbsoluteTiltX event.tiltX.toInt,
            absolute ecAbsoluteTiltY event.tiltY.toInt,
            absolute ecAbsoluteDistance
              (computeHoverDistance event.pressure)] }
  | .up | .cancel | .leave | .out =>
      { device with
        toolPenActive := false
        penTouching := false
        stylus := device.stylus ++
          [key ecKeyTouch 0, key ecKeyToolPen 0, key ecKeyToolRubber 0,
            absolute ecAbsolutePressure 0,
            absolute ecAbsoluteDistance absMaxval] }

/-- The key of a mouse button; only three buttons have one. -/
def mouseKey (button : Button) : Option Nat :=
  if button = .primary then some ecKeyMouseLeft
  else if button = .secondary then some ecKeyMouseRight
  else if button = .auxiliary then some ecKeyMouseMiddle
  else none

/-- The arm of `send_pointer_event` for a mouse. -/
def sendMouseEvent (device : UInputDevice F) (event : PointerEvent F) :
    UInputDevice F :=
  match event.eventType with
  | .down | .move | .over | .enter =>
      let presses :=
        match event.eventType, mouseKey event.button with
        | .down, some code => [key code 1]
        | _, _ => []
      { device with
        mouse := device.mouse ++ presses ++
          [absolute ecAbsoluteX (device.transformX event.x),
            absolute ecAbsoluteY (device.transformY event.y)] }
  | .up | .cancel | .leave | .out =>
      match mouseKey event.button with
      | some code => { device with mouse := device.mouse ++ [key code 0] }
      | none => device

/-- `send_pointer_event`; without a geometry, or when the window could not be
activated, no input is sent. -/
def sendPointerEvent (device : UInputDevice F) (event : PointerEvent F)
    (geometry : Option (Rect F)) (now : Nat) : UInputDevice F :=
  match geometry with
  | none => device
  | some geometry =>
      let device := { device with geometry := geometry }
      let device := device.clearStalePenHover now
      match event.pointerType with
      | .touch => device.sendTouchEvent event
      | .pen => device.sendPenEvent event now
      | .mouse | .unknown => device.sendMouseEvent event

/-- `send_wheel_event`. -/
def sendWheelEvent (device : UInputDevice F) (event : WheelEvent)
    (activated : Bool) : UInputDevice F :=
  if activated then
    { device with
      mouse := device.mouse ++
        [relative ecRelWheel event.dy.toInt.sign,
          relative ecRelHwheel event.dx.toInt.sign,
          relative ecRelWheelHiRes event.dy.toInt,
          relative ecRelHwheelHiRes event.dx.toInt] }
  else
    device

/-! ### What an event leaves alone -/

omit [F64Convert F] in
theorem clearStalePenHover_frame (device : UInputDevice F) (now : Nat) :
    ∃ stylus toolPenActive, device.clearStalePenHover now =
      { device with stylus := stylus, toolPenActive := toolPenActive } := by
  unfold clearStalePenHover
  split
  · exact ⟨_, _, rfl⟩
  · exact ⟨_, _, rfl⟩

theorem sendTouchEvent_frame (device : UInputDevice F)
    (event : PointerEvent F) :
    ∃ touch touches, device.sendTouchEvent event =
      { device with touch := touch, touches := touches } := by
  unfold sendTouchEvent
  cases event.eventType with
  | up | cancel | leave | out =>
      cases device.findSlot event.pointerId <;> exact ⟨_, _, rfl⟩
  | _ =>
      cases device.findSlot event.pointerId with
      | some slot => exact ⟨_, _, rfl⟩
      | none => cases device.freeSlot <;> exact ⟨_, _, rfl⟩

theorem sendPenEvent_frame (device : UInputDevice F) (event : PointerEvent F)
    (now : Nat) :
    ∃ stylus toolPenActive penTouching, device.sendPenEvent event now =
      { device with
        stylus := stylus
        toolPenActive := toolPenActive
        penTouching := penTouching
        lastPenEvent := now } := by
  unfold sendPenEvent
  cases event.eventType <;> exact ⟨_, _, _, rfl⟩

theorem sendMouseEvent_frame (device : UInputDevice F)
    (event : PointerEvent F) :
    ∃ mouse, device.sendMouseEvent event = { device with mouse := mouse } := by
  unfold sendMouseEvent
  cases event.eventType with
  | up | cancel | leave | out =>
      cases mouseKey event.button <;> exact ⟨_, rfl⟩
  | _ => exact ⟨_, rfl⟩

end UInputDevice

end Rylus
