import Rylus.Json
import Rylus.Protocol

/-!
# Input events in the browser

What the client sends for an event of the DOM.  Its numbers are exact here; a
quotient by zero is not finite.
-/

namespace Rylus

/-- A number as the client computes it. -/
inductive JsNumber where
  | finite (value : ℚ)
  | notFinite
  deriving DecidableEq

def JsNumber.quotient (dividend divisor : ℚ) : JsNumber :=
  if divisor = 0 then .notFinite else .finite (dividend / divisor)

/-- The literal that `JSON.stringify` writes, as the server's parser sees it:
an integer has no fraction and fits into 64 bits. -/
def JsNumber.toJson : JsNumber → Json ℚ
  | .finite value =>
      if value.den = 1 ∧ -2 ^ 63 ≤ value.num ∧ value.num < 2 ^ 64 then
        .integer value.num
      else
        .float value
  | .notFinite => .null

/-- The literal of an integer. -/
def integerJson (value : Int) : Json ℚ :=
  (JsNumber.finite value).toJson

/-- `Math.round`: halves are rounded up. -/
def mathRound (value : ℚ) : Int :=
  ⌊value + 1 / 2⌋

/-! ### Events of the DOM -/

/-- Milliseconds since the page was opened, less than half a million years
ago. -/
structure TimeStamp where
  millis : ℚ
  nonneg : 0 ≤ millis
  fits : mathRound (millis * 1000) < 2 ^ 64

/-- The numbering of `button` is -1 for no button, then left, middle, right,
back, forward and eraser; `buttons` is a set of six bits. -/
structure DomPointerEvent where
  pointerId : Int32
  timeStamp : TimeStamp
  isPrimary : Bool
  pointerType : PointerType
  button : Int
  buttonDefined : -1 ≤ button ∧ button ≤ 5
  buttons : UInt16
  buttonsDefined : buttons < 64
  clientX : ℚ
  clientY : ℚ
  pressure : ℚ
  tiltX : Int32
  tiltY : Int32
  twist : Int32
  width : ℚ
  height : ℚ

structure DomRect where
  left : ℚ
  top : ℚ
  width : ℚ
  height : ℚ

structure DomWheelEvent where
  deltaX : ℚ
  deltaY : ℚ
  deltaMode : Nat
  timeStamp : TimeStamp

/-- The strings are well-formed Unicode. -/
structure DomKeyboardEvent where
  code : String
  key : String
  location : Fin 4
  altKey : Bool
  ctrlKey : Bool
  shiftKey : Bool
  metaKey : Bool
  repeats : Bool

/-- The names of the pointer types in the DOM. -/
def domPointerType : PointerType → String
  | .unknown => ""
  | .mouse => "mouse"
  | .pen => "pen"
  | .touch => "touch"

/-! ### Pointer events -/

inductive PressurePreset where
  | linear
  | soft
  | firm
  deriving DecidableEq, Repr

/-- `PRESSURE_PRESETS`: the control point of each curve. -/
def pressurePresets : PressurePreset → ℚ × ℚ
  | .linear => (1 / 2, 1 / 2)
  | .soft => (1 / 2, 1 / 5)
  | .firm => (1 / 2, 4 / 5)

/-- A quadratic Bézier curve from (0, 0) to (1, 1). -/
def applyPressureCurve (pressure : ℚ) (preset : PressurePreset) : ℚ :=
  if preset = .linear then
    pressure
  else
    let t := pressure
    let cp := pressurePresets preset
    let oneMinusT := 1 - t
    oneMinusT * oneMinusT * 0 + 2 * oneMinusT * t * cp.2 + t * t * 1

/-- The settings that pointer events depend on, and `Math.sqrt`. -/
structure InputSettings where
  minPressure : ℚ
  pressureCurvePreset : PressurePreset
  enableStylus : Bool
  enablePalmRejection : Bool
  mathSqrt : ℚ → ℚ

def computeNormalizedCoord (clientPos rectStart rectSize : ℚ) : JsNumber :=
  .quotient (clientPos - rectStart) rectSize

structure PEvent where
  eventType : String
  pointerId : Int
  timestamp : Int
  isPrimary : Bool
  pointerType : String
  button : Int
  buttons : Int
  x : JsNumber
  y : JsNumber
  pressure : ℚ
  tiltX : Int
  tiltY : Int
  width : JsNumber
  height : JsNumber
  twist : Int

namespace PEvent

/-- The secondary and auxiliary buttons are ordered differently for the
button and buttons properties. -/
def buttonBit (button : Int) : Int :=
  let btn := if button = 2 then 1 else if button = 1 then 2 else button
  if btn < 0 then 0 else ((1 : Int32) <<< Int32.ofInt btn).toInt

/-- `diag_len`. -/
def diagonal (settings : InputSettings) (rect : DomRect) : ℚ :=
  let length := settings.mathSqrt
    (rect.width * rect.width + rect.height * rect.height)
  if length = 0 then 1 else length

def pressureOf (settings : InputSettings) (event : DomPointerEvent) : ℚ :=
  let rawPressure :=
    if event.pressure = 0 then 0
    else max event.pressure settings.minPressure
  if domPointerType event.pointerType = "pen" ∧
      settings.pressureCurvePreset ≠ .linear ∧ 0 < rawPressure then
    applyPressureCurve rawPressure settings.pressureCurvePreset
  else
    rawPressure

def new (settings : InputSettings) (eventType : String)
    (event : DomPointerEvent) (targetRect : DomRect) : PEvent where
  eventType := eventType
  pointerId := event.pointerId.toInt
  timestamp := mathRound (event.timeStamp.millis * 1000)
  isPrimary := event.isPrimary
  pointerType := domPointerType event.pointerType
  button := buttonBit event.button
  buttons := event.buttons.toNat
  x := computeNormalizedCoord event.clientX targetRect.left targetRect.width
  y := computeNormalizedCoord event.clientY targetRect.top targetRect.height
  pressure := pressureOf settings event
  tiltX := event.tiltX.toInt
  tiltY := event.tiltY.toInt
  width := .quotient event.width (diagonal settings targetRect)
  height := .quotient event.height (diagonal settings targetRect)
  twist := event.twist.toInt

def toJson (event : PEvent) : Json ℚ :=
  .object [
    ("event_type", .string event.eventType),
    ("pointer_id", integerJson event.pointerId),
    ("timestamp", integerJson event.timestamp),
    ("is_primary", .bool event.isPrimary),
    ("pointer_type", .string event.pointerType),
    ("button", integerJson event.button),
    ("buttons", integerJson event.buttons),
    ("x", event.x.toJson),
    ("y", event.y.toJson),
    ("pressure", (JsNumber.finite event.pressure).toJson),
    ("tilt_x", integerJson event.tiltX),
    ("tilt_y", integerJson event.tiltY),
    ("width", event.width.toJson),
    ("height", event.height.toJson),
    ("twist", integerJson event.twist)]

end PEvent

/-- The event types the listeners are registered with. -/
def listenerEventType : PointerEventType → String
  | .down => "pointerdown"
  | .up => "pointerup"
  | .cancel => "pointercancel"
  | .move => "pointermove"
  | .out => "pointerout"
  | .leave => "pointerleave"
  | .enter => "pointerenter"
  | .over => "pointerover"

/-- An event as it is dispatched: the events coalesced into it, where the
browser tells them, and the rectangle of its target. -/
structure PointerDispatch where
  event : DomPointerEvent
  coalesced : Option (List DomPointerEvent)
  targetRect : DomRect

namespace PointerHandler

/-- The events that a dispatched event stands for. -/
def sourceEvents (eventType : String) (dispatch : PointerDispatch) :
    List DomPointerEvent :=
  if eventType = "pointermove" then
    dispatch.coalesced.getD [dispatch.event]
  else
    [dispatch.event]

/-- What is sent for a list of events; for none at all, reading the first one
fails. -/
def message (settings : InputSettings) (eventType : String)
    (events : List DomPointerEvent) (rect : DomRect) : Option (Json ℚ) :=
  if 1 < events.length then
    some (.tagged "batched_pointer_events"
      (.array (events.map fun event =>
        (PEvent.new settings eventType event rect).toJson)))
  else
    events.head?.map fun event =>
      .tagged "PointerEvent" (PEvent.new settings eventType event rect).toJson

end PointerHandler

/-- The handler with the time of the last pen event. -/
structure PointerHandler where
  pointerTypes : List String
  lastPenEventTime : Nat

namespace PointerHandler

/-- `shouldRejectTouch`. -/
def shouldRejectTouch (handler : PointerHandler) (now : Nat) : Bool :=
  now - handler.lastPenEventTime < 100

/-- A pen locks out touches for a while. -/
def onEvent (handler : PointerHandler) (settings : InputSettings)
    (dispatch : PointerDispatch) (eventType : String) (now : Nat) :
    PointerHandler × Option (Json ℚ) :=
  let pointerType := domPointerType dispatch.event.pointerType
  if handler.pointerTypes.contains pointerType then
    let palmRejectActive :=
      settings.enablePalmRejection && settings.enableStylus
    if palmRejectActive ∧ pointerType = "touch" ∧
        handler.shouldRejectTouch now then
      (handler, none)
    else
      let handler :=
        if palmRejectActive ∧ pointerType = "pen" then
          { handler with lastPenEventTime := now }
        else
          handler
      (handler, message settings eventType (sourceEvents eventType dispatch)
        dispatch.targetRect)
  else
    (handler, none)

end PointerHandler

/-! ### Wheel events -/

structure WEvent where
  dx : Int
  dy : Int
  timestamp : Int

namespace WEvent

/-- The pixels of a line and of a page. -/
def scale (deltaMode : Nat) : ℚ :=
  match deltaMode with
  | 1 => 10
  | 2 => 1000
  | _ => 1

def new (event : DomWheelEvent) : WEvent where
  dx := mathRound (scale event.deltaMode * event.deltaX)
  dy := mathRound (scale event.deltaMode * event.deltaY)
  timestamp := mathRound (event.timeStamp.millis * 1000)

def toJson (event : WEvent) : Json ℚ :=
  .object [
    ("dx", integerJson event.dx),
    ("dy", integerJson event.dy),
    ("timestamp", integerJson event.timestamp)]

/-- What the wheel listener sends. -/
def message (event : DomWheelEvent) : Json ℚ :=
  .tagged "WheelEvent" (new event).toJson

end WEvent

/-! ### Keyboard events -/

structure KEvent where
  eventType : String
  code : String
  key : String
  location : Int
  alt : Bool
  ctrl : Bool
  shift : Bool
  «meta» : Bool

namespace KEvent

def new (eventType : String) (event : DomKeyboardEvent) : KEvent where
  eventType := eventType
  code := event.code
  key := event.key
  location := event.location
  alt := event.altKey
  ctrl := event.ctrlKey
  shift := event.shiftKey
  «meta» := event.metaKey

def toJson (event : KEvent) : Json ℚ :=
  .object [
    ("event_type", .string event.eventType),
    ("code", .string event.code),
    ("key", .string event.key),
    ("location", integerJson event.location),
    ("alt", .bool event.alt),
    ("ctrl", .bool event.ctrl),
    ("shift", .bool event.shift),
    ("meta", .bool event.meta)]

end KEvent

namespace KeyboardHandler

/-- `onEvent`. -/
def message (event : DomKeyboardEvent) (eventType : String) : Json ℚ :=
  .tagged "KeyboardEvent" (KEvent.new eventType event).toJson

/-- `onkeydown`, unless the settings are open. -/
def onKeyDown (event : DomKeyboardEvent) : Json ℚ :=
  if event.repeats then message event "repeat" else message event "down"

/-- `onkeyup`, unless the settings are open. -/
def onKeyUp (event : DomKeyboardEvent) : Json ℚ :=
  message event "up"

end KeyboardHandler

end Rylus
