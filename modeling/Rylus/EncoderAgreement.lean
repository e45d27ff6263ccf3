import Mathlib.Data.Fin.VecNotation
import Mathlib.Tactic.FinCases
import Mathlib.Tactic.IntervalCases
import Mathlib.Tactic.NormNum
import Mathlib.Tactic.Positivity
import Mathlib.Tactic.Ring
import Rylus.WireNumerals

/-!
# Agreement of the two ends of the wire

Whatever the client sends for an input event is read by the server as that
event, up to what its parser makes of numbers that are not integers.  The
numbering of buttons in the DOM is the reference here: the client turns it
into bits, the server knows the bits by name.
-/

namespace Rylus

/-! ### What the server should receive -/

/-- The button that the DOM means. -/
def domButton (button : Int) : Button :=
  if button = 0 then .primary
  else if button = 1 then .auxiliary
  else if button = 2 then .secondary
  else if button = 3 then .fourth
  else if button = 4 then .fifth
  else if button = 5 then .eraser
  else .none

namespace DomPointerEvent

def buttonSet (event : DomPointerEvent) : Button where
  bits := event.buttons.toUInt8
  defined := by
    have defined := event.buttonsDefined
    rw [UInt8.lt_iff_toNat_lt]
    rw [UInt16.lt_iff_toNat_lt] at defined
    have below : event.buttons.toNat < 64 := defined
    simp only [UInt16.toNat_toUInt8]
    change event.buttons.toNat % 256 < 64
    omega

/-- A pressure is raised to the least one, and follows the chosen curve for
pens: `2 (1 - p) p c + p²` where `c` is 1/5 for a soft pen and 4/5 for a firm
one. -/
def expectedPressure (settings : InputSettings) (event : DomPointerEvent) :
    ℚ :=
  let raised :=
    if event.pressure = 0 then 0
    else max event.pressure settings.minPressure
  if event.pointerType = .pen ∧ 0 < raised then
    match settings.pressureCurvePreset with
    | .linear => raised
    | .soft => (2 * raised + 3 * raised ^ 2) / 5
    | .firm => (8 * raised - 3 * raised ^ 2) / 5
  else
    raised

/-- The length that sizes are relative to. -/
def targetDiagonal (settings : InputSettings) (rect : DomRect) : ℚ :=
  let diagonal := settings.mathSqrt (rect.width ^ 2 + rect.height ^ 2)
  if diagonal = 0 then 1 else diagonal

/-- The event with its coordinates relative to the target, if all its numbers
arrive. -/
def received (numerals : WireNumerals) (settings : InputSettings)
    (eventType : PointerEventType) (rect : DomRect) (event : DomPointerEvent) :
    Option (PointerEvent ℚ) := do
  let x ← numerals.crossed ((event.clientX - rect.left) / rect.width)
  let y ← numerals.crossed ((event.clientY - rect.top) / rect.height)
  let pressure ← numerals.crossed (event.expectedPressure settings)
  let width ← numerals.crossed (event.width / targetDiagonal settings rect)
  let height ← numerals.crossed (event.height / targetDiagonal settings rect)
  return {
    eventType := eventType
    pointerId := Int64.ofInt event.pointerId.toInt
    timestamp :=
      UInt64.ofNat (mathRound (event.timeStamp.millis * 1000)).toNat
    isPrimary := event.isPrimary
    pointerType := event.pointerType
    button := domButton event.button
    buttons := event.buttonSet
    x := x
    y := y
    pressure := pressure
    tiltX := event.tiltX
    tiltY := event.tiltY
    twist := event.twist
    width := width
    height := height
    altitudeAngle := none
    azimuthAngle := none }

end DomPointerEvent

/-- The event with its deltas in pixels. -/
def DomWheelEvent.received (event : DomWheelEvent) : WheelEvent where
  dx := Int32.ofInt (mathRound (WEvent.scale event.deltaMode * event.deltaX))
  dy := Int32.ofInt (mathRound (WEvent.scale event.deltaMode * event.deltaY))
  timestamp :=
    UInt64.ofNat (mathRound (event.timeStamp.millis * 1000)).toNat

/-- `DOM_KEY_LOCATION_STANDARD` and so on. -/
def domLocation : Fin 4 → KeyboardLocation :=
  ![.standard, .left, .right, .numpad]

def DomKeyboardEvent.received (event : DomKeyboardEvent)
    (eventType : KeyboardEventType) : KeyboardEvent where
  eventType := eventType
  code := event.code
  key := event.key
  location := domLocation event.location
  alt := event.altKey
  ctrl := event.ctrlKey
  shift := event.shiftKey
  «meta» := event.metaKey

/-- The pointer events of a message. -/
def MessageInbound.pointerEvents {Number : Type} :
    MessageInbound Number → List (PointerEvent Number)
  | .pointerEvent event => [event]
  | .batchedPointerEvents events => events
  | .hello _ | .wheelEvent _ | .keyboardEvent _ | .getCapturableList
  | .config _ | .pauseVideo | .resumeVideo | .restartVideo
  | .chooseCustomInputAreas | .bufferHealth _ | .heartbeat
  | .requestKeyframe | .clientRtt _ => []

/-! ### Numbers -/

theorem integerJson_eq {value : Int}
    (fits : -2 ^ 63 ≤ value ∧ value < 2 ^ 64) :
    integerJson value = .integer value := by
  simp only [integerJson, JsNumber.toJson, Rat.den_intCast, Rat.num_intCast]
  exact if_pos ⟨trivial, fits⟩

/-- Integers of 64 bits are parsed as they are. -/
theorem parse_integerJson (numerals : WireNumerals) {value : Int}
    (fits : -2 ^ 63 ≤ value ∧ value < 2 ^ 64) :
    numerals.parse (integerJson value) = some (integerJson value) := by
  rw [integerJson_eq fits, WireNumerals.parse]

theorem readInt32_integerJson {value : Int}
    (fits : -2 ^ 31 ≤ value ∧ value ≤ 2 ^ 31 - 1) :
    Json.readInt32 (integerJson value) = .ok (Int32.ofInt value) := by
  rw [integerJson_eq (by omega), Json.readInt32, Json.readInteger_integer fits]
  rfl

theorem readInt32_toInt (value : Int32) :
    Json.readInt32 (integerJson value.toInt) = .ok value := by
  have above := value.le_toInt
  have below := value.toInt_lt
  rw [integerJson_eq (by omega), Json.readInt32_integer]

theorem readInt64_toInt (value : Int32) :
    Json.readInt64 (integerJson value.toInt) =
      .ok (Int64.ofInt value.toInt) := by
  have above := value.le_toInt
  have below := value.toInt_lt
  rw [integerJson_eq (by omega), Json.readInt64,
    Json.readInteger_integer (by omega)]
  rfl

/-- The time of an event is not negative. -/
theorem TimeStamp.mathRound_nonneg (time : TimeStamp) :
    0 ≤ mathRound (time.millis * 1000) := by
  have nonneg := time.nonneg
  rw [mathRound, Int.floor_nonneg]
  positivity

theorem readUInt64_timeStamp (time : TimeStamp) :
    Json.readUInt64 (integerJson (mathRound (time.millis * 1000))) =
      .ok (UInt64.ofNat (mathRound (time.millis * 1000)).toNat) := by
  have nonneg := time.mathRound_nonneg
  have fits := time.fits
  rw [integerJson_eq (by omega), Json.readUInt64,
    Json.readInteger_integer (by omega)]
  rfl

/-! ### Buttons -/

/-- The client swaps the two buttons that the DOM orders differently. -/
theorem buttonFrom_buttonBit {button : Int}
    (defined : -1 ≤ button ∧ button ≤ 5) :
    buttonFrom (integerJson (PEvent.buttonBit button)) =
      .ok (domButton button) := by
  obtain ⟨above, below⟩ := defined
  interval_cases button <;> rfl

theorem buttonFrom_buttons (event : DomPointerEvent) :
    buttonFrom (integerJson event.buttons.toNat) =
      .ok event.buttonSet := by
  have below : event.buttons.toNat < 64 :=
    UInt16.lt_iff_toNat_lt.mp event.buttonsDefined
  have bits : UInt8.ofNat (event.buttons.toNat : Int).toNat =
      event.buttons.toUInt8 :=
    rfl
  have defined := event.buttonSet.defined
  rw [integerJson_eq (by omega), buttonFrom, Json.readUInt8,
    Json.readInteger_integer (by omega)]
  simp only [Except.map, bind, Except.bind, bits, Button.fromBits]
  rw [dif_pos (show event.buttons.toUInt8 < 64 from defined)]
  rfl

/-! ### Messages -/

/-- The two ends spell event types alike. -/
theorem listenerEventType_eq_tag (eventType : PointerEventType) :
    listenerEventType eventType = eventType.tag := by
  cases eventType <;> rfl

/-- And pointer types. -/
theorem domPointerType_eq_tag (pointerType : PointerType) :
    domPointerType pointerType = pointerType.tag := by
  cases pointerType <;> rfl

theorem pressureOf_eq (settings : InputSettings) (event : DomPointerEvent) :
    PEvent.pressureOf settings event = event.expectedPressure settings := by
  have isPen : domPointerType event.pointerType = "pen" ↔
      event.pointerType = .pen := by
    cases event.pointerType <;> decide
  unfold PEvent.pressureOf DomPointerEvent.expectedPressure
  generalize (if event.pressure = 0 then 0
    else max event.pressure settings.minPressure) = raised
  simp only [isPen]
  cases settings.pressureCurvePreset with
  | linear => simp
  | soft =>
      by_cases bends : event.pointerType = .pen ∧ 0 < raised
      · simp [bends, applyPressureCurve, pressurePresets]
        ring
      · rw [if_neg bends, if_neg fun holds => bends ⟨holds.1, holds.2.2⟩]
  | firm =>
      by_cases bends : event.pointerType = .pen ∧ 0 < raised
      · simp [bends, applyPressureCurve, pressurePresets]
        ring
      · rw [if_neg bends, if_neg fun holds => bends ⟨holds.1, holds.2.2⟩]

theorem diagonal_eq (settings : InputSettings) (rect : DomRect) :
    PEvent.diagonal settings rect =
      DomPointerEvent.targetDiagonal settings rect := by
  simp only [PEvent.diagonal, DomPointerEvent.targetDiagonal, pow_two]

theorem diagonal_ne_zero (settings : InputSettings) (rect : DomRect) :
    PEvent.diagonal settings rect ≠ 0 := by
  unfold PEvent.diagonal
  dsimp only
  split
  · exact one_ne_zero
  · assumption

/-- A sent event whose numbers are given as they were parsed. -/
def PEvent.withNumbers (sent : PEvent) (x y pressure width height : Json ℚ) :
    Json ℚ :=
  .object [
    ("event_type", .string sent.eventType),
    ("pointer_id", integerJson sent.pointerId),
    ("timestamp", integerJson sent.timestamp),
    ("is_primary", .bool sent.isPrimary),
    ("pointer_type", .string sent.pointerType),
    ("button", integerJson sent.button),
    ("buttons", integerJson sent.buttons),
    ("x", x),
    ("y", y),
    ("pressure", pressure),
    ("tilt_x", integerJson sent.tiltX),
    ("tilt_y", integerJson sent.tiltY),
    ("width", width),
    ("height", height),
    ("twist", integerJson sent.twist)]

/-- Only these numbers depend on how numerals are read. -/
theorem parse_toJson (numerals : WireNumerals) {sent : PEvent}
    (fits : ∀ value ∈ [sent.pointerId, sent.timestamp, sent.button,
      sent.buttons, sent.tiltX, sent.tiltY, sent.twist],
        -2 ^ 63 ≤ value ∧ value < 2 ^ 64) :
    numerals.parse sent.toJson = (do
      let x ← numerals.parse sent.x.toJson
      let y ← numerals.parse sent.y.toJson
      let pressure ← numerals.parse (JsNumber.finite sent.pressure).toJson
      let width ← numerals.parse sent.width.toJson
      let height ← numerals.parse sent.height.toJson
      return sent.withNumbers x y pressure width height) := by
  simp only [List.mem_cons, List.not_mem_nil, or_false, forall_eq_or_imp,
    forall_eq] at fits
  obtain ⟨pointerId, timestamp, button, buttons, tiltX, tiltY, twist⟩ := fits
  rw [PEvent.toJson, WireNumerals.parse]
  simp only [WireNumerals.parseMembers, WireNumerals.parse,
    parse_integerJson numerals pointerId,
    parse_integerJson numerals timestamp, parse_integerJson numerals button,
    parse_integerJson numerals buttons, parse_integerJson numerals tiltX,
    parse_integerJson numerals tiltY, parse_integerJson numerals twist]
  cases numerals.parse sent.x.toJson <;>
    cases numerals.parse sent.y.toJson <;>
    cases numerals.parse (JsNumber.finite sent.pressure).toJson <;>
    cases numerals.parse sent.width.toJson <;>
    cases numerals.parse sent.height.toJson <;> rfl

/-- A pointer event is read field by field. -/
theorem deserialize_withNumbers {sent : PEvent} {event : PointerEvent ℚ}
    {x y pressure width height : Json ℚ}
    (eventType : Json.readTag PointerEventType.variants PointerEventType.tag
      (.string sent.eventType : Json ℚ) = .ok event.eventType)
    (pointerId : Json.readInt64 (integerJson sent.pointerId) =
      .ok event.pointerId)
    (timestamp : Json.readUInt64 (integerJson sent.timestamp) =
      .ok event.timestamp)
    (isPrimary : sent.isPrimary = event.isPrimary)
    (pointerType : Json.readTag PointerType.variants PointerType.tag
      (.string sent.pointerType : Json ℚ) = .ok event.pointerType)
    (button : buttonFrom (integerJson sent.button) = .ok event.button)
    (buttons : buttonFrom (integerJson sent.buttons) = .ok event.buttons)
    (readX : Json.readFloat x = .ok event.x)
    (readY : Json.readFloat y = .ok event.y)
    (readPressure : Json.readFloat pressure = .ok event.pressure)
    (tiltX : Json.readInt32 (integerJson sent.tiltX) = .ok event.tiltX)
    (tiltY : Json.readInt32 (integerJson sent.tiltY) = .ok event.tiltY)
    (twist : Json.readInt32 (integerJson sent.twist) = .ok event.twist)
    (readWidth : Json.readFloat width = .ok event.width)
    (readHeight : Json.readFloat height = .ok event.height)
    (altitude : event.altitudeAngle = none)
    (azimuth : event.azimuthAngle = none) :
    PointerEvent.deserialize
      (sent.withNumbers x y pressure width height) = .ok event := by
  cases event
  rw [PointerEvent.deserialize, PEvent.withNumbers,
    Json.fields_object (by simp)]
  simp_all [bind, Except.bind, pure, Except.pure, Json.required,
    Json.optional, List.lookup_cons]

/-- All integers of an event are small. -/
theorem integers_fit (settings : InputSettings) (eventType : String)
    (event : DomPointerEvent) (rect : DomRect) :
    let sent := PEvent.new settings eventType event rect
    ∀ value ∈ [sent.pointerId, sent.timestamp, sent.button, sent.buttons,
      sent.tiltX, sent.tiltY, sent.twist],
        -2 ^ 63 ≤ value ∧ value < 2 ^ 64 := by
  have int32 : ∀ value : Int32,
      -2 ^ 63 ≤ value.toInt ∧ value.toInt < 2 ^ 64 := by
    intro value
    have above := value.le_toInt
    have below := value.toInt_lt
    omega
  have timestamp := event.timeStamp.mathRound_nonneg
  have timestampFits := event.timeStamp.fits
  have buttons := event.buttons.toNat_lt
  have button : -2 ^ 63 ≤ PEvent.buttonBit event.button ∧
      PEvent.buttonBit event.button < 2 ^ 64 := by
    obtain ⟨above, below⟩ := event.buttonDefined
    generalize event.button = button at above below
    interval_cases button <;> decide
  intro sent value member
  simp only [List.mem_cons, List.not_mem_nil, or_false] at member
  rcases member with rfl | rfl | rfl | rfl | rfl | rfl | rfl
  · exact int32 event.pointerId
  · exact ⟨by change _ ≤ mathRound _; omega, timestampFits⟩
  · exact button
  · change -2 ^ 63 ≤ (event.buttons.toNat : Int) ∧
      (event.buttons.toNat : Int) < 2 ^ 64
    omega
  · exact int32 event.tiltX
  · exact int32 event.tiltY
  · exact int32 event.twist

theorem parse_pEvent (numerals : WireNumerals) (settings : InputSettings)
    (eventType : PointerEventType) {rect : DomRect}
    (wide : rect.width ≠ 0) (high : rect.height ≠ 0)
    (event : DomPointerEvent) :
    (numerals.parse (PEvent.new settings (listenerEventType eventType) event
        rect).toJson).map PointerEvent.deserialize =
      (event.received numerals settings eventType rect).map .ok := by
  have x := WireNumerals.map_read_cases (numerals.parse_quotient
    (event.clientX - rect.left) wide)
  have y := WireNumerals.map_read_cases (numerals.parse_quotient
    (event.clientY - rect.top) high)
  have pressure := WireNumerals.map_read_cases (numerals.parse_finite
    (event.expectedPressure settings))
  have width := WireNumerals.map_read_cases (numerals.parse_quotient
    event.width (diagonal_ne_zero settings rect))
  have height := WireNumerals.map_read_cases (numerals.parse_quotient
    event.height (diagonal_ne_zero settings rect))
  rw [← pressureOf_eq] at pressure
  rw [parse_toJson numerals (integers_fit settings _ event rect)]
  unfold DomPointerEvent.received
  rw [← diagonal_eq, ← pressureOf_eq]
  simp only [PEvent.new, computeNormalizedCoord]
  obtain ⟨parsed, arrives⟩ | ⟨_, _, parsed, arrives, readX⟩ := x
  · rw [parsed, arrives]
    rfl
  rw [parsed, arrives]
  obtain ⟨parsed, arrives⟩ | ⟨_, _, parsed, arrives, readY⟩ := y
  · rw [parsed, arrives]
    rfl
  rw [parsed, arrives]
  obtain ⟨parsed, arrives⟩ | ⟨_, _, parsed, arrives, readPressure⟩ := pressure
  · rw [parsed, arrives]
    rfl
  rw [parsed, arrives]
  obtain ⟨parsed, arrives⟩ | ⟨_, _, parsed, arrives, readWidth⟩ := width
  · rw [parsed, arrives]
    rfl
  rw [parsed, arrives]
  obtain ⟨parsed, arrives⟩ | ⟨_, _, parsed, arrives, readHeight⟩ := height
  · rw [parsed, arrives]
    rfl
  rw [parsed, arrives]
  refine congrArg some (deserialize_withNumbers ?_ ?_ ?_ rfl ?_ ?_ ?_ readX
    readY readPressure ?_ ?_ ?_ readWidth readHeight rfl rfl)
  · rw [listenerEventType_eq_tag]
    exact readTag_pointerEventType eventType
  · exact readInt64_toInt event.pointerId
  · exact readUInt64_timeStamp event.timeStamp
  · rw [domPointerType_eq_tag]
    exact readTag_pointerType event.pointerType
  · exact buttonFrom_buttonBit event.buttonDefined
  · exact buttonFrom_buttons event
  · exact readInt32_toInt event.tiltX
  · exact readInt32_toInt event.tiltY
  · exact readInt32_toInt event.twist

/-- One event or a batch, all are read if their numbers arrive. -/
theorem fromStr_message (numerals : WireNumerals) {settings : InputSettings}
    {eventType : PointerEventType} {events : List DomPointerEvent}
    {rect : DomRect} {json : Json ℚ}
    (wide : rect.width ≠ 0) (high : rect.height ≠ 0)
    (sends : PointerHandler.message settings (listenerEventType eventType)
      events rect = some json) :
    (numerals.fromStr json).map MessageInbound.pointerEvents =
      events.mapM (DomPointerEvent.received numerals settings eventType
        rect) := by
  have agrees := parse_pEvent numerals settings eventType wide high
  unfold PointerHandler.message at sends
  split at sends
  · cases sends
    rw [WireNumerals.fromStr, numerals.parse_tagged, WireNumerals.parse]
    obtain ⟨parsed, arrives⟩ | ⟨elements, expected, parsed, arrives, isRead⟩ :=
      WireNumerals.map_read_cases (numerals.parseElements_map agrees events)
    · rw [parsed, arrives]
      rfl
    · rw [parsed, arrives]
      simp [MessageInbound.deserialize_tagged, MessageInbound.readVariant,
        Json.readList, isRead, Except.map, Except.toOption,
        MessageInbound.pointerEvents]
  · rename_i single
    cases events with
    | nil => cases sends
    | cons event events =>
        cases events with
        | nil =>
            cases sends
            rw [WireNumerals.fromStr, numerals.parse_tagged]
            obtain ⟨parsed, arrives⟩ | ⟨json, value, parsed, arrives,
                isRead⟩ := WireNumerals.map_read_cases (agrees event)
            · rw [parsed, List.mapM_cons, arrives]
              rfl
            · rw [parsed, List.mapM_cons, arrives]
              simp [MessageInbound.deserialize_tagged,
                MessageInbound.readVariant, isRead, Except.map,
                Except.toOption, MessageInbound.pointerEvents]
        | cons second events => simp at single

theorem message_isSome (settings : InputSettings) (eventType : String)
    (events : List DomPointerEvent) (rect : DomRect) :
    (PointerHandler.message settings eventType events rect).isSome ↔
      events ≠ [] := by
  unfold PointerHandler.message
  split
  · rename_i several
    apply iff_of_true rfl
    rintro rfl
    simp at several
  · cases events <;> simp

/-- What is sent, if anything, is the message of the source events. -/
theorem message_of_onEvent {handler : PointerHandler}
    {settings : InputSettings} {dispatch : PointerDispatch}
    {eventType : String} {now : Nat} {json : Json ℚ}
    (sends : (handler.onEvent settings dispatch eventType now).2 =
      some json) :
    PointerHandler.message settings eventType
      (PointerHandler.sourceEvents eventType dispatch) dispatch.targetRect =
        some json := by
  unfold PointerHandler.onEvent at sends
  dsimp only at sends
  split at sends
  · split at sends
    · cases sends
    · exact sends
  · cases sends

theorem deserialize_wEvent {event : DomWheelEvent}
    (dxFits : -2 ^ 31 ≤ mathRound (WEvent.scale event.deltaMode * event.deltaX)
      ∧ mathRound (WEvent.scale event.deltaMode * event.deltaX) ≤ 2 ^ 31 - 1)
    (dyFits : -2 ^ 31 ≤ mathRound (WEvent.scale event.deltaMode * event.deltaY)
      ∧ mathRound (WEvent.scale event.deltaMode * event.deltaY) ≤
        2 ^ 31 - 1) :
    MessageInbound.deserialize (WEvent.message event) =
      .ok (.wheelEvent event.received) := by
  have dx := readInt32_integerJson dxFits
  have dy := readInt32_integerJson dyFits
  have timestamp := readUInt64_timeStamp event.timeStamp
  have readsBack : WheelEvent.deserialize (WEvent.new event).toJson =
      .ok event.received := by
    rw [WheelEvent.deserialize, WEvent.toJson, Json.fields_object (by simp)]
    simp [bind, Except.bind, pure, Except.pure, Json.required, List.lookup_cons,
      WEvent.new, dx, dy, timestamp, DomWheelEvent.received]
  simp [WEvent.message, MessageInbound.deserialize_tagged,
    MessageInbound.readVariant, readsBack, Except.map]

theorem fromStr_wEvent (numerals : WireNumerals) {event : DomWheelEvent}
    (dxFits : -2 ^ 31 ≤ mathRound (WEvent.scale event.deltaMode * event.deltaX)
      ∧ mathRound (WEvent.scale event.deltaMode * event.deltaX) ≤ 2 ^ 31 - 1)
    (dyFits : -2 ^ 31 ≤ mathRound (WEvent.scale event.deltaMode * event.deltaY)
      ∧ mathRound (WEvent.scale event.deltaMode * event.deltaY) ≤
        2 ^ 31 - 1) :
    numerals.fromStr (WEvent.message event) =
      some (.wheelEvent event.received) := by
  have nonneg := event.timeStamp.mathRound_nonneg
  have timestampFits := event.timeStamp.fits
  have dx : numerals.parse (integerJson (WEvent.new event).dx) =
      some (integerJson (WEvent.new event).dx) :=
    parse_integerJson numerals (by simp only [WEvent.new]; omega)
  have dy : numerals.parse (integerJson (WEvent.new event).dy) =
      some (integerJson (WEvent.new event).dy) :=
    parse_integerJson numerals (by simp only [WEvent.new]; omega)
  have timestamp : numerals.parse (integerJson (WEvent.new event).timestamp) =
      some (integerJson (WEvent.new event).timestamp) :=
    parse_integerJson numerals (by simp only [WEvent.new]; omega)
  have parsed : numerals.parse (WEvent.message event) =
      some (WEvent.message event) := by
    rw [WEvent.message, numerals.parse_tagged, WEvent.toJson,
      WireNumerals.parse]
    simp [WireNumerals.parseMembers, dx, dy, timestamp]
  rw [WireNumerals.fromStr, parsed, Option.bind_some,
    deserialize_wEvent dxFits dyFits]
  rfl

/-- The codes of the DOM are those of the server. -/
theorem locationFrom_domLocation (location : Fin 4) :
    locationFrom (integerJson location) = .ok (domLocation location) := by
  fin_cases location <;> rfl

/-- A keyboard event is read field by field. -/
theorem deserialize_keyJson {sent : KEvent} {event : KeyboardEvent}
    (eventType : Json.readTag KeyboardEventType.variants KeyboardEventType.tag
      (.string sent.eventType : Json ℚ) = .ok event.eventType)
    (code : sent.code = event.code) (key : sent.key = event.key)
    (location : locationFrom (integerJson sent.location) =
      .ok event.location)
    (alt : sent.alt = event.alt) (ctrl : sent.ctrl = event.ctrl)
    (shift : sent.shift = event.shift) (isMeta : sent.meta = event.meta) :
    KeyboardEvent.deserialize sent.toJson = .ok event := by
  cases event
  rw [KeyboardEvent.deserialize, KEvent.toJson, Json.fields_object (by simp)]
  simp_all [bind, Except.bind, pure, Except.pure, Json.required,
    List.lookup_cons]

theorem deserialize_kEvent (event : DomKeyboardEvent)
    (eventType : KeyboardEventType) :
    MessageInbound.deserialize
        (KeyboardHandler.message event eventType.tag) =
      .ok (.keyboardEvent (event.received eventType)) := by
  have readsBack : KeyboardEvent.deserialize
      (KEvent.new eventType.tag event).toJson =
        .ok (event.received eventType) :=
    deserialize_keyJson (readTag_keyboardEventType eventType) rfl rfl
      (locationFrom_domLocation event.location) rfl rfl rfl rfl
  simp [KeyboardHandler.message, MessageInbound.deserialize_tagged,
    MessageInbound.readVariant, readsBack, Except.map]

theorem parse_keyJson (numerals : WireNumerals) {sent : KEvent}
    (fits : -2 ^ 63 ≤ sent.location ∧ sent.location < 2 ^ 64) :
    numerals.parse sent.toJson = some sent.toJson := by
  have location := parse_integerJson numerals fits
  rw [KEvent.toJson, WireNumerals.parse]
  simp [WireNumerals.parseMembers, WireNumerals.parse, location]

theorem fromStr_kEvent (numerals : WireNumerals) (event : DomKeyboardEvent)
    (eventType : KeyboardEventType) :
    numerals.fromStr (KeyboardHandler.message event eventType.tag) =
      some (.keyboardEvent (event.received eventType)) := by
  have below := event.location.isLt
  have parsed := parse_keyJson numerals
    (show -2 ^ 63 ≤ (KEvent.new eventType.tag event).location ∧
        (KEvent.new eventType.tag event).location < 2 ^ 64 by
      simp only [KEvent.new]
      omega)
  rw [WireNumerals.fromStr, KeyboardHandler.message, numerals.parse_tagged,
    parsed]
  exact congrArg Except.toOption (deserialize_kEvent event eventType)

/-! ### Agreement -/

/-- The bit of a button in the `buttons` of the DOM. -/
def domButtonsBit (button : Int) : UInt16 :=
  if button = 0 then 1
  else if button = 1 then 4
  else if button = 2 then 2
  else if button = 3 then 8
  else if button = 4 then 16
  else if button = 5 then 32
  else 0

/-- The button that is reported is among those held, as for every press. -/
def DomPointerEvent.ReportsPress (event : DomPointerEvent) : Prop :=
  event.buttons &&& domButtonsBit event.button = domButtonsBit event.button

/-- Sets of six bits have room for every button. -/
theorem contains_of_bits :
    ∀ bits : Fin 64, ∀ button ∈ [-1, 0, 1, 2, 3, 4, 5],
      UInt16.ofNat bits &&& domButtonsBit button = domButtonsBit button →
        (UInt16.ofNat bits).toUInt8 &&& (domButton button).bits =
          (domButton button).bits := by
  decide

theorem contains_of_reportsPress {event : DomPointerEvent}
    (press : event.ReportsPress) :
    event.buttonSet.contains (domButton event.button) = true := by
  have below : event.buttons.toNat < 64 :=
    UInt16.lt_iff_toNat_lt.mp event.buttonsDefined
  have listed : event.button ∈ [-1, 0, 1, 2, 3, 4, 5] := by
    obtain ⟨above, below⟩ := event.buttonDefined
    simp only [List.mem_cons, List.not_mem_nil, or_false]
    omega
  have same : UInt16.ofNat event.buttons.toNat = event.buttons :=
    UInt16.ofNat_toNat
  have included := contains_of_bits ⟨event.buttons.toNat, below⟩ event.button
    listed
  rw [same] at included
  exact beq_iff_eq.mpr (included press)

/-- An event that arrives has the buttons of its source. -/
theorem buttons_of_received {numerals : WireNumerals}
    {settings : InputSettings} {eventType : PointerEventType} {rect : DomRect}
    {source : DomPointerEvent} {event : PointerEvent ℚ}
    (arrives : source.received numerals settings eventType rect =
      some event) :
    event.button = domButton source.button ∧
      event.buttons = source.buttonSet := by
  simp only [DomPointerEvent.received, Option.bind_eq_bind,
    Option.bind_eq_some_iff] at arrives
  obtain ⟨x, _, y, _, pressure, _, width, _, height, _, same⟩ := arrives
  cases same
  exact ⟨rfl, rfl⟩

theorem exists_source_of_mapM {Source Value : Type}
    {read : Source → Option Value} {sources : List Source}
    {values : List Value} (arrive : sources.mapM read = some values) :
    ∀ value ∈ values, ∃ source ∈ sources, read source = some value := by
  induction sources generalizing values with
  | nil =>
      cases arrive
      simp
  | cons source sources ih =>
      simp only [List.mapM_cons, Option.bind_eq_bind,
        Option.bind_eq_some_iff] at arrive
      obtain ⟨first, isFirst, rest, isRest, same⟩ := arrive
      cases same
      intro value member
      rcases List.mem_cons.mp member with rfl | later
      · exact ⟨source, List.mem_cons_self, isFirst⟩
      · obtain ⟨other, isSource, isRead⟩ := ih isRest value later
        exact ⟨other, List.mem_cons_of_mem _ isSource, isRead⟩

/-- What is sent for pointer events is accepted if their numbers arrive, and is
read as these events; a press is of a button that is held. -/
def PointersAgree (numerals : WireNumerals) (settings : InputSettings) :
    Prop :=
  ∀ (eventType : PointerEventType) (events : List DomPointerEvent)
    (rect : DomRect) (json : Json ℚ), rect.width ≠ 0 → rect.height ≠ 0 →
      PointerHandler.message settings (listenerEventType eventType) events
        rect = some json →
      (numerals.fromStr json).map MessageInbound.pointerEvents =
          events.mapM (DomPointerEvent.received numerals settings eventType
            rect) ∧
        (eventType = .down → (∀ event ∈ events, event.ReportsPress) →
          ∀ message, numerals.fromStr json = some message →
            ∀ event ∈ message.pointerEvents,
              event.buttons.contains event.button = true)

/-- Wheel events are read as they are. -/
def WheelsAgree (numerals : WireNumerals) : Prop :=
  ∀ event : DomWheelEvent,
    (∀ delta ∈ [event.deltaX, event.deltaY],
      -2 ^ 31 ≤ mathRound (WEvent.scale event.deltaMode * delta) ∧
        mathRound (WEvent.scale event.deltaMode * delta) ≤ 2 ^ 31 - 1) →
      numerals.fromStr (WEvent.message event) =
        some (.wheelEvent event.received)

/-- And keyboard events. -/
def KeyboardsAgree (numerals : WireNumerals) : Prop :=
  ∀ event : DomKeyboardEvent,
    numerals.fromStr (KeyboardHandler.onKeyDown event) =
      some (.keyboardEvent
        (event.received (if event.repeats then .repeat else .down))) ∧
    numerals.fromStr (KeyboardHandler.onKeyUp event) =
      some (.keyboardEvent (event.received .up))

/-- A pen pressed down after 16 milliseconds. -/
def sampleStroke : DomPointerEvent where
  pointerId := 3
  timeStamp := ⟨16, by decide +kernel, by decide +kernel⟩
  isPrimary := true
  pointerType := .pen
  button := 0
  buttonDefined := by decide
  buttons := 1
  buttonsDefined := by decide
  clientX := 110
  clientY := 85
  pressure := 1 / 4
  tiltX := -20
  tiltY := 5
  twist := 0
  width := 125
  height := 500

/-- A soft pen in a target whose diagonal is 500 pixels long. -/
def softPen : InputSettings := ⟨1 / 10, .soft, true, true, fun _ => 500⟩

/-- The double that is written 0.9333333333333333, in a target of one
pixel. -/
def fractionalPress : DomPointerEvent :=
  { sampleStroke with clientX := 4203359652212463 / 2 ^ 52, clientY := 0 }

end Rylus
