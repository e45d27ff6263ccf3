import Rylus.Json
import Rylus.Protocol

/-!
# The wire format

How messages are written as JSON and read back.  Structures are objects with
one member for each field; a few fields have encoders or decoders of their
own.
-/

namespace Rylus

open Json (DecodeError)

variable {Number : Type}

/-! ### Enumerations of names -/

def PointerType.tag : PointerType → String
  | .unknown => ""
  | .mouse => "mouse"
  | .pen => "pen"
  | .touch => "touch"

def PointerType.variants : List PointerType := [.unknown, .mouse, .pen, .touch]

def PointerEventType.tag : PointerEventType → String
  | .down => "pointerdown"
  | .up => "pointerup"
  | .cancel => "pointercancel"
  | .move => "pointermove"
  | .over => "pointerover"
  | .enter => "pointerenter"
  | .leave => "pointerleave"
  | .out => "pointerout"

def PointerEventType.variants : List PointerEventType :=
  [.down, .up, .cancel, .move, .over, .enter, .leave, .out]

def KeyboardEventType.tag : KeyboardEventType → String
  | .down => "down"
  | .up => "up"
  | .repeat => "repeat"

def KeyboardEventType.variants : List KeyboardEventType :=
  [.down, .up, .repeat]

def KeyboardLocation.tag : KeyboardLocation → String
  | .standard => "STANDARD"
  | .left => "LEFT"
  | .right => "RIGHT"
  | .numpad => "NUMPAD"

theorem readTag_pointerType (pointerType : PointerType) :
    Json.readTag PointerType.variants PointerType.tag
      (.string pointerType.tag : Json Number) = .ok pointerType := by
  apply Json.readTag_string
  · cases pointerType <;> decide
  · cases pointerType <;> decide

theorem readTag_pointerEventType (eventType : PointerEventType) :
    Json.readTag PointerEventType.variants PointerEventType.tag
      (.string eventType.tag : Json Number) = .ok eventType := by
  apply Json.readTag_string
  · cases eventType <;> decide
  · cases eventType <;> decide

theorem readTag_keyboardEventType (eventType : KeyboardEventType) :
    Json.readTag KeyboardEventType.variants KeyboardEventType.tag
      (.string eventType.tag : Json Number) = .ok eventType := by
  apply Json.readTag_string
  · cases eventType <;> decide
  · cases eventType <;> decide

/-! ### Fields with encoders or decoders of their own -/

/-- A location is read from its code, though written as its name. -/
def locationFrom (json : Json Number) :
    Except DecodeError KeyboardLocation := do
  let code ← Json.readUInt8 json
  if code = 0 then .ok .standard
  else if code = 1 then .ok .left
  else if code = 2 then .ok .right
  else if code = 3 then .ok .numpad
  else .error (.custom "Failed to parse keyboard location code.")

/-- `Button::from_bits`. -/
def Button.fromBits (bits : UInt8) : Option Button :=
  if defined : bits < 64 then some ⟨bits, defined⟩ else none

def buttonFrom (json : Json Number) : Except DecodeError Button := do
  let bits ← Json.readUInt8 json
  match Button.fromBits bits with
  | some button => .ok button
  | none => .error (.custom "Failed to parse button code.")

def buttonTo (button : Button) : Json Number :=
  .integer button.bits.toNat

theorem buttonFrom_buttonTo (button : Button) :
    buttonFrom (buttonTo button : Json Number) = .ok button := by
  simp [buttonFrom, buttonTo, bind, Except.bind, Button.fromBits,
    button.defined]

/-- A name is not a code. -/
theorem locationFrom_tag (location : KeyboardLocation) :
    locationFrom (.string location.tag : Json Number) =
      .error .invalidType :=
  rfl

/-! ### Structures without floats -/

def WheelEvent.serialize (event : WheelEvent) : Json Number :=
  .object [
    ("dx", .integer event.dx.toInt),
    ("dy", .integer event.dy.toInt),
    ("timestamp", .integer event.timestamp.toNat)]

def WheelEvent.deserialize (json : Json Number) :
    Except DecodeError WheelEvent := do
  let members ← Json.fields ["dx", "dy", "timestamp"] 0 json
  return {
    dx := ← Json.required members "dx" Json.readInt32
    dy := ← Json.required members "dy" Json.readInt32
    timestamp := ← Json.required members "timestamp" Json.readUInt64 }

theorem WheelEvent.deserialize_serialize (event : WheelEvent) :
    WheelEvent.deserialize (event.serialize : Json Number) = .ok event := by
  rw [deserialize, serialize, Json.fields_object (by simp)]
  simp [bind, Except.bind, pure, Except.pure, Json.required, List.lookup_cons]

def KeyboardEvent.serialize (event : KeyboardEvent) : Json Number :=
  .object [
    ("event_type", .string event.eventType.tag),
    ("code", .string event.code),
    ("key", .string event.key),
    ("location", .string event.location.tag),
    ("alt", .bool event.alt),
    ("ctrl", .bool event.ctrl),
    ("shift", .bool event.shift),
    ("meta", .bool event.meta)]

def KeyboardEvent.deserialize (json : Json Number) :
    Except DecodeError KeyboardEvent := do
  let members ← Json.fields ["event_type", "code", "key", "location", "alt",
    "ctrl", "shift", "meta"] 0 json
  return {
    eventType := ← Json.required members "event_type"
      (Json.readTag KeyboardEventType.variants KeyboardEventType.tag)
    code := ← Json.required members "code" Json.readString
    key := ← Json.required members "key" Json.readString
    location := ← Json.required members "location" locationFrom
    alt := ← Json.required members "alt" Json.readBool
    ctrl := ← Json.required members "ctrl" Json.readBool
    shift := ← Json.required members "shift" Json.readBool
    «meta» := ← Json.required members "meta" Json.readBool }

/-- The two halves of the location do not match. -/
theorem KeyboardEvent.deserialize_serialize (event : KeyboardEvent) :
    KeyboardEvent.deserialize (event.serialize : Json Number) =
      .error .invalidType := by
  rw [deserialize, serialize, Json.fields_object (by simp)]
  simp [bind, Except.bind, Json.required, List.lookup_cons,
    readTag_keyboardEventType, locationFrom_tag]

/-! ### The floats of a message -/

def PointerEvent.floats (event : PointerEvent Number) : List Number :=
  [event.x, event.y, event.pressure, event.width, event.height] ++
    event.altitudeAngle.toList ++ event.azimuthAngle.toList

def Rect.floats (rect : Rect Number) : List Number :=
  [rect.x, rect.y, rect.w, rect.h]

def CustomInputAreas.floats (areas : CustomInputAreas Number) :
    List Number :=
  (areas.mouse.toList ++ areas.touch.toList ++ areas.pen.toList).flatMap
    Rect.floats

def MessageInbound.floats : MessageInbound Number → List Number
  | .pointerEvent event => event.floats
  | .batchedPointerEvents events => events.flatMap PointerEvent.floats
  | .config configuration => [configuration.frameRate]
  | .bufferHealth bufferSeconds => [bufferSeconds]
  | .hello _ | .wheelEvent _ | .keyboardEvent _ | .getCapturableList
  | .pauseVideo | .resumeVideo | .restartVideo | .chooseCustomInputAreas
  | .heartbeat | .requestKeyframe | .clientRtt _ => []

def MessageOutbound.floats : MessageOutbound Number → List Number
  | .customInputAreas areas => areas.floats
  | .hello _ | .helloNack _ _ _ | .capturableList _ | .newVideo
  | .videoInit _ | .configOk | .configError _ | .error _
  | .heartbeatAck _ => []

/-! ### Structures with floats -/

variable [JsonNumber Number]

def PointerEvent.serialize (event : PointerEvent Number) : Json Number :=
  .object [
    ("event_type", .string event.eventType.tag),
    ("pointer_id", .integer event.pointerId.toInt),
    ("timestamp", .integer event.timestamp.toNat),
    ("is_primary", .bool event.isPrimary),
    ("pointer_type", .string event.pointerType.tag),
    ("button", buttonTo event.button),
    ("buttons", buttonTo event.buttons),
    ("x", Json.ofFloat event.x),
    ("y", Json.ofFloat event.y),
    ("pressure", Json.ofFloat event.pressure),
    ("tilt_x", .integer event.tiltX.toInt),
    ("tilt_y", .integer event.tiltY.toInt),
    ("twist", .integer event.twist.toInt),
    ("width", Json.ofFloat event.width),
    ("height", Json.ofFloat event.height),
    ("altitude_angle", Json.ofOption Json.ofFloat event.altitudeAngle),
    ("azimuth_angle", Json.ofOption Json.ofFloat event.azimuthAngle)]

/-- The angles have defaults. -/
def PointerEvent.deserialize (json : Json Number) :
    Except DecodeError (PointerEvent Number) := do
  let members ← Json.fields ["event_type", "pointer_id", "timestamp",
    "is_primary", "pointer_type", "button", "buttons", "x", "y", "pressure",
    "tilt_x", "tilt_y", "twist", "width", "height", "altitude_angle",
    "azimuth_angle"] 2 json
  return {
    eventType := ← Json.required members "event_type"
      (Json.readTag PointerEventType.variants PointerEventType.tag)
    pointerId := ← Json.required members "pointer_id" Json.readInt64
    timestamp := ← Json.required members "timestamp" Json.readUInt64
    isPrimary := ← Json.required members "is_primary" Json.readBool
    pointerType := ← Json.required members "pointer_type"
      (Json.readTag PointerType.variants PointerType.tag)
    button := ← Json.required members "button" buttonFrom
    buttons := ← Json.required members "buttons" buttonFrom
    x := ← Json.required members "x" Json.readFloat
    y := ← Json.required members "y" Json.readFloat
    pressure := ← Json.required members "pressure" Json.readFloat
    tiltX := ← Json.required members "tilt_x" Json.readInt32
    tiltY := ← Json.required members "tilt_y" Json.readInt32
    twist := ← Json.required members "twist" Json.readInt32
    width := ← Json.required members "width" Json.readFloat
    height := ← Json.required members "height" Json.readFloat
    altitudeAngle := ← Json.optional members "altitude_angle" Json.readFloat
    azimuthAngle := ← Json.optional members "azimuth_angle" Json.readFloat }

theorem readOption_ofOption_ofFloat {value : Option Number}
    (finite : ∀ float ∈ value, JsonNumber.isFinite float = true) :
    Json.readOption Json.readFloat (Json.ofOption Json.ofFloat value) =
      .ok value := by
  apply Json.readOption_ofOption
  · intro float given
    simp [Json.ofFloat, finite float given]
  · intro float given
    exact Json.readFloat_ofFloat (finite float given)

theorem PointerEvent.deserialize_serialize (event : PointerEvent Number)
    (finite : ∀ float ∈ event.floats, JsonNumber.isFinite float = true) :
    PointerEvent.deserialize event.serialize = .ok event := by
  have altitude : Json.readOption Json.readFloat
      (Json.ofOption Json.ofFloat event.altitudeAngle) =
        .ok event.altitudeAngle :=
    readOption_ofOption_ofFloat fun float given =>
      finite float (by simp [floats, Option.mem_def.mp given])
  have azimuth : Json.readOption Json.readFloat
      (Json.ofOption Json.ofFloat event.azimuthAngle) =
        .ok event.azimuthAngle :=
    readOption_ofOption_ofFloat fun float given =>
      finite float (by simp [floats, Option.mem_def.mp given])
  have x := Json.readFloat_ofFloat (finite event.x (by simp [floats]))
  have y := Json.readFloat_ofFloat (finite event.y (by simp [floats]))
  have pressure :=
    Json.readFloat_ofFloat (finite event.pressure (by simp [floats]))
  have width :=
    Json.readFloat_ofFloat (finite event.width (by simp [floats]))
  have height :=
    Json.readFloat_ofFloat (finite event.height (by simp [floats]))
  rw [deserialize, serialize, Json.fields_object (by simp)]
  simp [bind, Except.bind, pure, Except.pure, Json.required, Json.optional,
    List.lookup_cons, readTag_pointerEventType, readTag_pointerType,
    buttonFrom_buttonTo, altitude, azimuth, x, y, pressure, width, height]

def ClientConfiguration.serialize (config : ClientConfiguration Number) :
    Json Number :=
  .object [
    ("uinput_support", .bool config.uinputSupport),
    ("capturable_id", .integer config.capturableId.toNat),
    ("capture_cursor", .bool config.captureCursor),
    ("max_width", .integer config.maxWidth.toNat),
    ("max_height", .integer config.maxHeight.toNat),
    ("client_name", Json.ofOption .string config.clientName),
    ("frame_rate", Json.ofFloat config.frameRate)]

def ClientConfiguration.deserialize (json : Json Number) :
    Except DecodeError (ClientConfiguration Number) := do
  let members ← Json.fields ["uinput_support", "capturable_id",
    "capture_cursor", "max_width", "max_height", "client_name",
    "frame_rate"] 0 json
  return {
    uinputSupport := ← Json.required members "uinput_support" Json.readBool
    capturableId := ← Json.required members "capturable_id" Json.readUInt64
    captureCursor := ← Json.required members "capture_cursor" Json.readBool
    maxWidth := ← Json.required members "max_width" Json.readUInt64
    maxHeight := ← Json.required members "max_height" Json.readUInt64
    clientName := ← Json.optional members "client_name" Json.readString
    frameRate := ← Json.required members "frame_rate" Json.readFloat }

theorem ClientConfiguration.deserialize_serialize
    (config : ClientConfiguration Number)
    (finite : JsonNumber.isFinite config.frameRate = true) :
    ClientConfiguration.deserialize config.serialize = .ok config := by
  have clientName : Json.readOption Json.readString
      (Json.ofOption .string config.clientName : Json Number) =
        .ok config.clientName :=
    Json.readOption_ofOption (by simp) (by simp)
  have frameRate := Json.readFloat_ofFloat finite
  rw [deserialize, serialize, Json.fields_object (by simp)]
  simp [bind, Except.bind, pure, Except.pure, Json.required, Json.optional,
    List.lookup_cons, clientName, frameRate]

def Rect.serialize (rect : Rect Number) : Json Number :=
  .object [
    ("x", Json.ofFloat rect.x),
    ("y", Json.ofFloat rect.y),
    ("w", Json.ofFloat rect.w),
    ("h", Json.ofFloat rect.h)]

def Rect.deserialize (json : Json Number) :
    Except DecodeError (Rect Number) := do
  let members ← Json.fields ["x", "y", "w", "h"] 0 json
  return {
    x := ← Json.required members "x" Json.readFloat
    y := ← Json.required members "y" Json.readFloat
    w := ← Json.required members "w" Json.readFloat
    h := ← Json.required members "h" Json.readFloat }

theorem Rect.deserialize_serialize (rect : Rect Number)
    (finite : ∀ float ∈ rect.floats, JsonNumber.isFinite float = true) :
    Rect.deserialize rect.serialize = .ok rect := by
  have x := Json.readFloat_ofFloat (finite rect.x (by simp [floats]))
  have y := Json.readFloat_ofFloat (finite rect.y (by simp [floats]))
  have w := Json.readFloat_ofFloat (finite rect.w (by simp [floats]))
  have h := Json.readFloat_ofFloat (finite rect.h (by simp [floats]))
  rw [deserialize, serialize, Json.fields_object (by simp)]
  simp [bind, Except.bind, pure, Except.pure, Json.required, List.lookup_cons,
    x, y, w, h]

def CustomInputAreas.serialize (areas : CustomInputAreas Number) :
    Json Number :=
  .object [
    ("mouse", Json.ofOption Rect.serialize areas.mouse),
    ("touch", Json.ofOption Rect.serialize areas.touch),
    ("pen", Json.ofOption Rect.serialize areas.pen)]

def CustomInputAreas.deserialize (json : Json Number) :
    Except DecodeError (CustomInputAreas Number) := do
  let members ← Json.fields ["mouse", "touch", "pen"] 0 json
  return {
    mouse := ← Json.optional members "mouse" Rect.deserialize
    touch := ← Json.optional members "touch" Rect.deserialize
    pen := ← Json.optional members "pen" Rect.deserialize }

theorem CustomInputAreas.deserialize_serialize
    (areas : CustomInputAreas Number)
    (finite : ∀ float ∈ areas.floats, JsonNumber.isFinite float = true) :
    CustomInputAreas.deserialize areas.serialize = .ok areas := by
  have readArea : ∀ area : Option (Rect Number),
      (∀ rect ∈ area, rect ∈
        areas.mouse.toList ++ areas.touch.toList ++ areas.pen.toList) →
      Json.readOption Rect.deserialize
        (Json.ofOption Rect.serialize area) = .ok area := by
    intro area listed
    apply Json.readOption_ofOption
    · simp [Rect.serialize]
    · intro rect given
      apply Rect.deserialize_serialize
      intro float member
      exact finite float
        (List.mem_flatMap.mpr ⟨rect, listed rect given, member⟩)
  have mouse := readArea areas.mouse (by simp +contextual)
  have touch := readArea areas.touch (by simp +contextual)
  have pen := readArea areas.pen (by simp +contextual)
  rw [deserialize, serialize, Json.fields_object (by simp)]
  simp [bind, Except.bind, pure, Except.pure, Json.optional, List.lookup_cons,
    mouse, touch, pen]

/-! ### Messages -/

def MessageInbound.serialize : MessageInbound Number → Json Number
  | .hello protocolVersion =>
      .tagged "Hello"
        (.object [("protocol_version", .integer protocolVersion.toNat)])
  | .pointerEvent event => .tagged "PointerEvent" event.serialize
  | .batchedPointerEvents events =>
      .tagged "batched_pointer_events"
        (.array (events.map PointerEvent.serialize))
  | .wheelEvent event => .tagged "WheelEvent" event.serialize
  | .keyboardEvent event => .tagged "KeyboardEvent" event.serialize
  | .getCapturableList => .string "GetCapturableList"
  | .config configuration => .tagged "Config" configuration.serialize
  | .pauseVideo => .string "PauseVideo"
  | .resumeVideo => .string "ResumeVideo"
  | .restartVideo => .string "RestartVideo"
  | .chooseCustomInputAreas => .string "ChooseCustomInputAreas"
  | .bufferHealth bufferSeconds =>
      .tagged "BufferHealth"
        (.object [("buffer_seconds", Json.ofFloat bufferSeconds)])
  | .heartbeat => .string "Heartbeat"
  | .requestKeyframe => .string "RequestKeyframe"
  | .clientRtt rttMs =>
      .tagged "ClientRtt" (.object [("rtt_ms", .integer rttMs.toNat)])

/-- The variant of a name. -/
def MessageInbound.readVariant (content : Option (Json Number)) :
    String → Except DecodeError (MessageInbound Number)
  | "Hello" =>
      (Json.newtypeVariant (Json.readField "protocol_version" Json.readUInt32)
        content).map .hello
  | "PointerEvent" =>
      (Json.newtypeVariant PointerEvent.deserialize content).map .pointerEvent
  | "batched_pointer_events" =>
      (Json.newtypeVariant (Json.readList PointerEvent.deserialize)
        content).map .batchedPointerEvents
  | "WheelEvent" =>
      (Json.newtypeVariant WheelEvent.deserialize content).map .wheelEvent
  | "KeyboardEvent" =>
      (Json.newtypeVariant KeyboardEvent.deserialize content).map
        .keyboardEvent
  | "GetCapturableList" => Json.unitVariant .getCapturableList content
  | "Config" =>
      (Json.newtypeVariant ClientConfiguration.deserialize content).map
        .config
  | "PauseVideo" => Json.unitVariant .pauseVideo content
  | "ResumeVideo" => Json.unitVariant .resumeVideo content
  | "RestartVideo" => Json.unitVariant .restartVideo content
  | "ChooseCustomInputAreas" =>
      Json.unitVariant .chooseCustomInputAreas content
  | "BufferHealth" =>
      (Json.newtypeVariant (Json.readField "buffer_seconds" Json.readFloat)
        content).map .bufferHealth
  | "Heartbeat" => Json.unitVariant .heartbeat content
  | "RequestKeyframe" => Json.unitVariant .requestKeyframe content
  | "ClientRtt" =>
      (Json.newtypeVariant (Json.readField "rtt_ms" Json.readUInt32)
        content).map .clientRtt
  | other => .error (.unknownVariant other)

def MessageInbound.deserialize (json : Json Number) :
    Except DecodeError (MessageInbound Number) :=
  match Json.variant json with
  | .ok (name, content) => readVariant content name
  | .error reason => .error reason

theorem MessageInbound.deserialize_tagged (name : String)
    (content : Json Number) :
    deserialize (.tagged name content) = readVariant (some content) name :=
  rfl

theorem MessageInbound.deserialize_serialize
    (message : MessageInbound Number)
    (finite : ∀ float ∈ message.floats, JsonNumber.isFinite float = true)
    (notKeyboard : ∀ event, message ≠ .keyboardEvent event) :
    deserialize message.serialize = .ok message := by
  cases message with
  | hello protocolVersion =>
      simp [serialize, deserialize_tagged, readVariant, Except.map]
  | pointerEvent event =>
      have readsBack := event.deserialize_serialize finite
      simp [serialize, deserialize_tagged, readVariant, readsBack, Except.map]
  | batchedPointerEvents events =>
      have readsBack : Json.readList PointerEvent.deserialize
          (.array (events.map PointerEvent.serialize)) = .ok events := by
        apply Json.readList_array
        intro event member
        apply event.deserialize_serialize
        intro float inEvent
        exact finite float (List.mem_flatMap.mpr ⟨event, member, inEvent⟩)
      simp [serialize, deserialize_tagged, readVariant, readsBack, Except.map]
  | wheelEvent event =>
      have readsBack : WheelEvent.deserialize (event.serialize : Json Number) =
          .ok event :=
        event.deserialize_serialize
      simp [serialize, deserialize_tagged, readVariant, readsBack, Except.map]
  | keyboardEvent event => exact absurd rfl (notKeyboard event)
  | config configuration =>
      have readsBack :=
        configuration.deserialize_serialize
          (finite configuration.frameRate (by simp [floats]))
      simp [serialize, deserialize_tagged, readVariant, readsBack, Except.map]
  | bufferHealth bufferSeconds =>
      have readsBack :=
        Json.readFloat_ofFloat (finite bufferSeconds (by simp [floats]))
      simp [serialize, deserialize_tagged, readVariant, readsBack, Except.map]
  | clientRtt rttMs =>
      simp [serialize, deserialize_tagged, readVariant, Except.map]
  | getCapturableList | pauseVideo | resumeVideo | restartVideo
  | chooseCustomInputAreas | heartbeat | requestKeyframe => rfl

/-- Written as its name, the location of a keyboard event is not read. -/
theorem MessageInbound.deserialize_serialize_keyboardEvent
    (event : KeyboardEvent) :
    deserialize (serialize (.keyboardEvent event) : Json Number) =
      .error .invalidType := by
  have rejected : KeyboardEvent.deserialize
      (event.serialize : Json Number) = .error .invalidType :=
    event.deserialize_serialize
  simp [serialize, deserialize_tagged, readVariant, rejected, Except.map]

def MessageOutbound.serialize : MessageOutbound Number → Json Number
  | .hello protocolVersion =>
      .tagged "Hello"
        (.object [("protocol_version", .integer protocolVersion.toNat)])
  | .helloNack serverVersion minClientVersion reason =>
      .tagged "HelloNack" (.object [
        ("server_version", .integer serverVersion.toNat),
        ("min_client_version", .integer minClientVersion.toNat),
        ("reason", .string reason)])
  | .capturableList names =>
      .tagged "CapturableList" (.array (names.map .string))
  | .newVideo => .string "NewVideo"
  | .videoInit codecString =>
      .tagged "VideoInit" (.object [("codec_string", .string codecString)])
  | .configOk => .string "ConfigOk"
  | .customInputAreas areas => .tagged "CustomInputAreas" areas.serialize
  | .configError text => .tagged "ConfigError" (.string text)
  | .error text => .tagged "Error" (.string text)
  | .heartbeatAck serverTsMs =>
      .tagged "HeartbeatAck"
        (.object [("server_ts_ms", .integer serverTsMs.toNat)])

/-- The content of `HelloNack`. -/
def MessageOutbound.readHelloNack (json : Json Number) :
    Except DecodeError (MessageOutbound Number) := do
  let members ← Json.fields
    ["server_version", "min_client_version", "reason"] 0 json
  return .helloNack
    (← Json.required members "server_version" Json.readUInt32)
    (← Json.required members "min_client_version" Json.readUInt32)
    (← Json.required members "reason" Json.readString)

/-- The variant of a name. -/
def MessageOutbound.readVariant (content : Option (Json Number)) :
    String → Except DecodeError (MessageOutbound Number)
  | "Hello" =>
      (Json.newtypeVariant (Json.readField "protocol_version" Json.readUInt32)
        content).map .hello
  | "HelloNack" => Json.newtypeVariant readHelloNack content
  | "CapturableList" =>
      (Json.newtypeVariant (Json.readList Json.readString) content).map
        .capturableList
  | "NewVideo" => Json.unitVariant .newVideo content
  | "VideoInit" =>
      (Json.newtypeVariant (Json.readField "codec_string" Json.readString)
        content).map .videoInit
  | "ConfigOk" => Json.unitVariant .configOk content
  | "CustomInputAreas" =>
      (Json.newtypeVariant CustomInputAreas.deserialize content).map
        .customInputAreas
  | "ConfigError" =>
      (Json.newtypeVariant Json.readString content).map .configError
  | "Error" => (Json.newtypeVariant Json.readString content).map .error
  | "HeartbeatAck" =>
      (Json.newtypeVariant (Json.readField "server_ts_ms" Json.readUInt64)
        content).map .heartbeatAck
  | other => .error (.unknownVariant other)

def MessageOutbound.deserialize (json : Json Number) :
    Except DecodeError (MessageOutbound Number) :=
  match Json.variant json with
  | .ok (name, content) => readVariant content name
  | .error reason => .error reason

theorem MessageOutbound.deserialize_tagged (name : String)
    (content : Json Number) :
    deserialize (.tagged name content) = readVariant (some content) name :=
  rfl

theorem MessageOutbound.deserialize_serialize
    (message : MessageOutbound Number)
    (finite : ∀ float ∈ message.floats, JsonNumber.isFinite float = true) :
    deserialize message.serialize = .ok message := by
  cases message with
  | hello protocolVersion =>
      simp [serialize, deserialize_tagged, readVariant, Except.map]
  | helloNack serverVersion minClientVersion reason =>
      rw [serialize, deserialize_tagged]
      simp only [readVariant, Json.newtypeVariant_some, readHelloNack]
      rw [Json.fields_object (by simp)]
      simp [bind, Except.bind, pure, Except.pure, Json.required,
        List.lookup_cons]
  | capturableList names =>
      have readsBack : Json.readList Json.readString
          (.array (names.map .string) : Json Number) = .ok names :=
        Json.readList_array fun name _ => rfl
      simp [serialize, deserialize_tagged, readVariant, readsBack, Except.map]
  | customInputAreas areas =>
      have readsBack := areas.deserialize_serialize finite
      simp [serialize, deserialize_tagged, readVariant, readsBack, Except.map]
  | videoInit codecString | configError text | error text =>
      simp [serialize, deserialize_tagged, readVariant, Except.map]
  | heartbeatAck serverTsMs =>
      simp [serialize, deserialize_tagged, readVariant, Except.map]
  | newVideo | configOk => rfl

/-! ### Round trips -/

/-- Every message of the server is read back, and of the client every one but
a keyboard event. -/
theorem roundTrips_iff :
    (∀ message : MessageInbound Number,
      (∀ float ∈ message.floats, JsonNumber.isFinite float = true) →
        (MessageInbound.deserialize message.serialize = .ok message ↔
          ∀ event, message ≠ .keyboardEvent event)) ∧
    ∀ message : MessageOutbound Number,
      (∀ float ∈ message.floats, JsonNumber.isFinite float = true) →
        MessageOutbound.deserialize message.serialize = .ok message := by
  constructor
  · intro message finite
    constructor
    · rintro readsBack event rfl
      rw [MessageInbound.deserialize_serialize_keyboardEvent] at readsBack
      cases readsBack
    · exact message.deserialize_serialize finite
  · intro message finite
    exact message.deserialize_serialize finite

/-- A pen that touches. -/
def samplePen : PointerEvent ℚ where
  eventType := .down
  pointerId := 7
  timestamp := 1000
  isPrimary := true
  pointerType := .pen
  button := .primary
  buttons := .primary
  x := 1 / 4
  y := 1 / 2
  pressure := 1 / 3
  tiltX := -30
  tiltY := 15
  twist := 0
  width := 0
  height := 0
  altitudeAngle := some (7 / 5)
  azimuthAngle := none

/-- A pen event with an angle, and a list of names. -/
theorem roundTrips_pen_and_list :
    MessageInbound.deserialize
        (MessageInbound.serialize (.pointerEvent samplePen)) =
      .ok (.pointerEvent samplePen : MessageInbound ℚ) ∧
    MessageOutbound.deserialize
        (MessageOutbound.serialize (.capturableList ["Screen 0", "Window A"]))
      = .ok (.capturableList ["Screen 0", "Window A"] : MessageOutbound ℚ) :=
  ⟨(roundTrips_iff.1 (.pointerEvent samplePen) (fun _ _ => rfl)).mpr
    (fun _ same => nomatch same),
    roundTrips_iff.2 (.capturableList ["Screen 0", "Window A"])
      (fun _ _ => rfl)⟩

/-- Not even a plain key comes back. -/
theorem not_roundTrips_keyboardEvent :
    ¬ ∀ message : MessageInbound ℚ,
      (∀ float ∈ message.floats, JsonNumber.isFinite float = true) →
        MessageInbound.deserialize message.serialize = .ok message := by
  intro claimed
  have readsBack := claimed
    (.keyboardEvent ⟨.down, "KeyA", "a", .standard, false, false, false,
      false⟩) (fun _ _ => rfl)
  rw [MessageInbound.deserialize_serialize_keyboardEvent] at readsBack
  cases readsBack

end Rylus
