import Rylus.UInputDevice

/-!
# The keyboard of the uinput backend

A key event presses or releases the key that its code and location stand for,
and with it the left modifier of every modifier flag it carries.  A key that
stands for nothing is typed as hexadecimal Unicode input instead.
-/

namespace Rylus

open EventDevice (InputEvent)

def keyUnknown : Nat := 240

def keyLeftctrl : Nat := 29

def keyLeftalt : Nat := 56

def keyLeftmeta : Nat := 125

def keyLeftshift : Nat := 42

def keyU : Nat := 22

/-- Keys that are others on the numeric keypad. -/
def numpadKeys : List (String × Nat) :=
  [("Digit0", 82), ("Digit1", 79), ("Digit2", 80), ("Digit3", 81),
    ("Digit4", 75), ("Digit5", 76), ("Digit6", 77), ("Digit7", 71),
    ("Digit8", 72), ("Digit9", 73), ("Minus", 74), ("Equal", 117),
    ("Enter", 96)]

/-- The keys by their codes. -/
def keyCodes : List (String × Nat) :=
  [("Escape", 1), ("Digit0", 11), ("Digit1", 2), ("Digit2", 3), ("Digit3", 4),
    ("Digit4", 5), ("Digit5", 6), ("Digit6", 7), ("Digit7", 8), ("Digit8", 9),
    ("Digit9", 10), ("Minus", 12), ("Equal", 13), ("Enter", 28),
    ("Backspace", 14), ("Tab", 15), ("KeyA", 30), ("KeyB", 48), ("KeyC", 46),
    ("KeyD", 32), ("KeyE", 18), ("KeyF", 33), ("KeyG", 34), ("KeyH", 35),
    ("KeyI", 23), ("KeyJ", 36), ("KeyK", 37), ("KeyL", 38), ("KeyM", 50),
    ("KeyN", 49), ("KeyO", 24), ("KeyP", 25), ("KeyQ", 16), ("KeyR", 19),
    ("KeyS", 31), ("KeyT", 20), ("KeyU", 22), ("KeyV", 47), ("KeyW", 17),
    ("KeyX", 45), ("KeyY", 21), ("KeyZ", 44), ("BracketLeft", 26),
    ("BracketRight", 27), ("Semicolon", 39), ("Quote", 40), ("Backquote", 41),
    ("Backslash", 43), ("Comma", 51), ("Period", 52), ("Slash", 53),
    ("Space", 57), ("CapsLock", 58), ("NumpadMultiply", 55), ("F1", 59),
    ("F2", 60), ("F3", 61), ("F4", 62), ("F5", 63), ("F6", 64), ("F7", 65),
    ("F8", 66), ("F9", 67), ("F10", 68), ("F11", 87), ("F12", 88),
    ("F13", 183), ("F14", 184), ("F15", 185), ("F16", 186), ("F17", 187),
    ("F18", 188), ("F19", 189), ("F20", 190), ("F21", 191), ("F22", 192),
    ("F23", 193), ("F24", 194), ("NumLock", 69), ("ScrollLock", 70),
    ("Numpad0", 82), ("Numpad1", 79), ("Numpad2", 80), ("Numpad3", 81),
    ("Numpad4", 75), ("Numpad5", 76), ("Numpad6", 77), ("Numpad7", 71),
    ("Numpad8", 72), ("Numpad9", 73), ("NumpadSubtract", 74),
    ("NumpadAdd", 78), ("IntlBackslash", 86), ("IntlRo", 89),
    ("NumpadEnter", 96), ("NumpadDivide", 98), ("NumpadEqual", 117),
    ("NumpadComma", 121), ("NumpadParenLeft", 179), ("NumpadParenRight", 180),
    ("KanaMode", 90), ("PrintScreen", 99), ("Home", 102), ("ArrowUp", 103),
    ("PageUp", 104), ("ArrowLeft", 105), ("ArrowRight", 106), ("End", 107),
    ("ArrowDown", 108), ("PageDown", 109), ("Insert", 110), ("Delete", 111),
    ("VolumeMute", 113), ("AudioVolumeMute", 113), ("VolumeDown", 114),
    ("AudioVolumeDown", 114), ("VolumeUp", 115), ("AudioVolumeUp", 115),
    ("Pause", 119), ("Lang1", 122), ("Lang2", 123), ("IntlYen", 124),
    ("OSLeft", 125), ("OSRight", 126), ("ContextMenu", 139), ("Cancel", 223),
    ("Again", 129), ("Props", 130), ("Undo", 131), ("Copy", 133),
    ("Open", 134), ("Paste", 135), ("Find", 136), ("Cut", 137), ("Help", 138),
    ("LaunchMail", 155), ("Eject", 161), ("MediaTrackNext", 163),
    ("MediaPlayPause", 164), ("MediaTrackPrevious", 165), ("MediaStop", 166),
    ("MediaSelect", 226), ("LaunchMediaPlayer", 226), ("Power", 116),
    ("Sleep", 142), ("WakeUp", 143), ("ControlLeft", 29), ("ControlRight", 97),
    ("AltLeft", 56), ("AltRight", 100), ("MetaLeft", 125), ("MetaRight", 126),
    ("ShiftLeft", 42), ("ShiftRight", 54)]

/-- `map_key`. -/
def mapKey (code : String) (location : KeyboardLocation) : Nat :=
  let numpad :=
    if location = .numpad then numpadKeys.lookup code else none
  match numpad with
  | some keyCode => keyCode
  | none => (keyCodes.lookup code).getD keyUnknown

/-- The value of a key event. -/
def KeyboardEventType.state : KeyboardEventType → Int
  | .up => 0
  | .down => 1
  | .repeat => 2

/-- `encode_utf16` of one character. -/
def utf16Units (character : Char) : List Nat :=
  let scalar := character.toNat
  if scalar < 0x10000 then [scalar]
  else
    [0xd800 + (scalar - 0x10000) / 0x400, 0xdc00 + (scalar - 0x10000) % 0x400]

/-- The code units of a text, each in upper-case hexadecimal. -/
def unicodeDigits (text : String) : List Char :=
  text.toList.flatMap fun character =>
    (utf16Units character).flatMap fun unit =>
      (Nat.toDigits 16 unit).map Char.toUpper

/-- The key of a hexadecimal digit. -/
def digitKey (digit : Char) : Nat :=
  if digit.isAlpha then mapKey ("Key" ++ digit.toString) .standard
  else mapKey ("Digit" ++ digit.toString) .standard

/-- Ctrl, shift and U together, then the digits one after the other. -/
def insertUnicode (text : String) : List InputEvent :=
  [key keyLeftctrl 1, key keyLeftshift 1, key keyU 1] ++
    (unicodeDigits text).flatMap (fun digit =>
      [key (digitKey digit) 1, key (digitKey digit) 0]) ++
    [key keyLeftctrl 0, key keyLeftshift 0, key keyU 0]

namespace UInputDevice

variable {F : Type*}

/-- `send_keyboard_event`; no input is sent when the window could not be
activated. -/
def sendKeyboardEvent (device : UInputDevice F) (event : KeyboardEvent)
    (activated : Bool) : UInputDevice F :=
  if activated then
    let keyCode := mapKey event.code event.location
    let state := event.eventType.state
    if keyCode = keyUnknown then
      if event.eventType = .down ∧ event.key ≠ "" then
        { device with keyboard := device.keyboard ++ insertUnicode event.key }
      else
        device
    else
      { device with
        keyboard := device.keyboard ++
          (if event.ctrl then [key keyLeftctrl state] else []) ++
          (if event.alt then [key keyLeftalt state] else []) ++
          (if event.meta then [key keyLeftmeta state] else []) ++
          (if event.shift then [key keyLeftshift state] else []) ++
          [key keyCode state] }
  else
    device

end UInputDevice

end Rylus
