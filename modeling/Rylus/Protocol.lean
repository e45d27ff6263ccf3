import Mathlib.Init

/-!
# Messages between the browser and the server

`Number` stands for the type of the floating-point fields.  `usize` has 64
bits.
-/

namespace Rylus

inductive PointerType where
  | unknown
  | mouse
  | pen
  | touch
  deriving DecidableEq, Repr

inductive PointerEventType where
  | down
  | up
  | cancel
  | move
  | over
  | enter
  | leave
  | out
  deriving DecidableEq, Repr

inductive KeyboardEventType where
  | down
  | up
  | repeat
  deriving DecidableEq, Repr

inductive KeyboardLocation where
  | standard
  | left
  | right
  | numpad
  deriving DecidableEq, Repr

/-- A set of buttons: only the six defined bits. -/
structure Button where
  bits : UInt8
  defined : bits < 64
  deriving DecidableEq, Repr

namespace Button

def none : Button := ⟨0, by decide⟩

def primary : Button := ⟨1, by decide⟩

def secondary : Button := ⟨2, by decide⟩

def auxiliary : Button := ⟨4, by decide⟩

def fourth : Button := ⟨8, by decide⟩

def fifth : Button := ⟨16, by decide⟩

def eraser : Button := ⟨32, by decide⟩

/-- Every button of `other` is in the set. -/
def contains (buttons other : Button) : Bool :=
  buttons.bits &&& other.bits == other.bits

end Button

structure PointerEvent (Number : Type*) where
  eventType : PointerEventType
  pointerId : Int64
  timestamp : UInt64
  isPrimary : Bool
  pointerType : PointerType
  button : Button
  buttons : Button
  x : Number
  y : Number
  pressure : Number
  tiltX : Int32
  tiltY : Int32
  twist : Int32
  width : Number
  height : Number
  altitudeAngle : Option Number
  azimuthAngle : Option Number
  deriving DecidableEq, Repr

structure WheelEvent where
  dx : Int32
  dy : Int32
  timestamp : UInt64
  deriving DecidableEq, Repr

structure KeyboardEvent where
  eventType : KeyboardEventType
  code : String
  key : String
  location : KeyboardLocation
  alt : Bool
  ctrl : Bool
  shift : Bool
  «meta» : Bool
  deriving DecidableEq, Repr

structure ClientConfiguration (Number : Type*) where
  uinputSupport : Bool
  capturableId : UInt64
  captureCursor : Bool
  maxWidth : UInt64
  maxHeight : UInt64
  clientName : Option String
  frameRate : Number
  deriving DecidableEq, Repr

inductive MessageInbound (Number : Type*) where
  | hello (protocolVersion : UInt32)
  | pointerEvent (event : PointerEvent Number)
  | batchedPointerEvents (events : List (PointerEvent Number))
  | wheelEvent (event : WheelEvent)
  | keyboardEvent (event : KeyboardEvent)
  | getCapturableList
  | config (config : ClientConfiguration Number)
  | pauseVideo
  | resumeVideo
  | restartVideo
  | chooseCustomInputAreas
  | bufferHealth (bufferSeconds : Number)
  | heartbeat
  | requestKeyframe
  | clientRtt (rttMs : UInt32)
  deriving DecidableEq, Repr

structure Rect (Number : Type*) where
  x : Number
  y : Number
  w : Number
  h : Number
  deriving DecidableEq, Repr

structure CustomInputAreas (Number : Type*) where
  mouse : Option (Rect Number)
  touch : Option (Rect Number)
  pen : Option (Rect Number)
  deriving DecidableEq, Repr

inductive MessageOutbound (Number : Type*) where
  | hello (protocolVersion : UInt32)
  | helloNack (serverVersion minClientVersion : UInt32) (reason : String)
  | capturableList (names : List String)
  | newVideo
  | videoInit (codecString : String)
  | configOk
  | customInputAreas (areas : CustomInputAreas Number)
  | configError (text : String)
  | error (text : String)
  | heartbeatAck (serverTsMs : UInt64)
  deriving DecidableEq, Repr

end Rylus
