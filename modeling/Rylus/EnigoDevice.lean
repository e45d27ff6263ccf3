import Rylus.UInputDevice

/-!
# The enigo backend

`EnigoDevice` asks the enigo library for one action after the other.  The
model keeps what was asked; failures of single actions are only logged.  There
is no input without the geometry of the capturable and the size of the main
display.
-/

namespace Rylus

inductive EnigoButton where
  | left
  | middle
  | right
  deriving DecidableEq, Repr

inductive EnigoAxis where
  | vertical
  | horizontal
  deriving DecidableEq, Repr

inductive Direction where
  | press
  | release
  deriving DecidableEq, Repr

inductive EnigoAction where
  | scroll (length : Int) (axis : EnigoAxis)
  | moveMouse (x y : Int)
  | button (button : EnigoButton) (direction : Direction)
  deriving DecidableEq, Repr

/-- What an action makes of a button. -/
def EnigoAction.heldAfter (button : EnigoButton) (held : Bool) :
    EnigoAction → Bool
  | .button other direction =>
      if other = button then decide (direction = .press) else held
  | .scroll _ _ | .moveMouse _ _ => held

structure EnigoDevice where
  actions : List EnigoAction
  deriving DecidableEq, Repr

namespace EnigoDevice

def new : EnigoDevice where
  actions := []

/-- `send_wheel_event`. -/
def sendWheelEvent (device : EnigoDevice) (event : WheelEvent) :
    EnigoDevice where
  actions := device.actions ++
    (if event.dy ≠ 0 then [.scroll (-event.dy).toInt .vertical] else []) ++
    (if event.dx ≠ 0 then [.scroll event.dx.toInt .horizontal] else [])

/-- Only three buttons are known to the library. -/
def enigoButton (button : Button) : Option EnigoButton :=
  if button = .primary then some .left
  else if button = .auxiliary then some .middle
  else if button = .secondary then some .right
  else none

variable {F : Type*} [F64Convert F]

/-- `f64::clamp`. -/
def clamp (value low high : F) : F :=
  if value < low then low else if high < value then high else value

/-- Where the pointer is on the main display. -/
def position (event : PointerEvent F) (geometry : Rect F)
    (display : Nat × Nat) : Int × Int :=
  let width : F := F64.ofNat display.1
  let height : F := F64.ofNat display.2
  let px := clamp ((event.x * geometry.w + geometry.x) * width) 0.0 width
  let py := clamp ((event.y * geometry.h + geometry.y) * height) 0.0 height
  ((F64Convert.toI32 px).toInt, (F64Convert.toI32 py).toInt)

/-- `send_pointer_event`: a single pointer is supported, and a button is
pressed as long as it is among the buttons of an event that names it. -/
def sendPointerEvent (device : EnigoDevice) (event : PointerEvent F)
    (geometry : Option (Rect F)) (display : Option (Nat × Nat)) :
    EnigoDevice :=
  match event.isPrimary, geometry, display with
  | true, some geometry, some display =>
      let (px, py) := position event geometry display
      let pressed := event.buttons.contains event.button
      { actions := device.actions ++ [.moveMouse px py] ++
          match enigoButton event.button with
          | some button =>
              [.button button (if pressed then .press else .release)]
          | none => [] }
  | _, _, _ => device

/-- The button was pressed and not released since. -/
def held (device : EnigoDevice) (button : EnigoButton) : Bool :=
  device.actions.foldl (EnigoAction.heldAfter button) false

end EnigoDevice

end Rylus
