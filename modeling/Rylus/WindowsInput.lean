import Mathlib.Data.List.AList
import Rylus.UInputDevice

/-!
# The Windows backend

Pens and contacts are injected as synthetic pointers.  Every frame of contacts
has the latest record of each contact in `multitouch_map`, in an order on which
nothing depends.  The model keeps what is passed to Windows.
-/

namespace Rylus

/-- The `POINTER_FLAG_` bits that are used. -/
structure PointerFlags where
  inRange : Bool := false
  inContact : Bool := false
  primary : Bool := false
  canceled : Bool := false
  down : Bool := false
  update : Bool := false
  up : Bool := false
  deriving DecidableEq

/-- The `POINTER_CHANGE_` constants that are used. -/
inductive ButtonChangeType where
  | none
  | firstButtonDown
  | secondButtonDown
  | thirdButtonDown
  deriving DecidableEq

inductive MouseEventFlag where
  | leftDown
  | leftUp
  | rightDown
  | rightUp
  | middleDown
  | middleUp
  deriving DecidableEq

/-- `POINTER_INFO` without the fields that are always zero. -/
structure PointerInfo where
  pointerId : UInt32
  pointerFlags : PointerFlags
  ptPixelLocation : Int32 × Int32
  buttonChangeType : ButtonChangeType
  deriving DecidableEq

structure PointerTouchInfo where
  pointerInfo : PointerInfo
  pressure : UInt32
  deriving DecidableEq

structure PointerPenInfo where
  pointerInfo : PointerInfo
  pressure : UInt32
  rotation : UInt32
  tiltX : Int32
  tiltY : Int32
  deriving DecidableEq

/-- What is called in the API of Windows. -/
inductive WindowsCall where
  | injectPen (info : PointerPenInfo)
  | injectTouch (frame : List PointerTouchInfo)
  | setCursorPos (x y : Int32)
  | mouseEvent (flags : Option MouseEventFlag) (data : Int32)
  deriving DecidableEq

/-- `Geometry::VirtualScreen`. -/
structure VirtualScreen where
  offsetX : Int32
  offsetY : Int32
  width : UInt32
  height : UInt32
  left : Int32
  top : Int32
  deriving DecidableEq

structure WindowsInput where
  multitouchMap : AList fun _ : Int64 => PointerTouchInfo

namespace WindowsInput

def new : WindowsInput where
  multitouchMap := ∅

/-- `as u32` of a number, truncating and saturating. -/
def toU32 {F : Type*} [F64 F] (value : F) : UInt32 :=
  UInt32.ofNat (min (F64.toUsize value) 4294967295)

/-- `as u32` of a pointer id. -/
def contactId (pointerId : Int64) : UInt32 :=
  pointerId.toUInt64.toUInt32

variable {F : Type*} [F64Convert F]

/-- A place on a screen, of which a corner is given. -/
def place (event : PointerEvent F) (screen : VirtualScreen) (x y : Int32) :
    Int32 × Int32 :=
  (F64Convert.toI32 (event.x * F64.ofNat screen.width.toNat) + x,
    F64Convert.toI32 (event.y * F64.ofNat screen.height.toNat) + y)

def typeFlags : PointerEventType → PointerFlags
  | .down => { inRange := true, inContact := true, down := true }
  | .move | .over | .enter => { inRange := true, update := true }
  | .up => { up := true }
  | .cancel | .leave | .out =>
      { inRange := true, update := true, canceled := true }

def pointerFlags (event : PointerEvent F) : PointerFlags :=
  let flags := typeFlags event.eventType
  let flags :=
    if event.buttons = .primary then { flags with inContact := true } else flags
  if event.isPrimary then { flags with primary := true } else flags

def buttonChangeType (buttons : Button) : ButtonChangeType :=
  if buttons = .primary then .firstButtonDown
  else if buttons = .secondary then .secondButtonDown
  else if buttons = .auxiliary then .thirdButtonDown
  else .none

def pointerInfo (event : PointerEvent F) (screen : VirtualScreen) :
    PointerInfo where
  pointerId := contactId event.pointerId
  pointerFlags := pointerFlags event
  ptPixelLocation := place event screen screen.offsetX screen.offsetY
  buttonChangeType := buttonChangeType event.buttons

def pressure (event : PointerEvent F) : UInt32 :=
  toU32 (event.pressure * F64.ofNat 1024)

def penInfo (event : PointerEvent F) (screen : VirtualScreen) :
    PointerPenInfo where
  pointerInfo := pointerInfo event screen
  pressure := pressure event
  rotation := event.twist.toUInt32
  tiltX := event.tiltX
  tiltY := event.tiltY

def touchInfo (event : PointerEvent F) (screen : VirtualScreen) :
    PointerTouchInfo where
  pointerInfo := pointerInfo event screen
  pressure := pressure event

/-- The button of a mouse event, and the move of the cursor before it. -/
def mouseCalls (event : PointerEvent F) (screen : VirtualScreen) :
    List WindowsCall :=
  match event.eventType with
  | .down =>
      let flags :=
        if event.buttons = .primary then some .leftDown
        else if event.buttons = .secondary then some .rightDown
        else if event.buttons = .auxiliary then some .middleDown
        else none
      [.mouseEvent flags 0]
  | .move | .over | .enter =>
      let (x, y) := place event screen screen.left screen.top
      [.setCursorPos x y, .mouseEvent none 0]
  | .up =>
      let flags :=
        if event.button = .primary then some .leftUp
        else if event.button = .secondary then some .rightUp
        else if event.button = .auxiliary then some .middleUp
        else none
      [.mouseEvent flags 0]
  | .cancel | .leave | .out => [.mouseEvent (some .leftUp) 0]

/-- `send_pointer_event`, given whether `before_input` succeeds and what
`geometry` answers. -/
def sendPointerEvent (input : WindowsInput) (event : PointerEvent F)
    (beforeInput : Bool) (geometry : Option VirtualScreen) :
    WindowsInput × List WindowsCall :=
  match beforeInput, geometry with
  | true, some screen =>
      match event.pointerType with
      | .pen => (input, [.injectPen (penInfo event screen)])
      | .touch =>
          let multitouchMap :=
            input.multitouchMap.insert event.pointerId (touchInfo event screen)
          let frame := multitouchMap.entries.map (·.2)
          match event.eventType with
          | .down | .move | .over | .enter =>
              (⟨multitouchMap⟩, [.injectTouch frame])
          | .up | .cancel | .leave | .out =>
              (⟨multitouchMap.erase event.pointerId⟩, [.injectTouch frame])
      | .mouse => (input, mouseCalls event screen)
      | .unknown => (input, [])
  | _, _ => (input, [])

/-- The frame of a touch event. -/
def frame (input : WindowsInput) (event : PointerEvent F)
    (screen : VirtualScreen) : List PointerTouchInfo :=
  (input.multitouchMap.insert event.pointerId
    (touchInfo event screen)).entries.map (·.2)

variable {input : WindowsInput} {event : PointerEvent F}
  {screen : VirtualScreen}

/-- A touch event injects one frame and stores or removes its record. -/
theorem sendPointerEvent_touch (touch : event.pointerType = .touch) :
    input.sendPointerEvent event true (some screen) =
      (⟨if event.eventType.isRelease then
          (input.multitouchMap.insert event.pointerId
            (touchInfo event screen)).erase event.pointerId
        else
          input.multitouchMap.insert event.pointerId (touchInfo event screen)⟩,
        [.injectTouch (input.frame event screen)]) := by
  simp only [sendPointerEvent, touch, frame]
  cases event.eventType <;> rfl

/-- A frame has the record of the event and those of the other contacts. -/
theorem mem_frame {info : PointerTouchInfo} :
    info ∈ input.frame event screen ↔
      info = touchInfo event screen ∨
        ∃ id ≠ event.pointerId, input.multitouchMap.lookup id = some info := by
  have inserted : info ∈ input.frame event screen ↔
      ∃ id, (input.multitouchMap.insert event.pointerId
        (touchInfo event screen)).lookup id = some info := by
    simp only [frame, List.mem_map, Sigma.exists]
    constructor
    · rintro ⟨id, _, member, rfl⟩
      exact ⟨id, AList.mem_lookup_iff.mpr member⟩
    · rintro ⟨id, found⟩
      exact ⟨id, info, AList.mem_lookup_iff.mp found, rfl⟩
  rw [inserted]
  constructor
  · rintro ⟨id, found⟩
    by_cases own : id = event.pointerId
    · subst own
      rw [AList.lookup_insert] at found
      exact .inl (Option.some.inj found).symm
    · rw [AList.lookup_insert_ne own] at found
      exact .inr ⟨id, own, found⟩
  · rintro (rfl | ⟨id, other, found⟩)
    · exact ⟨event.pointerId, AList.lookup_insert _⟩
    · exact ⟨id, by rwa [AList.lookup_insert_ne other]⟩

/-- After a touch event the other contacts have their records. -/
theorem lookup_sendPointerEvent_of_ne {id : Int64}
    (touch : event.pointerType = .touch) (other : id ≠ event.pointerId) :
    (input.sendPointerEvent event true
        (some screen)).1.multitouchMap.lookup id =
      input.multitouchMap.lookup id := by
  rw [sendPointerEvent_touch touch]
  dsimp only
  split
  · rw [AList.lookup_erase_ne other, AList.lookup_insert_ne other]
  · rw [AList.lookup_insert_ne other]

theorem lookup_sendPointerEvent_self (touch : event.pointerType = .touch) :
    (input.sendPointerEvent event true
        (some screen)).1.multitouchMap.lookup event.pointerId =
      if event.eventType.isRelease then none
      else some (touchInfo event screen) := by
  rw [sendPointerEvent_touch touch]
  dsimp only
  split
  · rw [AList.lookup_erase]
  · rw [AList.lookup_insert]

theorem touchInfo_down :
    (touchInfo event screen).pointerInfo.pointerFlags.down =
      decide (event.eventType = .down) := by
  simp only [touchInfo, pointerInfo, pointerFlags]
  split_ifs <;> cases event.eventType <;> rfl

theorem touchInfo_up :
    (touchInfo event screen).pointerInfo.pointerFlags.up =
      decide (event.eventType = .up) := by
  simp only [touchInfo, pointerInfo, pointerFlags]
  split_ifs <;> cases event.eventType <;> rfl

end WindowsInput

end Rylus
