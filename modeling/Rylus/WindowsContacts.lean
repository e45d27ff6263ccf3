import Rylus.LabelledExecution
import Rylus.WindowsInput

/-!
# The frames of several contacts

Each contact goes down, moves and is lifted or canceled.  The record of its
last event stands in the frames of all other contacts too, until its next
event: with it the flag that it goes down.
-/

namespace Rylus

variable {F : Type*} [F64Convert F]

/-- A touch event, with the geometry when it arrives. -/
structure TouchEvent (F : Type*) where
  event : PointerEvent F
  screen : VirtualScreen
  isTouch : event.pointerType = .touch

/-- The device, and the last event of each contact that is down. -/
structure ContactRun where
  input : WindowsInput
  last : Int64 → Option PointerEventType

namespace ContactRun

def start : ContactRun where
  input := .new
  last := fun _ => none

/-- What is passed to Windows for an event. -/
def calls (run : ContactRun) (touch : TouchEvent F) : List WindowsCall :=
  (run.input.sendPointerEvent touch.event true (some touch.screen)).2

/-- Contacts go down when they are not, and move and go up when they are. -/
def step (run : ContactRun) (touch : TouchEvent F) : Option ContactRun :=
  let id := touch.event.pointerId
  let input :=
    (run.input.sendPointerEvent touch.event true (some touch.screen)).1
  match touch.event.eventType, run.last id with
  | .down, none => some ⟨input, Function.update run.last id (some .down)⟩
  | .move, some _ => some ⟨input, Function.update run.last id (some .move)⟩
  | .up, some _ | .cancel, some _ =>
      some ⟨input, Function.update run.last id none⟩
  | _, _ => none

/-- A contact of this number in frames is down. -/
def Touching (run : ContactRun) (contact : UInt32) : Prop :=
  ∃ id, (run.last id).isSome ∧ WindowsInput.contactId id = contact

/-- What a frame may say of contacts. -/
structure ValidFrame (run : ContactRun) (event : PointerEvent F)
    (frame : List PointerTouchInfo) : Prop where
  /-- Only a contact that goes down, and was not, carries that flag. -/
  down_once : ∀ info ∈ frame, info.pointerInfo.pointerFlags.down →
    event.eventType = .down ∧
      info.pointerInfo.pointerId = WindowsInput.contactId event.pointerId ∧
        ¬ run.Touching info.pointerInfo.pointerId
  down_sent : event.eventType = .down → ∃ info ∈ frame,
    info.pointerInfo.pointerId = WindowsInput.contactId event.pointerId ∧
      info.pointerInfo.pointerFlags.down
  /-- Only a contact that goes up carries that flag. -/
  up_own : ∀ info ∈ frame, info.pointerInfo.pointerFlags.up →
    event.eventType = .up ∧
      info.pointerInfo.pointerId = WindowsInput.contactId event.pointerId
  /-- Contacts that are not down do not appear. -/
  appears : ∀ info ∈ frame, run.Touching info.pointerInfo.pointerId ∨
    event.eventType = .down ∧
      info.pointerInfo.pointerId = WindowsInput.contactId event.pointerId

/-- The frames injected for an event are valid. -/
def FramesValid (run : ContactRun) (touch : TouchEvent F) : Prop :=
  ∀ frame, .injectTouch frame ∈ run.calls touch →
    run.ValidFrame touch.event frame

/-- All other contacts have moved since they went down, and a contact that
goes down has a number that no other one has in frames. -/
def Settled (run : ContactRun) (touch : TouchEvent F) : Prop :=
  (∀ id ≠ touch.event.pointerId, run.last id ≠ some .down) ∧
    (touch.event.eventType = .down →
      ¬ run.Touching (WindowsInput.contactId touch.event.pointerId))

/-- The stored record of a contact is that of its last event. -/
inductive RecordedAt (run : ContactRun) (id : Int64) : Prop
  | lifted
      (last : run.last id = none)
      (stored : run.input.multitouchMap.lookup id = none)
  | down (type : PointerEventType) (info : PointerTouchInfo)
      (last : run.last id = some type)
      (stored : run.input.multitouchMap.lookup id = some info)
      (contact : info.pointerInfo.pointerId = WindowsInput.contactId id)
      (downFlag :
        info.pointerInfo.pointerFlags.down = decide (type = .down))
      (upFlag : info.pointerInfo.pointerFlags.up = false)

def Recorded (run : ContactRun) : Prop :=
  ∀ id, run.RecordedAt id

variable {run next : ContactRun} {touch : TouchEvent F}

/-- What an event of a contact does to the last events. -/
theorem step_cases (taken : run.step touch = some next) :
    next.input = (run.input.sendPointerEvent touch.event true
        (some touch.screen)).1 ∧
      ((touch.event.eventType.isRelease = false ∧
          (touch.event.eventType = .down ↔
            run.last touch.event.pointerId = none) ∧
          touch.event.eventType ≠ .up ∧
          next.last = Function.update run.last touch.event.pointerId
            (some touch.event.eventType)) ∨
        (touch.event.eventType.isRelease = true ∧
          (run.last touch.event.pointerId).isSome ∧
          next.last = Function.update run.last touch.event.pointerId none)) := by
  simp only [step] at taken
  split at taken
  next isDown lifted =>
      cases taken
      refine ⟨rfl, .inl ⟨?_, ?_, ?_, ?_⟩⟩ <;>
        simp [isDown, lifted, PointerEventType.isRelease]
  next type isMove isLast =>
      cases taken
      refine ⟨rfl, .inl ⟨?_, ?_, ?_, ?_⟩⟩ <;>
        simp [isMove, isLast, PointerEventType.isRelease]
  next type isUp isLast =>
      cases taken
      refine ⟨rfl, .inr ⟨?_, ?_, rfl⟩⟩ <;>
        simp [isUp, isLast, PointerEventType.isRelease]
  next type isCancel isLast =>
      cases taken
      refine ⟨rfl, .inr ⟨?_, ?_, rfl⟩⟩ <;>
        simp [isCancel, isLast, PointerEventType.isRelease]
  · cases taken

private theorem isSome_last_of_step (taken : run.step touch = some next)
    (notDown : touch.event.eventType ≠ .down) :
    (run.last touch.event.pointerId).isSome := by
  rcases (step_cases taken).2 with ⟨-, down, -⟩ | ⟨-, isDown, -⟩
  · rw [Option.isSome_iff_ne_none]
    exact fun lifted => notDown (down.mpr lifted)
  · exact isDown

theorem RecordedAt.kept_of_ne {id : Int64} (recorded : run.RecordedAt id)
    (taken : run.step touch = some next)
    (other : id ≠ touch.event.pointerId) : next.RecordedAt id := by
  obtain ⟨input, last⟩ := step_cases taken
  have sameLast : next.last id = run.last id := by
    rcases last with ⟨-, -, -, last⟩ | ⟨-, -, last⟩ <;>
      rw [last, Function.update_of_ne other]
  have sameStored : next.input.multitouchMap.lookup id =
      run.input.multitouchMap.lookup id := by
    rw [input]
    exact WindowsInput.lookup_sendPointerEvent_of_ne touch.isTouch other
  cases recorded with
  | lifted last stored =>
      exact .lifted (sameLast.trans last) (sameStored.trans stored)
  | down type info last stored contact downFlag upFlag =>
      exact .down type info (sameLast.trans last) (sameStored.trans stored)
        contact downFlag upFlag

theorem Recorded.kept (recorded : run.Recorded)
    (taken : run.step touch = some next) : next.Recorded := by
  intro id
  by_cases own : id = touch.event.pointerId
  · subst own
    obtain ⟨input, last⟩ := step_cases taken
    have stored : next.input.multitouchMap.lookup touch.event.pointerId =
        if touch.event.eventType.isRelease then none
        else some (WindowsInput.touchInfo touch.event touch.screen) := by
      rw [input]
      exact WindowsInput.lookup_sendPointerEvent_self touch.isTouch
    rcases last with ⟨stays, -, notUp, last⟩ | ⟨leaves, -, last⟩
    · apply RecordedAt.down touch.event.eventType
        (WindowsInput.touchInfo touch.event touch.screen)
      · rw [last, Function.update_self]
      · rw [stored, stays]
        rfl
      · rfl
      · exact WindowsInput.touchInfo_down
      · rw [WindowsInput.touchInfo_up, decide_eq_false notUp]
    · apply RecordedAt.lifted
      · rw [last, Function.update_self]
      · rw [stored, leaves]
        rfl
  · exact (recorded id).kept_of_ne taken own

theorem Recorded.of_lookup {id : Int64} {info : PointerTouchInfo}
    (recorded : run.Recorded)
    (stored : run.input.multitouchMap.lookup id = some info) :
    run.Touching info.pointerInfo.pointerId ∧
      info.pointerInfo.pointerId = WindowsInput.contactId id ∧
      (info.pointerInfo.pointerFlags.down ↔ run.last id = some .down) ∧
      info.pointerInfo.pointerFlags.up = false := by
  cases recorded id with
  | lifted _ absent =>
      rw [absent] at stored
      cases stored
  | down type info' last found contact downFlag upFlag =>
      rw [found] at stored
      cases stored
      refine ⟨⟨id, by simp [last], contact.symm⟩, contact, ?_, upFlag⟩
      simp [downFlag, last]

theorem framesValid_iff_frame :
    run.FramesValid touch ↔
      run.ValidFrame touch.event (run.input.frame touch.event touch.screen) := by
  simp [FramesValid, calls, WindowsInput.sendPointerEvent_touch touch.isTouch]

/-- The frame of an event is valid exactly if no other contact has just gone
down and the contact is not taken for another one. -/
theorem framesValid_iff (recorded : run.Recorded)
    (taken : run.step touch = some next) :
    run.FramesValid touch ↔ run.Settled touch := by
  rw [framesValid_iff_frame]
  have own : WindowsInput.touchInfo touch.event touch.screen ∈
      run.input.frame touch.event touch.screen :=
    WindowsInput.mem_frame.mpr (.inl rfl)
  constructor
  · intro valid
    constructor
    · intro id other justDown
      cases recorded id with
      | lifted last =>
          rw [last] at justDown
          cases justDown
      | down type info last stored =>
          have replayed : info ∈ run.input.frame touch.event touch.screen :=
            WindowsInput.mem_frame.mpr (.inr ⟨id, other, stored⟩)
          obtain ⟨touching, -, flag, -⟩ := recorded.of_lookup stored
          exact (valid.down_once info replayed (flag.mpr justDown)).2.2 touching
    · intro isDown
      have flag : (WindowsInput.touchInfo touch.event
          touch.screen).pointerInfo.pointerFlags.down := by
        rw [WindowsInput.touchInfo_down, decide_eq_true isDown]
      exact (valid.down_once _ own flag).2.2
  · rintro ⟨settled, single⟩
    constructor
    · intro info member flag
      rcases WindowsInput.mem_frame.mp member with rfl | ⟨id, other, stored⟩
      · rw [WindowsInput.touchInfo_down, decide_eq_true_eq] at flag
        exact ⟨flag, rfl, single flag⟩
      · obtain ⟨-, -, down, -⟩ := recorded.of_lookup stored
        exact absurd (down.mp flag) (settled id other)
    · intro isDown
      refine ⟨_, own, rfl, ?_⟩
      rw [WindowsInput.touchInfo_down, decide_eq_true isDown]
    · intro info member flag
      rcases WindowsInput.mem_frame.mp member with rfl | ⟨id, other, stored⟩
      · rw [WindowsInput.touchInfo_up, decide_eq_true_eq] at flag
        exact ⟨flag, rfl⟩
      · obtain ⟨-, -, -, notUp⟩ := recorded.of_lookup stored
        rw [notUp] at flag
        cases flag
    · intro info member
      rcases WindowsInput.mem_frame.mp member with rfl | ⟨id, other, stored⟩
      · by_cases isDown : touch.event.eventType = .down
        · exact .inr ⟨isDown, rfl⟩
        · left
          exact ⟨touch.event.pointerId, isSome_last_of_step taken isDown, rfl⟩
      · exact .inl (recorded.of_lookup stored).1

/-- In any run of contacts, every frame is valid exactly if every event finds
all other contacts settled. -/
theorem framesValid_along_iff (execution :
    Transition.Execution (step : ContactRun → TouchEvent F → _) start) :
    execution.StepsMeet FramesValid ↔ execution.StepsMeet Settled := by
  apply execution.stepsMeet_iff_of_invariant Recorded
  · exact fun id => .lifted rfl rfl
  · exact fun _ _ _ recorded taken => framesValid_iff recorded taken
  · exact fun _ _ _ recorded _ taken => recorded.kept taken

/-- A finger is put down. -/
def fingerDown (pointerId : Int64) : TouchEvent ℚ where
  event :=
    { eventType := .down
      pointerId := pointerId
      timestamp := 0
      isPrimary := false
      pointerType := .touch
      button := .primary
      buttons := .primary
      x := 0
      y := 0
      pressure := 0
      tiltX := 0
      tiltY := 0
      twist := 0
      width := 0
      height := 0
      altitudeAngle := none
      azimuthAngle := none }
  screen := ⟨0, 0, 1920, 1080, 0, 0⟩
  isTouch := rfl

/-- Two fingers are put down, one after the other. -/
def twoFingers :
    Transition.Execution (step : ContactRun → TouchEvent ℚ → _) start where
  labels := [fingerDown 1, fingerDown 2]
  final := _
  runs := rfl

/-- The second frame has both going down. -/
theorem twoFingers_not_valid :
    ¬ ∀ execution : Transition.Execution
        (step : ContactRun → TouchEvent ℚ → _) start,
      execution.StepsMeet FramesValid := by
  intro holds
  have valid := framesValid_iff_frame.mp
    (holds twoFingers [_] _ [] _ rfl rfl)
  have again := valid.down_once
    (WindowsInput.touchInfo (fingerDown 1).event (fingerDown 1).screen)
    (by decide +kernel) rfl
  exact absurd again.2.1 (by decide)

end ContactRun

end Rylus
