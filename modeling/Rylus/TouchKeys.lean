import Rylus.TouchSlots

/-!
# Keys of the touch device

The touch device has one key for contact and one for each number of fingers.
`send_pointer_event` writes them when a pointer with a slot goes down or is
released, from the number of slots that are occupied then, and at no other
time.  This file determines in which sequences of touch events the keys say
what they are meant to say.
-/

namespace Rylus

open EventDevice (InputEvent DeviceState)

theorem PointerEventType.ne_down_of_isRelease {eventType : PointerEventType}
    (releases : eventType.isRelease = true) : eventType ≠ .down := by
  rintro rfl
  cases releases

/-- A number of touches that has a tool of its own. -/
def IsToolCount (count : Nat) : Prop :=
  1 ≤ count ∧ count ≤ 5

theorem toolKeyForTouchCount_eq_iff {first second : Nat}
    (isFirst : IsToolCount first) (isSecond : IsToolCount second) :
    toolKeyForTouchCount first = toolKeyForTouchCount second ↔
      first = second := by
  constructor
  · exact toolKeyForTouchCount_inj isFirst.1 isFirst.2 isSecond.1 isSecond.2
  · rintro rfl
    rfl

namespace UInputDevice

/-! ### What the tools leave held -/

theorem held_touch_after_downTools (state : DeviceState) (count : Nat) :
    (state.after (downTools count)).held ecKeyTouch = true := by
  have pressesFirst : downTools count = [] ++ key ecKeyTouch 1 ::
      ((if 1 < count then [key (toolKeyForTouchCount (count - 1)) 0]
        else []) ++ [key (toolKeyForTouchCount count) 1]) := by
    simp [downTools]
  rw [pressesFirst]
  apply DeviceState.held_after_last _ _ _ rfl rfl (by decide)
  intro event member _ isTouch
  have isTool : ∃ other, event.code = toolKeyForTouchCount other := by
    rcases List.mem_append.mp member with older | newer
    · split at older
      · exact ⟨_, congrArg InputEvent.code (List.mem_singleton.mp older)⟩
      · cases older
    · exact ⟨_, congrArg InputEvent.code (List.mem_singleton.mp newer)⟩
  obtain ⟨other, isTool⟩ := isTool
  rw [isTool] at isTouch
  exact absurd isTouch (toolKeyForTouchCount_ne_touch other)

/-- Going down presses the tool of the new count and releases the one below. -/
theorem held_tool_after_downTools (state : DeviceState) {count tool : Nat}
    (isCount : IsToolCount count) (isTool : IsToolCount tool) :
    (state.after (downTools count)).held (toolKeyForTouchCount tool) =
      if tool = count then true
      else if tool + 1 = count then false
      else state.held (toolKeyForTouchCount tool) := by
  have notTouch := (toolKeyForTouchCount_ne_touch tool).symm
  have sameKey := toolKeyForTouchCount_eq_iff isCount isTool
  unfold downTools
  rw [DeviceState.after_append, DeviceState.after_append]
  simp only [key, DeviceState.after_cons, DeviceState.after_nil]
  rw [DeviceState.held_handle_press]
  simp only [sameKey]
  by_cases same : tool = count
  · rw [if_pos same.symm, if_pos same]
  · rw [if_neg (Ne.symm same), if_neg same]
    by_cases several : 1 < count
    · have isBelow : IsToolCount (count - 1) := by
        unfold IsToolCount at *
        omega
      have next : count - 1 = tool ↔ tool + 1 = count := by omega
      simp only [if_pos several, DeviceState.after_cons, DeviceState.after_nil]
      rw [DeviceState.held_handle_release, DeviceState.held_handle_press,
        if_neg notTouch]
      simp only [toolKeyForTouchCount_eq_iff isBelow isTool, next]
    · have notNext : ¬ tool + 1 = count := by
        have := isTool.1
        omega
      simp only [if_neg several, DeviceState.after_nil]
      rw [DeviceState.held_handle_press, if_neg notTouch, if_neg notNext]

/-- The end of a contact releases the tool of the old count and presses the
one below. -/
theorem held_tool_after_upTools_eq (state : DeviceState) {count tool : Nat}
    (isCount : IsToolCount count) (isTool : IsToolCount tool) :
    (state.after (upTools count)).held (toolKeyForTouchCount tool) =
      if tool = count then false
      else if tool + 1 = count then true
      else state.held (toolKeyForTouchCount tool) := by
  have notTouch := (toolKeyForTouchCount_ne_touch tool).symm
  have released : (state.after [key ecKeyTouch 0,
      key (toolKeyForTouchCount count) 0]).held (toolKeyForTouchCount tool) =
        if tool = count then false
        else state.held (toolKeyForTouchCount tool) := by
    simp only [key, DeviceState.after_cons, DeviceState.after_nil]
    rw [DeviceState.held_handle_release, DeviceState.held_handle_release,
      if_neg notTouch]
    simp only [toolKeyForTouchCount_eq_iff isCount isTool, eq_comm]
  unfold upTools
  rw [DeviceState.after_append]
  by_cases several : 1 ≤ count - 1
  · have isBelow : IsToolCount (count - 1) := by
      unfold IsToolCount at *
      omega
    have next : count - 1 = tool ↔ tool + 1 = count := by omega
    rw [if_pos several, DeviceState.after_cons, DeviceState.after_nil]
    unfold key at released ⊢
    rw [DeviceState.held_handle_press, released]
    simp only [toolKeyForTouchCount_eq_iff isBelow isTool, next]
    by_cases below : tool + 1 = count
    · have different : ¬ tool = count := by omega
      rw [if_pos below, if_neg different, if_pos below]
    · rw [if_neg below, if_neg below]
  · have notNext : ¬ tool + 1 = count := by
      have := isTool.1
      omega
    rw [if_neg several, DeviceState.after_nil, released, if_neg notNext]

variable {F : Type*} [F64Convert F] {device next : UInputDevice F}
  {event : PointerEvent F}

/-! ### What a touch event leaves -/

/-- The device once a pointer has been given a slot, if one is free. -/
def withSlot (device : UInputDevice F) (id : Int64) : UInputDevice F :=
  match device.findSlot id with
  | some _ => device
  | none =>
      match device.freeSlot with
      | some slot =>
          { device with
            touches := Function.update device.touches slot (some id) }
      | none => device

/-- Whether a pointer has a slot. -/
def hasSlot (device : UInputDevice F) (id : Int64) : Bool :=
  (device.findSlot id).isSome

/-- The keys that a touch event writes. -/
def touchKeys (device : UInputDevice F) (event : PointerEvent F) :
    List InputEvent :=
  if event.eventType.isRelease then
    if device.hasSlot event.pointerId then upTools device.activeCount else []
  else if event.eventType = .down ∧
      (device.withSlot event.pointerId).hasSlot event.pointerId then
    downTools (device.withSlot event.pointerId).activeCount
  else
    []

omit [F64Convert F] in
theorem hasSlot_iff (device : UInputDevice F) (id : Int64) :
    device.hasSlot id = true ↔ ∃ slot, device.touches slot = some id := by
  simp [hasSlot, findSlot, List.find?_isSome]

omit [F64Convert F] in
theorem withSlot_of_hasSlot {id : Int64} (has : device.hasSlot id = true) :
    device.withSlot id = device := by
  unfold withSlot
  obtain ⟨slot, found⟩ := Option.isSome_iff_exists.mp has
  rw [found]

omit [F64Convert F] in
/-- A pointer that is given a slot takes none from another pointer. -/
theorem hasSlot_withSlot (device : UInputDevice F) (id other : Int64)
    (different : other ≠ id) :
    (device.withSlot id).hasSlot other = device.hasSlot other := by
  rw [Bool.eq_iff_iff, hasSlot_iff, hasSlot_iff]
  unfold withSlot
  cases device.findSlot id with
  | some slot => rfl
  | none =>
      cases free : device.freeSlot with
      | none => rfl
      | some slot =>
          have unused := freeSlot_some free
          apply exists_congr
          intro index
          by_cases same : index = slot
          · subst same
            simp [unused, Ne.symm different]
          · simp [same]

omit [F64Convert F] in
/-- Given a slot, a pointer is one more than before. -/
theorem activeCount_withSlot {id : Int64} (isNew : device.hasSlot id = false)
    (has : (device.withSlot id).hasSlot id = true) :
    (device.withSlot id).activeCount = device.activeCount + 1 := by
  have missing : device.findSlot id = none := by simpa [hasSlot] using isNew
  cases free : device.freeSlot with
  | none =>
      have same : device.withSlot id = device := by
        simp [withSlot, missing, free]
      rw [same, isNew] at has
      cases has
  | some slot =>
      apply activeCount_began (freeSlot_some free)
      simp [withSlot, missing, free]
      rfl

omit [F64Convert F] in
/-- A pointer only goes without a slot when all are taken. -/
theorem activeCount_of_noSlot {id : Int64}
    (noSlot : (device.withSlot id).hasSlot id = false) :
    device.withSlot id = device ∧ device.activeCount = 5 := by
  cases missing : device.findSlot id with
  | some slot =>
      have has : device.hasSlot id = true := by simp [hasSlot, missing]
      rw [withSlot_of_hasSlot has, has] at noSlot
      cases noSlot
  | none =>
      cases free : device.freeSlot with
      | some slot =>
          have has : (device.withSlot id).hasSlot id = true := by
            rw [hasSlot_iff]
            exact ⟨slot, by simp [withSlot, missing, free]⟩
          rw [has] at noSlot
          cases noSlot
      | none =>
          have occupied : ∀ slot, (device.touches slot).isSome = true := by
            intro slot
            have notFree := List.find?_eq_none.mp free slot
              (List.mem_finRange slot)
            simpa [Option.isSome_iff_ne_none] using notFree
          refine ⟨by simp [withSlot, missing, free], ?_⟩
          have all : device.activeCount = (List.finRange 5).length :=
            List.countP_eq_length.mpr fun slot _ => occupied slot
          simpa using all

/-- The slots and the keys held after a touch event. -/
structure TouchResult (device : UInputDevice F) (event : PointerEvent F)
    (next : UInputDevice F) : Prop where
  touches : next.touches =
    if event.eventType.isRelease then
      match device.findSlot event.pointerId with
      | some slot => Function.update device.touches slot none
      | none => device.touches
    else (device.withSlot event.pointerId).touches
  held : next.touchState.held =
    (device.touchState.after (device.touchKeys event)).held

theorem touchResult_of_release (releases : event.eventType.isRelease = true) :
    device.TouchResult event (device.sendTouchEvent event) := by
  rw [sendTouchEvent_of_release releases]
  cases found : device.findSlot event.pointerId with
  | none =>
      constructor
      · simp [releases, found]
      · simp [touchKeys, releases, hasSlot, found]
  | some slot =>
      have keys : device.touchKeys event = upTools device.activeCount := by
        simp [touchKeys, releases, hasSlot, found]
      constructor
      · simp [releases, found]
      · have emitted : device.touchEnded slot =
            [absolute ecAbsMtSlot slot, absolute ecAbsMtTrackingId (-1)] ++
              upTools device.activeCount ++ [] := by
          simp [touchEnded]
        rw [touchState_append rfl, keys, emitted]
        exact (DeviceState.after_contact slot (-1)
          (upTools_areKeys device.activeCount) (by simp)).2

theorem touchResult_of_not_release
    (stays : event.eventType.isRelease = false) :
    device.TouchResult event (device.sendTouchEvent event) := by
  have moved (slot : Fin 5) (given : UInputDevice F)
      (isGiven : given = device.withSlot event.pointerId)
      (has : given.hasSlot event.pointerId = true) :
      device.TouchResult event
        { given with touch := device.touch ++ given.touchMoved event slot } := by
    subst isGiven
    constructor
    · simp [stays]
    · have areKeys : ∀ tool ∈ (if event.eventType = .down then
          downTools (device.withSlot event.pointerId).activeCount else []),
            tool.eventType = .key := by
        split
        · exact downTools_areKeys _
        · simp
      have keys : device.touchKeys event = (if event.eventType = .down then
          downTools (device.withSlot event.pointerId).activeCount
          else []) := by
        simp [touchKeys, stays, has]
      rw [touchState_append rfl, keys]
      exact (DeviceState.after_contact slot slot areKeys
        (touchAxes_isAxis _ event)).2
  rw [sendTouchEvent_of_not_release stays]
  cases found : device.findSlot event.pointerId with
  | some slot =>
      have has : device.hasSlot event.pointerId = true := by
        simp [hasSlot, found]
      exact moved slot device (withSlot_of_hasSlot has).symm has
  | none =>
      cases free : device.freeSlot with
      | some slot =>
          have isGiven : { device with
              touches := Function.update device.touches slot
                (some event.pointerId) } = device.withSlot event.pointerId := by
            simp [withSlot, found, free]
          apply moved slot _ isGiven
          rw [hasSlot_iff]
          exact ⟨slot, by simp⟩
      | none =>
          have same : device.withSlot event.pointerId = device := by
            simp [withSlot, found, free]
          constructor
          · simp [stays, same]
          · simp [touchKeys, stays, same, hasSlot, found]

theorem touchResult_of_sendTouchEvent (device : UInputDevice F)
    (event : PointerEvent F) :
    device.TouchResult event (device.sendTouchEvent event) := by
  cases isType : event.eventType.isRelease with
  | true => exact touchResult_of_release isType
  | false => exact touchResult_of_not_release isType

omit [F64Convert F] in
/-- The result depends on the slots and the touch device only. -/
theorem TouchResult.congr {cleared : UInputDevice F}
    (sameTouches : cleared.touches = device.touches)
    (sameTouch : cleared.touch = device.touch)
    (result : cleared.TouchResult event next) :
    device.TouchResult event next := by
  obtain ⟨touches, held⟩ := result
  have findSlot : cleared.findSlot = device.findSlot := by
    funext id
    simp [UInputDevice.findSlot, sameTouches]
  have freeSlot : cleared.freeSlot = device.freeSlot := by
    simp [UInputDevice.freeSlot, sameTouches]
  have withSlot (id : Int64) :
      (cleared.withSlot id).touches = (device.withSlot id).touches := by
    unfold UInputDevice.withSlot
    rw [findSlot, freeSlot]
    split
    · exact sameTouches
    · split
      · rw [sameTouches]
      · exact sameTouches
  have activeCount {first second : UInputDevice F}
      (same : first.touches = second.touches) :
      first.activeCount = second.activeCount := by
    simp [UInputDevice.activeCount, same]
  have hasSlot {first second : UInputDevice F}
      (same : first.touches = second.touches) (id : Int64) :
      first.hasSlot id = second.hasSlot id := by
    simp [UInputDevice.hasSlot, UInputDevice.findSlot, same]
  have touchKeys : cleared.touchKeys event = device.touchKeys event := by
    unfold UInputDevice.touchKeys
    rw [hasSlot sameTouches, activeCount sameTouches, hasSlot (withSlot _),
      activeCount (withSlot _)]
  have touchState : cleared.touchState = device.touchState := by
    simp [UInputDevice.touchState, sameTouch]
  constructor
  · rw [touches, findSlot, withSlot, sameTouches]
  · rw [held, touchState, touchKeys]

theorem touchResult_of_touchStep {input : PointerInput F}
    (moved : device.touchStep input = some next) :
    device.TouchResult input.event next := by
  obtain ⟨cleared, touches, touch, sent, -⟩ := touchStep_cases moved
  have result := touchResult_of_sendTouchEvent cleared input.event
  rw [sent] at result
  exact result.congr touches touch

end UInputDevice

end Rylus
