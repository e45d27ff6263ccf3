import Mathlib.Algebra.Ring.Int.Defs
import Mathlib.Logic.Function.Basic

/-!
# Input devices as the kernel sees them

A virtual input device is fed with events and keeps which keys are held, the
last value of each axis, and, for multi-touch devices, the tracking id of each
slot.  This file has that state and the rules by which batches of events
compose.
-/

namespace EventDevice

inductive EventType where
  | key
  | relative
  | absolute
  deriving DecidableEq, Repr

structure InputEvent where
  eventType : EventType
  code : Nat
  value : Int
  deriving DecidableEq, Repr

/-- `ABS_MT_SLOT`: the slot that later events are about. -/
def absMtSlot : Nat := 0x2f

/-- `ABS_MT_TRACKING_ID`: the contact in the slot, -1 for none. -/
def absMtTrackingId : Nat := 0x39

structure DeviceState where
  held : Nat → Bool
  axes : Nat → Int
  slot : Int
  trackingId : Int → Int

namespace DeviceState

def initial : DeviceState where
  held := fun _ => false
  axes := fun _ => 0
  slot := 0
  trackingId := fun _ => -1

/-- A key event of value 2 is an autorepeat and changes nothing. -/
def handle (state : DeviceState) (event : InputEvent) : DeviceState :=
  match event.eventType with
  | .key =>
      if event.value = 2 then
        state
      else
        { state with
          held := Function.update state.held event.code
            (decide (event.value ≠ 0)) }
  | .absolute =>
      if event.code = absMtSlot then
        { state with slot := event.value }
      else if event.code = absMtTrackingId then
        { state with
          trackingId :=
            Function.update state.trackingId state.slot event.value }
      else
        { state with
          axes := Function.update state.axes event.code event.value }
  | .relative => state

/-- The state after a batch of events. -/
def after (state : DeviceState) (events : List InputEvent) : DeviceState :=
  events.foldl handle state

variable {state : DeviceState}

@[simp]
theorem after_nil : state.after [] = state :=
  rfl

@[simp]
theorem after_cons (event : InputEvent) (events : List InputEvent) :
    state.after (event :: events) = (state.handle event).after events :=
  rfl

@[simp]
theorem after_append (first second : List InputEvent) :
    state.after (first ++ second) = (state.after first).after second :=
  List.foldl_append ..

/-! ### Single events -/

theorem held_handle (event : InputEvent) (code : Nat) :
    (state.handle event).held code =
      if event.eventType = .key ∧ event.code = code ∧ event.value ≠ 2 then
        decide (event.value ≠ 0)
      else
        state.held code := by
  obtain ⟨eventType, other, value⟩ := event
  cases eventType with
  | key =>
      by_cases repeats : value = 2
      · simp [handle, repeats]
      · by_cases same : other = code
        · subst same
          simp [handle, repeats]
        · simp [handle, repeats, same, Ne.symm same]
  | relative => simp [handle]
  | absolute =>
      simp only [handle]
      split
      · simp
      · split <;> simp

@[simp]
theorem handle_key_one (code : Nat) :
    state.handle ⟨.key, code, 1⟩ =
      { state with held := Function.update state.held code true } := by
  simp [handle]

@[simp]
theorem handle_key_zero (code : Nat) :
    state.handle ⟨.key, code, 0⟩ =
      { state with held := Function.update state.held code false } := by
  simp [handle]

theorem held_handle_press (pressed code : Nat) :
    (state.handle ⟨.key, pressed, 1⟩).held code =
      if pressed = code then true else state.held code := by
  rw [held_handle]
  simp

theorem held_handle_release (released code : Nat) :
    (state.handle ⟨.key, released, 0⟩).held code =
      if released = code then false else state.held code := by
  rw [held_handle]
  simp

@[simp]
theorem handle_slot (slot : Int) :
    state.handle ⟨.absolute, absMtSlot, slot⟩ = { state with slot := slot } := by
  simp [handle]

@[simp]
theorem handle_trackingId (id : Int) :
    state.handle ⟨.absolute, absMtTrackingId, id⟩ =
      { state with
        trackingId := Function.update state.trackingId state.slot id } := by
  simp [handle, absMtSlot, absMtTrackingId]

/-- An event of an axis that is not about slots gives it a value. -/
theorem axes_handle (event : InputEvent) {code : Nat}
    (noSlot : code ≠ absMtSlot) (noId : code ≠ absMtTrackingId) :
    (state.handle event).axes code =
      if event.eventType = .absolute ∧ event.code = code then event.value
      else state.axes code := by
  obtain ⟨eventType, other, value⟩ := event
  cases eventType with
  | key =>
      simp only [handle]
      split <;> simp
  | relative => simp [handle]
  | absolute =>
      by_cases same : other = code
      · subst same
        simp [handle, noSlot, noId]
      · simp only [handle]
        split
        · simp [same]
        · split
          · simp [same]
          · simp [same, Ne.symm same]

/-! ### Batches that leave something alone -/

/-- No event presses or releases the key. -/
def LeavesKey (code : Nat) (events : List InputEvent) : Prop :=
  ∀ event ∈ events,
    event.eventType = .key → event.code = code → event.value = 2

theorem held_after_of_leavesKey {code : Nat} {events : List InputEvent}
    (leaves : LeavesKey code events) :
    (state.after events).held code = state.held code := by
  induction events generalizing state with
  | nil => rfl
  | cons event events ih =>
      rw [after_cons, ih fun later member => leaves later (by simp [member]),
        held_handle, if_neg]
      rintro ⟨isKey, same, presses⟩
      exact presses (leaves event (by simp) isKey same)

/-- The last event that presses or releases a key decides. -/
theorem held_after_last {code : Nat} (before later : List InputEvent)
    (event : InputEvent) (isKey : event.eventType = .key)
    (same : event.code = code) (decides : event.value ≠ 2)
    (leaves : LeavesKey code later) :
    (state.after (before ++ event :: later)).held code =
      decide (event.value ≠ 0) := by
  rw [after_append, after_cons, held_after_of_leavesKey leaves, held_handle,
    if_pos ⟨isKey, same, decides⟩]

/-- A key that is held was held before, or pressed. -/
theorem held_of_held_after {code : Nat} {events : List InputEvent}
    (holds : (state.after events).held code = true) :
    state.held code = true ∨
      ∃ event ∈ events, event.eventType = .key ∧ event.code = code ∧
        event.value ≠ 0 := by
  induction events generalizing state with
  | nil => exact .inl holds
  | cons event events ih =>
      rw [after_cons] at holds
      rcases ih holds with already | ⟨later, member, presses⟩
      · rw [held_handle] at already
        split at already
        · rename_i writes
          right
          exact ⟨event, by simp, writes.1, writes.2.1,
            of_decide_eq_true already⟩
        · exact .inl already
      · exact .inr ⟨later, by simp [member], presses⟩

/-- Keys that all get the same value. -/
theorem held_after_same (codes : List Nat) (value : Int) (code : Nat) :
    (state.after (codes.map fun pressed => ⟨.key, pressed, value⟩)).held
        code =
      if code ∈ codes ∧ value ≠ 2 then decide (value ≠ 0)
      else state.held code := by
  induction codes generalizing state with
  | nil => simp
  | cons pressed codes ih =>
      rw [List.map_cons, after_cons, ih, held_handle]
      by_cases repeats : value = 2
      · simp [repeats]
      · by_cases isLater : code ∈ codes
        · simp [isLater, repeats]
        · by_cases same : pressed = code
          · simp [same, repeats]
          · simp [isLater, same, Ne.symm same]

/-- Keys that are pressed and released one after the other. -/
theorem held_after_taps (codes : List Nat) (code : Nat) :
    (state.after (codes.flatMap fun tapped =>
        [⟨.key, tapped, 1⟩, ⟨.key, tapped, 0⟩])).held code =
      if code ∈ codes then false else state.held code := by
  induction codes generalizing state with
  | nil => simp
  | cons tapped codes ih =>
      rw [List.flatMap_cons, after_append, ih]
      by_cases isLater : code ∈ codes
      · simp [isLater]
      · rw [if_neg isLater, after_cons, after_cons, after_nil,
          held_handle_release, held_handle_press]
        by_cases same : tapped = code
        · simp [same]
        · simp [isLater, same, Ne.symm same]

/-- Which keys are held depends on nothing else. -/
theorem held_after_congr {first second : DeviceState}
    (same : first.held = second.held) (events : List InputEvent) :
    (first.after events).held = (second.after events).held := by
  induction events generalizing first second with
  | nil => exact same
  | cons event events ih =>
      rw [after_cons, after_cons]
      apply ih
      funext code
      rw [held_handle, held_handle, same]

/-- Key events leave slots and contacts alone. -/
theorem after_keys {events : List InputEvent}
    (keys : ∀ event ∈ events, event.eventType = .key) :
    (state.after events).slot = state.slot ∧
      (state.after events).trackingId = state.trackingId := by
  induction events generalizing state with
  | nil => exact ⟨rfl, rfl⟩
  | cons event events ih =>
      have isKey := keys event (by simp)
      have same : (state.handle event).slot = state.slot ∧
          (state.handle event).trackingId = state.trackingId := by
        simp only [handle, isKey]
        split <;> exact ⟨rfl, rfl⟩
      rw [after_cons, ← same.1, ← same.2]
      exact ih fun later member => keys later (by simp [member])

/-- Events that concern neither keys nor contacts. -/
def IsAxis (event : InputEvent) : Prop :=
  event.eventType = .absolute ∧ event.code ≠ absMtSlot ∧
    event.code ≠ absMtTrackingId

theorem after_axes {events : List InputEvent}
    (axes : ∀ event ∈ events, IsAxis event) :
    (state.after events).held = state.held ∧
      (state.after events).slot = state.slot ∧
        (state.after events).trackingId = state.trackingId := by
  induction events generalizing state with
  | nil => exact ⟨rfl, rfl, rfl⟩
  | cons event events ih =>
      obtain ⟨isAbsolute, noSlot, noId⟩ := axes event (by simp)
      have same : state.handle event =
          { state with
            axes := Function.update state.axes event.code event.value } := by
        simp [handle, isAbsolute, noSlot, noId]
      rw [after_cons, same]
      exact ih fun later member => axes later (by simp [member])

/-- A batch about one slot: what is in it now, keys, and axes. -/
theorem after_contact (slot id : Int) {keys axes : List InputEvent}
    (areKeys : ∀ event ∈ keys, event.eventType = .key)
    (areAxes : ∀ event ∈ axes, IsAxis event) :
    (state.after ([⟨.absolute, absMtSlot, slot⟩,
        ⟨.absolute, absMtTrackingId, id⟩] ++ keys ++ axes)).trackingId =
          Function.update state.trackingId slot id ∧
      (state.after ([⟨.absolute, absMtSlot, slot⟩,
        ⟨.absolute, absMtTrackingId, id⟩] ++ keys ++ axes)).held =
          (state.after keys).held := by
  rw [after_append, after_append]
  rw [(after_axes areAxes).1, (after_axes areAxes).2.2,
    (after_keys areKeys).2]
  constructor
  · simp
  · apply held_after_congr
    simp

end DeviceState

end EventDevice
