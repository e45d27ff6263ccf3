import Rylus.EncoderAgreement
import Rylus.EnigoDevice
import Rylus.LabelledExecution

/-!
# Mouse buttons on both backends

The DOM reports a button as a pointer going down only if it is the first one
held, and as a pointer going up only if it is the last one; in between, moves
tell which button changed.  One backend takes presses from the type of an
event, the other from the buttons it lists.
-/

namespace Rylus

open EventDevice (InputEvent DeviceState)

variable {F : Type*} [F64Convert F]

/-- A mouse event, with the number its button has in the DOM. -/
structure MouseInput (F : Type*) where
  event : PointerEvent F
  domButton : Int
  geometry : Rect F
  display : Nat × Nat
  now : Nat

/-- The numbers of buttons in the DOM. -/
def NamesButton (domButton : Int) : Prop := 0 ≤ domButton ∧ domButton ≤ 5

instance (domButton : Int) : Decidable (NamesButton domButton) :=
  inferInstanceAs (Decidable (_ ∧ _))

/-- The client sends the bit of the button, and the type of the event fits the
buttons held before and after it. -/
def MouseInput.Conforms (input : MouseInput F) (held : Button) : Prop :=
  input.event.pointerType = .mouse ∧ input.event.isPrimary = true ∧
    PEvent.buttonBit input.domButton = input.event.button.bits.toNat ∧
    match input.event.eventType with
    | .down =>
        NamesButton input.domButton ∧ held = .none ∧
          input.event.buttons.bits.toUInt16 = domButtonsBit input.domButton
    | .up =>
        NamesButton input.domButton ∧ input.event.buttons = .none ∧
          held.bits.toUInt16 = domButtonsBit input.domButton
    | .move =>
        (input.domButton = -1 ∧ input.event.buttons = held) ∨
        -- one button more or less, but some before and after
        (NamesButton input.domButton ∧ held ≠ .none ∧
          input.event.buttons ≠ .none ∧
          input.event.buttons.bits.toUInt16 =
            held.bits.toUInt16 ^^^ domButtonsBit input.domButton)
    | .over | .enter | .leave | .out =>
        input.domButton = -1 ∧ input.event.buttons = held
    | .cancel => False

instance (input : MouseInput F) (held : Button) :
    Decidable (input.Conforms held) := by
  unfold MouseInput.Conforms
  cases input.event.eventType <;> infer_instance

/-- Both devices, and the buttons of the last event. -/
structure MouseBackends (F : Type*) where
  uinput : UInputDevice F
  enigo : EnigoDevice
  buttons : Button

/-- The buttons that both backends know. -/
def mouseButtons : List Button := [.primary, .secondary, .auxiliary]

theorem mem_mouseButtons {button : Button} :
    button ∈ mouseButtons ↔
      button = .primary ∨ button = .secondary ∨ button = .auxiliary := by
  simp [mouseButtons]

/-- Known buttons are told apart by what each is turned into, if others are
turned into nothing. -/
theorem target_eq_iff {Target : Type*} {target : Button → Option Target}
    (distinct : ∀ first ∈ mouseButtons, ∀ second ∈ mouseButtons,
      target first = target second → first = second)
    (present : ∀ button ∈ mouseButtons, target button ≠ none)
    (absent : ∀ button ∉ mouseButtons, target button = none)
    {button other : Button} (known : button ∈ mouseButtons) :
    target other = target button ↔ other = button := by
  constructor
  · intro same
    by_cases otherKnown : other ∈ mouseButtons
    · exact distinct other otherKnown button known same
    · rw [absent other otherKnown] at same
      exact absurd same.symm (present button known)
  · rintro rfl
    rfl

/-! ### The backends -/

namespace UInputDevice

/-- The kernel's view of the mouse device. -/
def mouseState (device : UInputDevice F) : DeviceState :=
  DeviceState.initial.after device.mouse

/-- The key of a button is held. -/
def pressed (device : UInputDevice F) (button : Button) : Bool :=
  (mouseKey button).any device.mouseState.held

omit [F64Convert F] in
/-- A known button has a key of its own. -/
theorem mouseKey_eq_iff {button : Button} (known : button ∈ mouseButtons)
    (other : Button) : mouseKey other = mouseKey button ↔ other = button := by
  apply target_eq_iff (by decide) (by decide) ?_ known
  intro unknown isUnknown
  rw [mem_mouseButtons] at isUnknown
  push Not at isUnknown
  simp [mouseKey, isUnknown]

/-- Positions press nothing. -/
theorem held_handle_position (state : DeviceState) (value : Int) :
    (state.handle (absolute ecAbsoluteX value)).held = state.held ∧
      (state.handle (absolute ecAbsoluteY value)).held = state.held :=
  ⟨rfl, rfl⟩

/-- What a mouse event does to the keys. -/
theorem held_sendMouseEvent (device : UInputDevice F)
    (event : PointerEvent F) (code : Nat) :
    (device.sendMouseEvent event).mouseState.held code =
      if mouseKey event.button = some code then
        if event.eventType = .down then true
        else if event.eventType.isRelease then false
        else device.mouseState.held code
      else device.mouseState.held code := by
  cases keyed : mouseKey event.button with
  | none =>
      cases isType : event.eventType <;>
        simp [sendMouseEvent, mouseState, keyed, isType, held_handle_position]
  | some pressed =>
      cases isType : event.eventType <;>
        simp [sendMouseEvent, mouseState, keyed, isType, held_handle_position,
          key, DeviceState.held_handle_press, DeviceState.held_handle_release,
          PointerEventType.isRelease, -DeviceState.handle_key_one,
          -DeviceState.handle_key_zero]

/-- What an event of a mouse does to a known button. -/
theorem pressed_sendPointerEvent (device : UInputDevice F)
    {event : PointerEvent F} (geometry : Rect F) (now : Nat)
    (isMouse : event.pointerType = .mouse) {button : Button}
    (known : button ∈ mouseButtons) :
    (device.sendPointerEvent event (some geometry) now).pressed button =
      if event.button = button then
        if event.eventType = .down then true
        else if event.eventType.isRelease then false
        else device.pressed button
      else device.pressed button := by
  obtain ⟨code, isKey⟩ : ∃ code, mouseKey button = some code := by
    rw [mem_mouseButtons] at known
    rcases known with rfl | rfl | rfl <;> exact ⟨_, rfl⟩
  have sameState : (({ device with geometry := geometry }).clearStalePenHover
      now).mouseState = device.mouseState := by
    obtain ⟨_, _, same⟩ :=
      ({ device with geometry := geometry }).clearStalePenHover_frame now
    rw [same]
    rfl
  have sameKey := mouseKey_eq_iff known event.button
  rw [isKey] at sameKey
  simp only [sendPointerEvent, isMouse, pressed, isKey, Option.any_some,
    held_sendMouseEvent, sameKey, sameState]

end UInputDevice

namespace EnigoDevice

/-- A button is pressed. -/
def pressed (device : EnigoDevice) (button : Button) : Bool :=
  (enigoButton button).any device.held

omit [F64Convert F] in
theorem enigoButton_eq_iff {button : Button} (known : button ∈ mouseButtons)
    (other : Button) :
    enigoButton other = enigoButton button ↔ other = button := by
  apply target_eq_iff (by decide) (by decide) ?_ known
  intro unknown isUnknown
  rw [mem_mouseButtons] at isUnknown
  push Not at isUnknown
  simp [enigoButton, isUnknown]

/-- What an event of the primary pointer does to a known button. -/
theorem pressed_sendPointerEvent (device : EnigoDevice)
    {event : PointerEvent F} (geometry : Rect F) (display : Nat × Nat)
    (isPrimary : event.isPrimary = true) {button : Button}
    (known : button ∈ mouseButtons) :
    (device.sendPointerEvent event (some geometry) (some display)).pressed
        button =
      if event.button = button then event.buttons.contains button
      else device.pressed button := by
  obtain ⟨target, isTarget⟩ : ∃ target, enigoButton button = some target := by
    rw [mem_mouseButtons] at known
    rcases known with rfl | rfl | rfl <;> exact ⟨_, rfl⟩
  have sameButton := enigoButton_eq_iff known event.button
  rw [isTarget] at sameButton
  simp only [pressed, isTarget, Option.any_some, sendPointerEvent, isPrimary]
  by_cases same : event.button = button
  · have isSame := sameButton.mpr same
    subst same
    rw [if_pos rfl]
    simp only [isTarget, held]
    rw [List.foldl_append, List.foldl_append]
    cases event.buttons.contains event.button <;>
      simp [EnigoAction.heldAfter]
  · rw [if_neg same]
    have different : enigoButton event.button ≠ some target :=
      fun isSame => same (sameButton.mp isSame)
    simp only [held]
    rw [List.foldl_append, List.foldl_append]
    cases other : enigoButton event.button with
    | none => rfl
    | some pressed =>
        rw [other] at different
        have notTarget : pressed ≠ target := fun isSame =>
          different (congrArg some isSame)
        simp [EnigoAction.heldAfter, notTarget]

end EnigoDevice

/-! ### Sets of buttons -/

namespace Button

theorem contains_iff (buttons other : Button) :
    buttons.contains other = true ↔
      buttons.bits.toNat &&& other.bits.toNat = other.bits.toNat := by
  rw [contains, beq_iff_eq, ← UInt8.toNat_inj, UInt8.toNat_and]

theorem eq_iff_toNat (button other : Button) :
    button = other ↔ button.bits.toNat = other.bits.toNat := by
  cases button
  cases other
  simp [UInt8.toNat_inj]

/-- One bit more or less in a set of six. -/
theorem contains_xor_bits :
    ∀ held < 64, ∀ bit ∈ [1, 2, 4, 8, 16, 32], ∀ known ∈ [1, 2, 4],
      ((held ^^^ bit) &&& known = known) ↔
        if bit = known then ¬ (held &&& known = known)
        else held &&& known = known := by
  decide

/-- A button of its own. -/
def IsSingle (button : Button) : Prop :=
  button.bits.toNat ∈ [1, 2, 4, 8, 16, 32]

theorem contains_xor {held button buttons known : Button}
    (single : button.IsSingle) (isKnown : known ∈ mouseButtons)
    (flips : buttons.bits = held.bits ^^^ button.bits) :
    buttons.contains known =
      if button = known then !held.contains known
      else held.contains known := by
  have below : held.bits.toNat < 64 := UInt8.lt_iff_toNat_lt.mp held.defined
  have knownBit : known.bits.toNat ∈ [1, 2, 4] := by
    rw [mem_mouseButtons] at isKnown
    rcases isKnown with rfl | rfl | rfl <;> decide
  have bits := contains_xor_bits held.bits.toNat below button.bits.toNat single
    known.bits.toNat knownBit
  rw [← UInt8.toNat_xor, ← flips, ← contains_iff, ← contains_iff] at bits
  simp only [← eq_iff_toNat] at bits
  rw [Bool.eq_iff_iff, bits]
  split <;> simp

end Button

/-! ### Conforming events -/

/-- The bit that the client sends is the one the DOM has for the button. -/
theorem domButtonsBit_eq {dom : Int} {button : Button}
    (names : NamesButton dom)
    (encoded : PEvent.buttonBit dom = button.bits.toNat) :
    domButtonsBit dom = button.bits.toUInt16 ∧ button.IsSingle := by
  obtain ⟨above, below⟩ := names
  have isBit : ∀ bit : UInt8, (bit.toNat : Int) = button.bits.toNat →
      button.bits = bit := by
    intro bit same
    exact (UInt8.toNat_inj.mp (by omega)).symm
  interval_cases dom
  · have bits := isBit 1 encoded
    simp [Button.IsSingle, bits, domButtonsBit]
  · have bits := isBit 4 encoded
    simp [Button.IsSingle, bits, domButtonsBit]
  · have bits := isBit 2 encoded
    simp [Button.IsSingle, bits, domButtonsBit]
  · have bits := isBit 8 encoded
    simp [Button.IsSingle, bits, domButtonsBit]
  · have bits := isBit 16 encoded
    simp [Button.IsSingle, bits, domButtonsBit]
  · have bits := isBit 32 encoded
    simp [Button.IsSingle, bits, domButtonsBit]

/-- What a conforming event says of the buttons. -/
inductive ButtonChange (held : Button) (event : PointerEvent F) : Prop
  | first (isDown : event.eventType = .down) (single : event.button.IsSingle)
      (flips : event.buttons.bits = held.bits ^^^ event.button.bits)
      (free : held = .none)
  | last (isUp : event.eventType = .up) (single : event.button.IsSingle)
      (flips : event.buttons.bits = held.bits ^^^ event.button.bits)
      (free : event.buttons = .none)
  | chord (isMove : event.eventType = .move) (single : event.button.IsSingle)
      (flips : event.buttons.bits = held.bits ^^^ event.button.bits)
  | hover (noButton : event.button = .none) (same : event.buttons = held)

omit [F64Convert F] in
theorem buttonChange_of_conforms {input : MouseInput F} {held : Button}
    (conforms : input.Conforms held) : ButtonChange held input.event := by
  obtain ⟨-, -, encoded, fits⟩ := conforms
  have noButton : input.domButton = -1 → input.event.button = .none := by
    intro unnamed
    rw [unnamed] at encoded
    have isZero : PEvent.buttonBit (-1) = 0 := rfl
    rw [isZero] at encoded
    rw [Button.eq_iff_toNat]
    exact_mod_cast encoded.symm
  cases isType : input.event.eventType with
  | down =>
      rw [isType] at fits
      obtain ⟨names, rfl, bits⟩ := fits
      obtain ⟨sameBit, single⟩ := domButtonsBit_eq names encoded
      refine .first isType single ?_ rfl
      rw [sameBit, UInt8.toUInt16_inj] at bits
      rw [bits]
      exact (UInt8.zero_xor).symm
  | up =>
      rw [isType] at fits
      obtain ⟨names, isNone, bits⟩ := fits
      obtain ⟨sameBit, single⟩ := domButtonsBit_eq names encoded
      refine .last isType single ?_ isNone
      rw [sameBit, UInt8.toUInt16_inj] at bits
      rw [isNone, bits]
      exact (UInt8.xor_self).symm
  | move =>
      rw [isType] at fits
      rcases fits with ⟨unnamed, same⟩ | ⟨names, -, -, bits⟩
      · exact .hover (noButton unnamed) same
      · obtain ⟨sameBit, single⟩ := domButtonsBit_eq names encoded
        refine .chord isType single ?_
        rw [sameBit, ← UInt8.toUInt16_xor, UInt8.toUInt16_inj] at bits
        exact bits
  | cancel =>
      rw [isType] at fits
      exact fits.elim
  | «over» | enter | leave | out =>
      rw [isType] at fits
      exact .hover (noButton fits.1) fits.2

namespace MouseBackends

def new (now : Nat) : MouseBackends F where
  uinput := UInputDevice.new now
  enigo := EnigoDevice.new
  buttons := .none

/-- An event reaches both devices; there are conforming events only. -/
def step (backends : MouseBackends F) (input : MouseInput F) :
    Option (MouseBackends F) :=
  if input.Conforms backends.buttons then
    some {
      uinput := backends.uinput.sendPointerEvent input.event
        (some input.geometry) input.now
      enigo := backends.enigo.sendPointerEvent input.event
        (some input.geometry) (some input.display)
      buttons := input.event.buttons }
  else
    none

/-- Both devices hold the buttons of the last event. -/
def Tracks (backends : MouseBackends F) : Prop :=
  ∀ button ∈ mouseButtons,
    backends.uinput.pressed button = backends.buttons.contains button ∧
      backends.enigo.pressed button = backends.buttons.contains button

/-- No known button changes by a move. -/
def ChangesUnchorded (_ : MouseBackends F) (input : MouseInput F) : Prop :=
  input.event.eventType = .move → input.event.button ∉ mouseButtons

variable {backends next : MouseBackends F} {input : MouseInput F}

/-- A step in terms of the known buttons. -/
theorem pressed_of_step (taken : backends.step input = some next) :
    ButtonChange backends.buttons input.event ∧
      next.buttons = input.event.buttons ∧
      ∀ button ∈ mouseButtons,
        (next.uinput.pressed button =
          if input.event.button = button then
            if input.event.eventType = .down then true
            else if input.event.eventType.isRelease then false
            else backends.uinput.pressed button
          else backends.uinput.pressed button) ∧
        next.enigo.pressed button =
          if input.event.button = button then
            input.event.buttons.contains button
          else backends.enigo.pressed button := by
  unfold step at taken
  split at taken
  · rename_i conforms
    cases taken
    refine ⟨buttonChange_of_conforms conforms, rfl, ?_⟩
    intro button known
    exact ⟨backends.uinput.pressed_sendPointerEvent input.geometry input.now
        conforms.1 known,
      backends.enigo.pressed_sendPointerEvent input.geometry input.display
        conforms.2.1 known⟩
  · cases taken

/-- No known button is the absent one. -/
theorem none_ne_of_known {button : Button} (known : button ∈ mouseButtons) :
    Button.none ≠ button := by
  rw [mem_mouseButtons] at known
  rcases known with rfl | rfl | rfl <;> decide

omit [F64Convert F] in
theorem not_contains_none {button : Button} (known : button ∈ mouseButtons) :
    Button.none.contains button = false := by
  rw [mem_mouseButtons] at known
  rcases known with rfl | rfl | rfl <;> decide

/-- One backend follows the buttons listed, whatever the type of the event. -/
theorem enigo_tracks (tracks : backends.Tracks)
    (taken : backends.step input = some next) {button : Button}
    (known : button ∈ mouseButtons) :
    next.enigo.pressed button = next.buttons.contains button := by
  obtain ⟨change, sameButtons, pressed⟩ := pressed_of_step taken
  rw [(pressed button known).2, sameButtons, (tracks button known).2]
  split
  · rfl
  · rename_i different
    have other : ∀ single : input.event.button.IsSingle,
        input.event.buttons.bits =
            backends.buttons.bits ^^^ input.event.button.bits →
          backends.buttons.contains button =
            input.event.buttons.contains button := by
      intro single flips
      rw [Button.contains_xor single known flips, if_neg different]
    cases change with
    | first isDown single flips free => exact other single flips
    | last isUp single flips free => exact other single flips
    | chord isMove single flips => exact other single flips
    | hover noButton same => rw [same]

/-- The other one misses what changes by a move. -/
theorem uinput_tracks_iff (tracks : backends.Tracks)
    (taken : backends.step input = some next) :
    (∀ button ∈ mouseButtons,
      next.uinput.pressed button = next.buttons.contains button) ↔
        backends.ChangesUnchorded input := by
  obtain ⟨change, sameButtons, pressed⟩ := pressed_of_step taken
  rw [sameButtons]
  cases change with
  | first isDown single flips free =>
      apply iff_of_true
      · intro button known
        rw [(pressed button known).1, (tracks button known).1,
          Button.contains_xor single known flips, free,
          not_contains_none known]
        simp [isDown]
      · intro isMove
        rw [isDown] at isMove
        cases isMove
  | last isUp single flips free =>
      apply iff_of_true
      · intro button known
        rw [(pressed button known).1, (tracks button known).1, free,
          not_contains_none known]
        have gone := Button.contains_xor single known flips
        rw [free, not_contains_none known] at gone
        by_cases same : input.event.button = button
        · simp [same, isUp, PointerEventType.isRelease]
        · rw [if_neg same] at gone
          rw [if_neg same, ← gone]
      · intro isMove
        rw [isUp] at isMove
        cases isMove
  | chord isMove single flips =>
      constructor
      · intro follows _ known
        have missed := follows input.event.button known
        rw [(pressed input.event.button known).1,
          (tracks input.event.button known).1,
          Button.contains_xor single known flips] at missed
        simp [isMove, PointerEventType.isRelease] at missed
      · intro unchorded button known
        have different : input.event.button ≠ button := by
          rintro rfl
          exact unchorded isMove known
        rw [(pressed button known).1, (tracks button known).1,
          Button.contains_xor single known flips, if_neg different,
          if_neg different]
  | hover noButton same =>
      apply iff_of_true
      · intro button known
        rw [(pressed button known).1, (tracks button known).1, same, noButton,
          if_neg (none_ne_of_known known)]
      · intro _ known
        rw [noButton] at known
        exact none_ne_of_known known rfl

/-- Both backends hold the buttons of the mouse, after every event, exactly
if no button is pressed or released while another one is held. -/
theorem tracks_along_iff (now : Nat)
    (execution : Transition.Execution step (new now : MouseBackends F)) :
    execution.Along Tracks ↔ execution.StepsMeet ChangesUnchorded := by
  apply execution.along_iff_stepsMeet
  · intro button known
    have absent : (new now : MouseBackends F).buttons.contains button =
        false :=
      not_contains_none known
    rw [absent]
    constructor
    · unfold UInputDevice.pressed
      cases UInputDevice.mouseKey button <;> rfl
    · unfold EnigoDevice.pressed
      cases EnigoDevice.enigoButton button <;> rfl
  · intro before input after _ tracks taken
    rw [← uinput_tracks_iff tracks taken]
    constructor
    · exact fun follows button known => (follows button known).1
    · exact fun follows button known =>
        ⟨follows button known, enigo_tracks tracks taken known⟩

/-- The wheel is turned, in a window that is activated or not. -/
def turnWheel (backends : MouseBackends F) (event : WheelEvent)
    (activated : Bool) : MouseBackends F :=
  { backends with
    uinput := backends.uinput.sendWheelEvent event activated
    enigo := backends.enigo.sendWheelEvent event }

omit [F64Convert F] in
/-- The wheel presses and releases nothing, in either backend. -/
theorem tracks_turnWheel_iff (backends : MouseBackends F) (event : WheelEvent)
    (activated : Bool) :
    (backends.turnWheel event activated).Tracks ↔ backends.Tracks := by
  have uinput (button : Button) :
      (backends.uinput.sendWheelEvent event activated).pressed button =
        backends.uinput.pressed button := by
    cases activated with
    | false => rfl
    | true =>
        have same : (backends.uinput.sendWheelEvent event true).mouseState =
            backends.uinput.mouseState := by
          simp only [UInputDevice.mouseState, UInputDevice.sendWheelEvent,
            if_true, DeviceState.after, List.foldl_append]
          rfl
        rw [UInputDevice.pressed, same]
        rfl
  have enigo (button : Button) :
      (backends.enigo.sendWheelEvent event).pressed button =
        backends.enigo.pressed button := by
    unfold EnigoDevice.pressed
    cases EnigoDevice.enigoButton button with
    | none => rfl
    | some target =>
        simp only [Option.any_some, EnigoDevice.held,
          EnigoDevice.sendWheelEvent, List.foldl_append]
        split <;> split <;> rfl
  simp only [Tracks, turnWheel, uinput, enigo]

/-- Mouse events at one place, with the number of the button in the DOM. -/
def sampleInput (eventType : PointerEventType) (domButton : Int)
    (button buttons : Button) : MouseInput ℚ where
  event := ⟨eventType, 1, 0, true, .mouse, button, buttons, 1 / 2, 1 / 2, 0, 0,
    0, 0, 0, 0, none, none⟩
  domButton := domButton
  geometry := ⟨0, 0, 1, 1⟩
  display := (1920, 1080)
  now := 0

/-- The right button, pressed while the left one is held, is not pressed on
the first backend. -/
theorem not_tracks_chord :
    ∃ final : MouseBackends ℚ, Transition.run step (new 0)
        [sampleInput .down 0 .primary .primary,
          sampleInput .move 2 .secondary ⟨3, by decide⟩] = some final ∧
      final.buttons.contains .secondary = true ∧
        final.enigo.pressed .secondary = true ∧
          final.uinput.pressed .secondary = false := by
  have observed : (Transition.run step (new 0 : MouseBackends ℚ)
      [sampleInput .down 0 .primary .primary,
        sampleInput .move 2 .secondary ⟨3, by decide⟩]).any
      (fun final => final.buttons.contains .secondary &&
        (final.enigo.pressed .secondary &&
          !final.uinput.pressed .secondary)) = true := by
    decide
  obtain ⟨final, runs, facts⟩ := (Option.any_eq_true _ _).mp observed
  simp only [Bool.and_eq_true, Bool.not_eq_true'] at facts
  exact ⟨final, runs, facts⟩

end MouseBackends

end Rylus
