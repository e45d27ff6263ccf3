import Rylus.LabelledExecution
import Rylus.UInputKeyboard

/-!
# Keys left behind on the keyboard

A browser reports every key going down and up, with the modifiers that are
held after the event.  The device presses and releases the left modifier of
each flag along with the key, which need not balance: the flag of a right
modifier is set when it goes down and clear when it comes up.
-/

namespace Rylus

open EventDevice (InputEvent DeviceState)

variable {F : Type*}

/-! ### Modifiers -/

inductive Modifier where
  | ctrl
  | alt
  | «meta»
  | shift
  deriving DecidableEq, Repr

namespace Modifier

def all : List Modifier := [.ctrl, .alt, .meta, .shift]

/-- The left key, which is pressed for the flag. -/
def leftKey : Modifier → Nat
  | .ctrl => keyLeftctrl
  | .alt => keyLeftalt
  | .meta => keyLeftmeta
  | .shift => keyLeftshift

/-- The keys that set the flag, some under their former names. -/
def codes : Modifier → List String
  | .ctrl => ["ControlLeft", "ControlRight"]
  | .alt => ["AltLeft", "AltRight"]
  | .meta => ["MetaLeft", "MetaRight", "OSLeft", "OSRight"]
  | .shift => ["ShiftLeft", "ShiftRight"]

def flag : Modifier → KeyboardEvent → Bool
  | .ctrl, event => event.ctrl
  | .alt, event => event.alt
  | .meta, event => event.meta
  | .shift, event => event.shift

theorem mem_all (modifier : Modifier) : modifier ∈ all := by
  cases modifier <;> decide

theorem leftKey_inj {first second : Modifier}
    (same : first.leftKey = second.leftKey) : first = second := by
  cases first <;> cases second <;> first
    | rfl
    | exact absurd same (by decide)

/-- Only the modifier itself stands for its left key. -/
theorem mem_codes_of_mem_keyCodes :
    ∀ modifier ∈ all, ∀ entry ∈ keyCodes ++ numpadKeys,
      entry.2 = modifier.leftKey → entry.1 ∈ modifier.codes := by
  decide +kernel

theorem leftKey_ne_keyUnknown (modifier : Modifier) :
    modifier.leftKey ≠ keyUnknown := by
  cases modifier <;> decide

end Modifier

theorem mem_of_lookup {entries : List (String × Nat)} {code : String}
    {keyCode : Nat} (found : entries.lookup code = some keyCode) :
    (code, keyCode) ∈ entries := by
  obtain ⟨before, after, rfl, -⟩ := List.lookup_eq_some_iff.mp found
  simp

/-- A key that stands for something is in one of the tables. -/
theorem mem_of_mapKey {code : String} {location : KeyboardLocation}
    (mapped : mapKey code location ≠ keyUnknown) :
    (code, mapKey code location) ∈ keyCodes ++ numpadKeys := by
  unfold mapKey at mapped ⊢
  dsimp only at mapped ⊢
  split
  · rename_i keyCode numpad
    split at numpad
    · exact List.mem_append_right _ (mem_of_lookup numpad)
    · cases numpad
  · rename_i noNumpad
    rw [noNumpad] at mapped
    dsimp only at mapped
    cases found : keyCodes.lookup code with
    | none => simp [found] at mapped
    | some keyCode => exact List.mem_append_left _ (mem_of_lookup found)

theorem mem_codes_of_mapKey {code : String} {location : KeyboardLocation}
    {modifier : Modifier}
    (isLeft : mapKey code location = modifier.leftKey) :
    code ∈ modifier.codes := by
  have mapped : mapKey code location ≠ keyUnknown := by
    rw [isLeft]
    exact modifier.leftKey_ne_keyUnknown
  exact Modifier.mem_codes_of_mem_keyCodes modifier modifier.mem_all _
    (mem_of_mapKey mapped) isLeft

/-- No hexadecimal digit is a modifier. -/
theorem digitKey_ne_leftKey (digit : Char) (modifier : Modifier) :
    digitKey digit ≠ modifier.leftKey := by
  intro isLeft
  unfold digitKey at isLeft
  split at isLeft
  · have member := mem_codes_of_mapKey isLeft
    cases modifier <;>
      simp [Modifier.codes, ← String.toList_inj] at member
  · have member := mem_codes_of_mapKey isLeft
    cases modifier <;>
      simp [Modifier.codes, ← String.toList_inj] at member

/-! ### What an event does to the keyboard -/

/-- The keys that an event of a mapped key is about. -/
def keysOf (event : KeyboardEvent) : List Nat :=
  (if event.ctrl then [keyLeftctrl] else []) ++
    (if event.alt then [keyLeftalt] else []) ++
    (if event.meta then [keyLeftmeta] else []) ++
    (if event.shift then [keyLeftshift] else []) ++
    [mapKey event.code event.location]

theorem mem_keysOf {event : KeyboardEvent} {code : Nat} :
    code ∈ keysOf event ↔
      (∃ modifier : Modifier, modifier.flag event = true ∧
        code = modifier.leftKey) ∨
      code = mapKey event.code event.location := by
  constructor
  · intro member
    simp only [keysOf, List.mem_append, List.mem_singleton] at member
    rcases member with (((ctrl | alt) | isMeta) | shift) | own
    · exact .inl ⟨.ctrl, by simpa [Modifier.flag, Modifier.leftKey] using ctrl⟩
    · exact .inl ⟨.alt, by simpa [Modifier.flag, Modifier.leftKey] using alt⟩
    · exact .inl ⟨.meta,
        by simpa [Modifier.flag, Modifier.leftKey] using isMeta⟩
    · exact .inl ⟨.shift,
        by simpa [Modifier.flag, Modifier.leftKey] using shift⟩
    · exact .inr own
  · rintro (⟨modifier, flagged, rfl⟩ | rfl)
    · cases modifier <;>
        simp_all [keysOf, Modifier.flag, Modifier.leftKey]
    · simp [keysOf]

namespace UInputDevice

/-- The kernel's view of the keyboard. -/
def keyboardState (device : UInputDevice F) : DeviceState :=
  DeviceState.initial.after device.keyboard

theorem held_mapped (device : UInputDevice F) {event : KeyboardEvent}
    (mapped : mapKey event.code event.location ≠ keyUnknown) (code : Nat) :
    (device.sendKeyboardEvent event true).keyboardState.held code =
      if code ∈ keysOf event ∧ event.eventType ≠ .repeat then
        decide (event.eventType = .down)
      else device.keyboardState.held code := by
  have emitted : (device.sendKeyboardEvent event true).keyboard =
      device.keyboard ++ (keysOf event).map fun pressed =>
        ⟨.key, pressed, event.eventType.state⟩ := by
    unfold sendKeyboardEvent keysOf
    rw [if_pos rfl]
    dsimp only
    rw [if_neg mapped]
    cases event.ctrl <;> cases event.alt <;> cases event.meta <;>
      cases event.shift <;> simp [key]
  rw [keyboardState, emitted, DeviceState.after_append,
    DeviceState.held_after_same]
  cases event.eventType <;> simp [KeyboardEventType.state, keyboardState]

/-- Unicode input leaves its keys released. -/
theorem held_insertUnicode (state : DeviceState) (text : String)
    (code : Nat) :
    (state.after (insertUnicode text)).held code =
      if code ∈ [keyLeftctrl, keyLeftshift, keyU] ∨
          code ∈ (unicodeDigits text).map digitKey then
        false
      else state.held code := by
  have emitted : insertUnicode text =
      ([keyLeftctrl, keyLeftshift, keyU].map fun pressed =>
        ⟨.key, pressed, 1⟩) ++
      ((unicodeDigits text).map digitKey).flatMap (fun tapped =>
        [⟨.key, tapped, 1⟩, ⟨.key, tapped, 0⟩]) ++
      [keyLeftctrl, keyLeftshift, keyU].map fun released =>
        ⟨.key, released, 0⟩ := by
    rw [List.flatMap_map]
    rfl
  rw [emitted, DeviceState.after_append, DeviceState.after_append,
    DeviceState.held_after_same, DeviceState.held_after_taps,
    DeviceState.held_after_same]
  by_cases chord : code ∈ [keyLeftctrl, keyLeftshift, keyU]
  · simp [chord]
  · simp [chord]

theorem held_unmapped (device : UInputDevice F) {event : KeyboardEvent}
    (unmapped : mapKey event.code event.location = keyUnknown) (code : Nat) :
    (device.sendKeyboardEvent event true).keyboardState.held code =
      if (event.eventType = .down ∧ event.key ≠ "") ∧
          (code ∈ [keyLeftctrl, keyLeftshift, keyU] ∨
            code ∈ (unicodeDigits event.key).map digitKey) then
        false
      else device.keyboardState.held code := by
  unfold sendKeyboardEvent
  rw [if_pos rfl]
  dsimp only
  rw [if_pos unmapped]
  by_cases types : event.eventType = .down ∧ event.key ≠ ""
  · rw [if_pos types, keyboardState, DeviceState.after_append,
      held_insertUnicode]
    simp [types, keyboardState]
  · rw [if_neg types, if_neg fun released => types released.1]

end UInputDevice

/-! ### What a browser reports -/

/-- A key that is down, with what its events say of it. -/
structure HeldKey where
  physical : Nat
  code : String
  location : KeyboardLocation
  deriving DecidableEq

/-- An event of a physical key. -/
structure KeyInput where
  physical : Nat
  event : KeyboardEvent

namespace KeyInput

def heldKey (input : KeyInput) : HeldKey :=
  ⟨input.physical, input.event.code, input.event.location⟩

/-- The keys that are down after the event. -/
def downAfter (input : KeyInput) (down : List HeldKey) : List HeldKey :=
  match input.event.eventType with
  | .down => input.heldKey :: down
  | .repeat => down
  | .up => down.filter fun other => other ≠ input.heldKey

/-- A key goes down once, repeats and comes up; the flags are those of the
modifiers that are down afterwards. -/
def Conforms (input : KeyInput) (down : List HeldKey) : Prop :=
  (match input.event.eventType with
    | .down => ∀ other ∈ down, other.physical ≠ input.physical
    | .repeat | .up => input.heldKey ∈ down) ∧
  ∀ modifier ∈ Modifier.all, modifier.flag input.event =
    (input.downAfter down).any fun other =>
      decide (other.code ∈ modifier.codes)

instance (input : KeyInput) (down : List HeldKey) :
    Decidable (input.Conforms down) := by
  unfold Conforms
  cases input.event.eventType <;> infer_instance

/-- The event presses the left key of a modifier. -/
def Presses (modifier : Modifier) (input : KeyInput) : Prop :=
  mapKey input.event.code input.event.location ≠ keyUnknown ∧
    input.event.eventType = .down ∧ modifier.flag input.event = true

/-- The event releases the left key of a modifier. -/
def Releases (modifier : Modifier) (input : KeyInput) : Prop :=
  (mapKey input.event.code input.event.location ≠ keyUnknown ∧
    input.event.eventType = .up ∧
      (modifier.flag input.event = true ∨
        mapKey input.event.code input.event.location = modifier.leftKey)) ∨
  (mapKey input.event.code input.event.location = keyUnknown ∧
    input.event.eventType = .down ∧ input.event.key ≠ "" ∧
      (modifier = .ctrl ∨ modifier = .shift))

/-- Whatever presses the left key of a modifier is followed by something that
releases it. -/
def Balanced (modifier : Modifier) (inputs : List KeyInput) : Prop :=
  ∀ taken input rest, inputs = taken ++ input :: rest →
    Presses modifier input → ∃ later ∈ rest, Releases modifier later

end KeyInput

/-- The device, and the keys that are down. -/
structure Typing (F : Type*) where
  device : UInputDevice F
  down : List HeldKey

namespace Typing

def new [F64Convert F] (now : Nat) : Typing F where
  device := UInputDevice.new now
  down := []

/-- A conforming event reaches the device. -/
def step (typing : Typing F) (input : KeyInput) : Option (Typing F) :=
  if input.Conforms typing.down then
    some {
      device := typing.device.sendKeyboardEvent input.event true
      down := input.downAfter typing.down }
  else
    none

def held (typing : Typing F) (code : Nat) : Bool :=
  typing.device.keyboardState.held code

variable {typing next : Typing F} {input : KeyInput}

theorem step_eq_some (taken : typing.step input = some next) :
    input.Conforms typing.down ∧ next.down = input.downAfter typing.down ∧
      next.device = typing.device.sendKeyboardEvent input.event true := by
  unfold step at taken
  split at taken
  · rename_i conforms
    cases taken
    exact ⟨conforms, rfl, rfl⟩
  · cases taken

/-! ### The left keys of the modifiers -/

theorem held_of_presses {modifier : Modifier}
    (taken : typing.step input = some next)
    (presses : input.Presses modifier) :
    next.held modifier.leftKey = true := by
  obtain ⟨-, -, sent⟩ := step_eq_some taken
  obtain ⟨mapped, isDown, flagged⟩ := presses
  rw [held, sent, typing.device.held_mapped mapped]
  have member := mem_keysOf.mpr (.inl ⟨modifier, flagged, rfl⟩)
  simp [member, isDown]

theorem held_of_releases {modifier : Modifier}
    (taken : typing.step input = some next)
    (releases : input.Releases modifier) :
    next.held modifier.leftKey = false := by
  obtain ⟨-, -, sent⟩ := step_eq_some taken
  rw [held, sent]
  rcases releases with ⟨mapped, isUp, isLeft⟩ | ⟨unmapped, isDown, typed, which⟩
  · rw [typing.device.held_mapped mapped]
    have member : modifier.leftKey ∈ keysOf input.event := by
      apply mem_keysOf.mpr
      rcases isLeft with flagged | own
      · exact .inl ⟨modifier, flagged, rfl⟩
      · exact .inr own.symm
    simp [member, isUp]
  · rw [typing.device.held_unmapped unmapped, if_pos]
    refine ⟨⟨isDown, typed⟩, .inl ?_⟩
    rcases which with rfl | rfl <;> simp [Modifier.leftKey]

/-- The left key of a modifier goes down with its flag set. -/
theorem flag_of_isDown {modifier : Modifier}
    (conforms : input.Conforms typing.down)
    (isDown : input.event.eventType = .down)
    (own : mapKey input.event.code input.event.location =
      modifier.leftKey) :
    modifier.flag input.event = true := by
  rw [conforms.2 modifier modifier.mem_all, KeyInput.downAfter, isDown]
  have member : input.heldKey.code ∈ modifier.codes :=
    mem_codes_of_mapKey own
  simp [member]

theorem held_of_neither {modifier : Modifier}
    (taken : typing.step input = some next)
    (noPress : ¬ input.Presses modifier)
    (noRelease : ¬ input.Releases modifier) :
    next.held modifier.leftKey = typing.held modifier.leftKey := by
  obtain ⟨conforms, -, sent⟩ := step_eq_some taken
  rw [held, sent]
  by_cases mapped : mapKey input.event.code input.event.location = keyUnknown
  · rw [typing.device.held_unmapped mapped, if_neg]
    · rfl
    · rintro ⟨⟨isDown, typed⟩, chord | digit⟩
      · refine noRelease (.inr ⟨mapped, isDown, typed, ?_⟩)
        cases modifier with
        | ctrl => exact .inl rfl
        | shift => exact .inr rfl
        | alt | «meta» => exact absurd chord (by decide)
      · obtain ⟨character, -, isKey⟩ := List.mem_map.mp digit
        exact digitKey_ne_leftKey character modifier isKey
  · rw [typing.device.held_mapped mapped, if_neg]
    · rfl
    · rintro ⟨member, notRepeat⟩
      have isLeft : modifier.flag input.event = true ∨
          mapKey input.event.code input.event.location =
            modifier.leftKey := by
        rcases mem_keysOf.mp member with ⟨other, flagged, same⟩ | own
        · rw [Modifier.leftKey_inj same]
          exact .inl flagged
        · exact .inr own.symm
      cases isType : input.event.eventType with
      | down =>
          refine noPress ⟨mapped, isType, ?_⟩
          rcases isLeft with flagged | own
          · exact flagged
          · exact flag_of_isDown conforms isType own
      | up => exact noRelease (.inl ⟨mapped, isType, isLeft⟩)
      | «repeat» => exact notRepeat isType

/-- At the end, the left key of a modifier is released exactly if all that
pressed it was followed by something that releases it. -/
theorem leftKey_released_iff [F64Convert F] {now : Nat}
    (modifier : Modifier)
    (execution : Transition.Execution step (new now : Typing F)) :
    execution.final.held modifier.leftKey = false ↔
      KeyInput.Balanced modifier execution.labels := by
  apply execution.clear_iff_followed
    fun typing : Typing F => typing.held modifier.leftKey
  · rfl
  · intro before input after _ taken presses
    exact held_of_presses taken presses
  · intro before input after _ taken releases
    exact held_of_releases taken releases
  · intro before input after _ taken noPress noRelease
    exact held_of_neither taken noPress noRelease

/-! ### All other keys -/

/-- Any other key that is held belongs to a key that is down. -/
def HeldIsDown (typing : Typing F) : Prop :=
  ∀ code, (∀ modifier : Modifier, code ≠ modifier.leftKey) →
    typing.held code = true →
      code ≠ keyUnknown ∧
        ∃ key ∈ typing.down, mapKey key.code key.location = code

/-- A key that stays held is still down. -/
theorem stays_down {code : Nat} {key : HeldKey}
    (isKey : mapKey key.code key.location = code)
    (isDown : key ∈ typing.down)
    (other : mapKey input.event.code input.event.location ≠ code ∨
      input.event.eventType ≠ .up) :
    key ∈ input.downAfter typing.down := by
  unfold KeyInput.downAfter
  cases isType : input.event.eventType with
  | down => exact List.mem_cons_of_mem _ isDown
  | «repeat» => exact isDown
  | up =>
      apply List.mem_filter.mpr
      refine ⟨isDown, ?_⟩
      have different : key ≠ input.heldKey := by
        rintro rfl
        rcases other with differs | notUp
        · exact differs isKey
        · exact notUp isType
      simpa using different

theorem heldIsDown_of_step (holds : typing.HeldIsDown)
    (taken : typing.step input = some next) : next.HeldIsDown := by
  obtain ⟨-, down, sent⟩ := step_eq_some taken
  intro code notLeft isHeld
  rw [held, sent] at isHeld
  rw [down]
  by_cases mapped : mapKey input.event.code input.event.location = keyUnknown
  · rw [typing.device.held_unmapped mapped] at isHeld
    split at isHeld
    · cases isHeld
    · obtain ⟨known, key, isDown, isKey⟩ := holds code notLeft isHeld
      refine ⟨known, key, stays_down isKey isDown (.inl ?_), isKey⟩
      rw [mapped]
      exact known.symm
  · rw [typing.device.held_mapped mapped] at isHeld
    split at isHeld
    · rename_i written
      have isDown := of_decide_eq_true isHeld
      rcases mem_keysOf.mp written.1 with ⟨modifier, -, same⟩ | own
      · exact absurd same (notLeft modifier)
      · refine ⟨own ▸ mapped, input.heldKey, ?_, own.symm⟩
        rw [KeyInput.downAfter, isDown]
        exact List.mem_cons_self
    · rename_i unwritten
      obtain ⟨known, key, isDown, isKey⟩ := holds code notLeft isHeld
      refine ⟨known, key, stays_down isKey isDown ?_, isKey⟩
      by_contra both
      push Not at both
      exact unwritten ⟨mem_keysOf.mpr (.inr both.1.symm), by simp [both.2]⟩

/-! ### All keys -/

/-- When all keys are up again, no key is held exactly if the left key of
every modifier was released after it was last pressed. -/
theorem released_iff_balanced [F64Convert F] (now : Nat)
    (execution : Transition.Execution step (new now : Typing F))
    (allUp : execution.final.down = []) :
    (∀ code, execution.final.held code = false) ↔
      ∀ modifier, KeyInput.Balanced modifier execution.labels := by
  have heldIsDown : execution.final.HeldIsDown := by
    have reached : Transition.Reachable step (new now) execution.final :=
      ⟨execution.labels, execution.runs⟩
    apply reached.invariant
    · intro code _ isHeld
      cases isHeld
    · intro before input after holds taken
      exact heldIsDown_of_step holds taken
  constructor
  · intro released modifier
    exact (leftKey_released_iff modifier execution).mp
      (released modifier.leftKey)
  · intro balanced code
    by_cases isLeft : ∃ modifier : Modifier, code = modifier.leftKey
    · obtain ⟨modifier, rfl⟩ := isLeft
      exact (leftKey_released_iff modifier execution).mpr (balanced modifier)
    · push Not at isLeft
      cases isHeld : execution.final.held code with
      | false => rfl
      | true =>
          obtain ⟨-, key, isDown, -⟩ := heldIsDown code isLeft isHeld
          rw [allUp] at isDown
          cases isDown

/-- One key pressed and released, with the flags of each event. -/
def tap (code : String) (ctrl released : Bool) : List KeyInput :=
  [⟨1, ⟨.down, code, "", .standard, false, ctrl, false, false⟩⟩,
    ⟨1, ⟨.up, code, "", .standard, false, released, false, false⟩⟩]

/-- A letter typed while the left Ctrl key is held. -/
def shortcut : List KeyInput :=
  [⟨2, ⟨.down, "ControlLeft", "", .standard, false, true, false, false⟩⟩] ++
    tap "KeyA" true true ++
    [⟨2, ⟨.up, "ControlLeft", "", .standard, false, false, false, false⟩⟩]

/-- It leaves nothing behind. -/
theorem released_iff_balanced_letter :
    ∃ execution : Transition.Execution step (new 0 : Typing ℚ),
      execution.labels = shortcut ∧ execution.final.down = [] ∧
        ∀ code, execution.final.held code = false := by
  have observed : (Transition.run step (new 0 : Typing ℚ) shortcut).any
      (fun final => final.down.isEmpty) = true := by
    decide
  obtain ⟨final, runs, isEmpty⟩ := (Option.any_eq_true _ _).mp observed
  have allUp : final.down = [] := List.isEmpty_iff.mp isEmpty
  refine ⟨⟨_, final, runs⟩, rfl, allUp, ?_⟩
  apply (released_iff_balanced 0 ⟨_, final, runs⟩ allUp).mpr
  intro modifier taken input rest split presses
  -- the last event releases the left Ctrl key, and nothing else is pressed
  have isCtrl : modifier = .ctrl := by
    have member : input ∈ shortcut := by
      have split : shortcut = taken ++ input :: rest := split
      rw [split]
      simp
    have flagged := presses.2.2
    simp only [shortcut, tap, List.mem_append, List.mem_cons,
      List.not_mem_nil, or_false] at member
    rcases member with ⟨rfl | rfl | rfl⟩ | rfl <;> cases modifier <;>
      first | rfl | cases flagged
  subst isCtrl
  have newest : (input :: rest).getLast? = shortcut.getLast? := by
    have split : shortcut = taken ++ input :: rest := split
    rw [split, List.getLast?_append_cons]
  cases rest with
  | nil =>
      cases newest
      cases presses.2.1
  | cons next rest =>
      rw [List.getLast?_cons_cons] at newest
      exact ⟨_, List.mem_of_getLast? newest,
        .inl ⟨by decide, rfl, .inr (by decide)⟩⟩

/-- The right Ctrl key, pressed and released on its own, leaves the left one
held. -/
theorem not_released_rightCtrl :
    ∃ execution : Transition.Execution step (new 0 : Typing ℚ),
      execution.labels = tap "ControlRight" true false ∧
        execution.final.down = [] ∧
          execution.final.held keyLeftctrl = true := by
  have observed : (Transition.run step (new 0 : Typing ℚ)
      (tap "ControlRight" true false)).any
        (fun final => final.down.isEmpty && final.held keyLeftctrl) =
          true := by
    decide
  obtain ⟨final, runs, facts⟩ := (Option.any_eq_true _ _).mp observed
  rw [Bool.and_eq_true] at facts
  exact ⟨⟨_, final, runs⟩, rfl, List.isEmpty_iff.mp facts.1, facts.2⟩

end Typing

end Rylus
