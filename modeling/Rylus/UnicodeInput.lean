import Mathlib.Data.Nat.Digits.Lemmas
import Rylus.KeyRelease

/-!
# Unicode input of one character

The text of a key without a code is typed after Ctrl, shift and U as the
hexadecimal digits of its UTF-16 code units.  These spell the character if it
is one unit.  A surrogate pair is typed as two numbers in a row, which is the
number of no character.
-/

namespace Rylus

open EventDevice (InputEvent DeviceState)

/-- The keys of the hexadecimal digits. -/
def hexKey (digit : Fin 16) : Nat :=
  [11, 2, 3, 4, 5, 6, 7, 8, 9, 10, 30, 48, 46, 32, 18, 33].get digit

/-- A number by its digits, the most significant first. -/
def hexValue (digits : List (Fin 16)) : Nat :=
  Nat.ofDigits 16 (digits.reverse.map Fin.val)

/-- A digit pressed and released. -/
def strike (digit : Fin 16) : List InputEvent :=
  [key (hexKey digit) 1, key (hexKey digit) 0]

/-- The keys that start the input of a number, or end it. -/
def unicodeChord (value : Int) : List InputEvent :=
  [key keyLeftctrl value, key keyLeftshift value, key keyU value]

/-- The key is that of a code. -/
def IsMapped (keyCode : Nat) : Prop :=
  keyCode ≠ keyUnknown ∧ ∃ code location, mapKey code location = keyCode

/-- What was typed spells the scalar value between chord and release, on keys
that are mapped, and leaves none of them pressed. -/
structure TypesScalar (typed : List InputEvent) (scalar : Nat) : Prop where
  spells : ∃ digits, hexValue digits = scalar ∧
    typed = unicodeChord 1 ++ digits.flatMap strike ++ unicodeChord 0
  mapped : ∀ event ∈ typed, IsMapped event.code
  released : ∀ (state : DeviceState), ∀ event ∈ typed, event.value = 1 →
    (state.after typed).held event.code = false

/-! ### Digits -/

theorem hexValue_append (first second : List (Fin 16)) :
    hexValue (first ++ second) =
      hexValue first * 16 ^ second.length + hexValue second := by
  simp [hexValue, Nat.ofDigits_append]
  ring

theorem hexValue_lt (digits : List (Fin 16)) :
    hexValue digits < 16 ^ digits.length := by
  have bounded := Nat.ofDigits_lt_base_pow_length (b := 16)
    (l := digits.reverse.map Fin.val) (by decide) (by simp)
  simpa [hexValue] using bounded

theorem hexKey_injective : Function.Injective hexKey := by
  decide

/-- The character of a digit as `{:X}` formats it. -/
def hexChar (digit : Fin 16) : Char :=
  (Nat.digitChar digit).toUpper

/-- Each digit goes to its key. -/
theorem digitKey_hexChar : ∀ digit : Fin 16,
    digitKey (hexChar digit) = hexKey digit := by
  decide

/-- Formatting a number gives its digits. -/
theorem exists_digits (number : Nat) : ∃ digits, hexValue digits = number ∧
    (Nat.toDigits 16 number).map Char.toUpper = digits.map hexChar := by
  induction number using Nat.strongRecOn with
  | ind number ih =>
      rw [Nat.toDigits_eq_if (by decide)]
      split
      · rename_i small
        exact ⟨[⟨number, small⟩], by simp [hexValue], rfl⟩
      · rename_i large
        obtain ⟨digits, value, formatted⟩ := ih (number / 16) (by omega)
        refine ⟨digits ++ [⟨number % 16, by omega⟩], ?_, ?_⟩
        · rw [hexValue_append, value]
          simp [hexValue]
          omega
        · rw [List.map_append, formatted, List.map_append]
          rfl

theorem flatMap_strike_injective {first second : List (Fin 16)}
    (same : first.flatMap strike = second.flatMap strike) :
    first = second := by
  induction first generalizing second with
  | nil =>
      cases second with
      | nil => rfl
      | cons digit digits => simp [strike] at same
  | cons digit digits ih =>
      cases second with
      | nil => simp [strike] at same
      | cons other others =>
          simp only [List.flatMap_cons, strike, List.cons_append,
            List.nil_append, List.cons.injEq] at same
          have sameKey := congrArg InputEvent.code same.1
          rw [hexKey_injective sameKey, ih same.2.2]

/-- One code unit gives the number of the character.  Two give a number that
is larger than that of any character. -/
theorem unicodeDigits_singleton (character : Char) :
    ∃ digits, unicodeDigits (String.singleton character) =
        digits.map hexChar ∧
      (hexValue digits = character.toNat ↔ character.toNat < 0x10000) := by
  have valid : character.toNat < 0x110000 := by
    rcases character.valid with low | high
    · exact Nat.lt_trans low (by decide)
    · exact high.2
  have formatted : unicodeDigits (String.singleton character) =
      (utf16Units character).flatMap fun unit =>
        (Nat.toDigits 16 unit).map Char.toUpper := by
    simp [unicodeDigits]
  rw [formatted]
  unfold utf16Units
  dsimp only
  split
  · rename_i basic
    obtain ⟨digits, value, same⟩ := exists_digits character.toNat
    exact ⟨digits, by simpa using same, by simp [value, basic]⟩
  · rename_i astral
    obtain ⟨lead, leadValue, leadSame⟩ :=
      exists_digits (0xd800 + (character.toNat - 0x10000) / 0x400)
    obtain ⟨trail, trailValue, trailSame⟩ :=
      exists_digits (0xdc00 + (character.toNat - 0x10000) % 0x400)
    refine ⟨lead ++ trail, by simp [leadSame, trailSame], ?_⟩
    have shift := hexValue_lt trail
    have leadLarge : 0xd800 ≤ hexValue lead := by omega
    have trailLarge : 0xdc00 ≤ 16 ^ trail.length := by omega
    have large : 0xd800 * 0xdc00 ≤ hexValue lead * 16 ^ trail.length :=
      Nat.mul_le_mul leadLarge trailLarge
    rw [hexValue_append]
    constructor
    · intro same
      omega
    · intro basic
      exact absurd basic astral

/-! ### What is typed -/

theorem insertUnicode_eq {text : String} {digits : List (Fin 16)}
    (same : unicodeDigits text = digits.map hexChar) :
    insertUnicode text =
      unicodeChord 1 ++ digits.flatMap strike ++ unicodeChord 0 := by
  have struck : (digits.map hexChar).flatMap (fun digit =>
      [key (digitKey digit) 1, key (digitKey digit) 0]) =
        digits.flatMap strike := by
    rw [List.flatMap_map]
    simp only [digitKey_hexChar]
    rfl
  rw [insertUnicode, same, struck]
  rfl

/-- The digits can be read off the events. -/
theorem digits_unique {first second : List (Fin 16)}
    (same : unicodeChord 1 ++ first.flatMap strike ++ unicodeChord 0 =
      unicodeChord 1 ++ second.flatMap strike ++ unicodeChord 0) :
    first = second := by
  have withoutRelease := List.append_cancel_right same
  exact flatMap_strike_injective (List.append_cancel_left withoutRelease)

theorem isMapped_hexKey (digit : Fin 16) : IsMapped (hexKey digit) := by
  have known : ∀ digit, hexKey digit ≠ keyUnknown := by decide
  refine ⟨known digit, ?_⟩
  rw [← digitKey_hexChar, digitKey]
  split
  · exact ⟨_, _, rfl⟩
  · exact ⟨_, _, rfl⟩

theorem isMapped_of_mem_unicodeChord {event : InputEvent} {value : Int}
    (member : event ∈ unicodeChord value) : IsMapped event.code := by
  have ctrl : IsMapped keyLeftctrl :=
    ⟨by decide, "ControlLeft", .standard, by decide⟩
  have shift : IsMapped keyLeftshift :=
    ⟨by decide, "ShiftLeft", .standard, by decide⟩
  have letter : IsMapped keyU :=
    ⟨by decide, "KeyU", .standard, by decide⟩
  simp only [unicodeChord, List.mem_cons, List.not_mem_nil, or_false] at member
  rcases member with rfl | rfl | rfl
  · exact ctrl
  · exact shift
  · exact letter

theorem isMapped_of_mem_insertUnicode {text : String}
    {digits : List (Fin 16)} (same : unicodeDigits text = digits.map hexChar)
    {event : InputEvent} (member : event ∈ insertUnicode text) :
    IsMapped event.code := by
  rw [insertUnicode_eq same, List.mem_append, List.mem_append,
    List.mem_flatMap] at member
  rcases member with (pressed | ⟨digit, -, struck⟩) | released
  · exact isMapped_of_mem_unicodeChord pressed
  · simp only [strike, List.mem_cons, List.not_mem_nil, or_false] at struck
    rcases struck with rfl | rfl
    · exact isMapped_hexKey digit
    · exact isMapped_hexKey digit
  · exact isMapped_of_mem_unicodeChord released

/-- What unicode input presses, it releases. -/
theorem released_insertUnicode (state : DeviceState) {text : String}
    {event : InputEvent} (member : event ∈ insertUnicode text) :
    (state.after (insertUnicode text)).held event.code = false := by
  rw [UInputDevice.held_insertUnicode, if_pos]
  simp only [insertUnicode, List.mem_append, List.mem_flatMap] at member
  rcases member with (pressed | ⟨digit, isDigit, tapped⟩) | released
  · simp only [List.mem_cons, List.not_mem_nil, or_false] at pressed
    rcases pressed with rfl | rfl | rfl <;> simp [key]
  · right
    simp only [List.mem_cons, List.not_mem_nil, or_false] at tapped
    rcases tapped with rfl | rfl <;> exact List.mem_map_of_mem isDigit
  · simp only [List.mem_cons, List.not_mem_nil, or_false] at released
    rcases released with rfl | rfl | rfl <;> simp [key]

/-- Unicode input types a character exactly if it is one code unit. -/
theorem typesScalar_insertUnicode_iff (character : Char) :
    TypesScalar (insertUnicode (String.singleton character))
        character.toNat ↔
      character.toNat < 0x10000 := by
  obtain ⟨digits, same, value⟩ := unicodeDigits_singleton character
  constructor
  · rintro ⟨⟨others, otherValue, typed⟩, -, -⟩
    rw [insertUnicode_eq same] at typed
    rw [← value, digits_unique typed]
    exact otherValue
  · intro basic
    constructor
    · exact ⟨digits, value.mpr basic, insertUnicode_eq same⟩
    · exact fun event member => isMapped_of_mem_insertUnicode same member
    · exact fun state event member _ => released_insertUnicode state member

namespace UInputDevice

variable {F : Type*} {event : KeyboardEvent} {character : Char}

/-- A character key without a code is typed. -/
theorem sendKeyboardEvent_singleton (device : UInputDevice F)
    (isDown : event.eventType = .down)
    (unmapped : mapKey event.code event.location = keyUnknown)
    (single : event.key = String.singleton character) :
    (device.sendKeyboardEvent event true).keyboard =
      device.keyboard ++ insertUnicode (String.singleton character) := by
  have nonempty : String.singleton character ≠ "" := by
    simp
  unfold sendKeyboardEvent
  simp [isDown, unmapped, single, nonempty]

/-- The key of a character is typed as that character, on mapped keys that are
all released, exactly if the character is one UTF-16 code unit. -/
theorem sendKeyboardEvent_types_iff (device : UInputDevice F)
    (event : KeyboardEvent) (character : Char)
    (isDown : event.eventType = .down)
    (unmapped : mapKey event.code event.location = keyUnknown)
    (single : event.key = String.singleton character) :
    (∃ typed, (device.sendKeyboardEvent event true).keyboard =
        device.keyboard ++ typed ∧ TypesScalar typed character.toNat) ↔
      character.toNat < 0x10000 := by
  rw [device.sendKeyboardEvent_singleton isDown unmapped single,
    ← typesScalar_insertUnicode_iff]
  constructor
  · rintro ⟨typed, same, types⟩
    rw [List.append_cancel_left same]
    exact types
  · exact fun types => ⟨_, rfl, types⟩

/-- A key of an unnamed code with a character on it. -/
def characterKey (character : Char) : KeyboardEvent where
  eventType := .down
  code := "Unidentified"
  key := String.singleton character
  location := .standard
  alt := false
  ctrl := false
  shift := false
  «meta» := false

theorem mapKey_characterKey (character : Char) :
    mapKey (characterKey character).code (characterKey character).location =
      keyUnknown := by
  change mapKey "Unidentified" .standard = keyUnknown
  decide

/-- An accented letter is typed. -/
theorem sendKeyboardEvent_types_accented :
    ∃ typed, ((new 0 : UInputDevice ℚ).sendKeyboardEvent (characterKey 'é')
        true).keyboard = [] ++ typed ∧ TypesScalar typed 0xe9 :=
  (sendKeyboardEvent_types_iff (new 0 : UInputDevice ℚ) (characterKey 'é') 'é'
    rfl (mapKey_characterKey 'é') rfl).mpr (by decide)

/-- An emoji is typed as its two surrogates, `D83DDE00`. -/
theorem sendKeyboardEvent_not_types_emoji :
    ¬ ∀ (device : UInputDevice ℚ) (event : KeyboardEvent) (character : Char),
      event.eventType = .down →
        mapKey event.code event.location = keyUnknown →
          event.key = String.singleton character →
            ∃ typed, (device.sendKeyboardEvent event true).keyboard =
              device.keyboard ++ typed ∧
                TypesScalar typed character.toNat := by
  intro always
  obtain ⟨typed, same, types⟩ := always (new 0) (characterKey '😀') '😀' rfl
    (mapKey_characterKey '😀') rfl
  rw [sendKeyboardEvent_singleton (new 0) rfl (mapKey_characterKey '😀') rfl]
    at same
  rw [← List.append_cancel_left same, typesScalar_insertUnicode_iff] at types
  exact absurd types (by decide)

end UInputDevice

end Rylus
