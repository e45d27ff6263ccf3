import Mathlib.Data.List.Nodup
import Mathlib.Data.Rat.Floor

/-!
# JSON values read as typed data

Values of a text that has been parsed, with the readers a derived
deserialiser is made of.  Numbers are exact; an integer literal is kept apart
from any other number because integer types accept nothing else.  Variants
of an enumeration are tagged externally: a unit variant is its name, any
other an object with the name as only key.
-/

inductive Json (Number : Type) where
  | null
  | bool (value : Bool)
  | integer (value : Int)
  | float (value : Number)
  | string (value : String)
  | array (elements : List (Json Number))
  | object (members : List (String × Json Number))

/-- What numbers are to JSON: not all of them can be written. -/
class JsonNumber (Number : Type) where
  isFinite : Number → Bool
  ofInt : Int → Number

/-- Exact rational numbers. -/
instance jsonNumberRat : JsonNumber ℚ where
  isFinite _ := true
  ofInt value := value

namespace Json

/-- Why a value is rejected. -/
inductive DecodeError where
  | invalidType
  | invalidValue
  | invalidLength
  | missingField (name : String)
  | duplicateField (name : String)
  | unknownVariant (name : String)
  | custom (message : String)
  deriving DecidableEq, Repr

variable {Number Value : Type}

/-! ### Scalars -/

/-- Numbers that are not finite become `null`. -/
def ofFloat [JsonNumber Number] (value : Number) : Json Number :=
  if JsonNumber.isFinite value then .float value else .null

def ofOption (write : Value → Json Number) : Option Value → Json Number
  | some value => write value
  | none => .null

def readUnit : Json Number → Except DecodeError Unit
  | .null => .ok ()
  | _ => .error .invalidType

def readBool : Json Number → Except DecodeError Bool
  | .bool value => .ok value
  | _ => .error .invalidType

def readString : Json Number → Except DecodeError String
  | .string value => .ok value
  | _ => .error .invalidType

def readInteger (low high : Int) : Json Number → Except DecodeError Int
  | .integer value =>
      if low ≤ value ∧ value ≤ high then
        .ok value
      else
        .error .invalidValue
  | _ => .error .invalidType

def readInt32 (json : Json Number) : Except DecodeError Int32 :=
  (readInteger (-2 ^ 31) (2 ^ 31 - 1) json).map Int32.ofInt

def readInt64 (json : Json Number) : Except DecodeError Int64 :=
  (readInteger (-2 ^ 63) (2 ^ 63 - 1) json).map Int64.ofInt

def readUInt8 (json : Json Number) : Except DecodeError UInt8 :=
  (readInteger 0 (2 ^ 8 - 1) json).map fun value => UInt8.ofNat value.toNat

def readUInt32 (json : Json Number) : Except DecodeError UInt32 :=
  (readInteger 0 (2 ^ 32 - 1) json).map fun value => UInt32.ofNat value.toNat

def readUInt64 (json : Json Number) : Except DecodeError UInt64 :=
  (readInteger 0 (2 ^ 64 - 1) json).map fun value => UInt64.ofNat value.toNat

def readFloat [JsonNumber Number] : Json Number → Except DecodeError Number
  | .float value => .ok value
  | .integer value => .ok (JsonNumber.ofInt value)
  | _ => .error .invalidType

def readOption (read : Json Number → Except DecodeError Value) :
    Json Number → Except DecodeError (Option Value)
  | .null => .ok none
  | json => (read json).map some

def readList (read : Json Number → Except DecodeError Value) :
    Json Number → Except DecodeError (List Value)
  | .array elements => elements.mapM read
  | _ => .error .invalidType

/-! ### Structures -/

/-- The members of a structure with the given field names: those of an object
in which no field is given twice, or the elements of an array in order, of
which the last `defaults` may be missing. -/
def fields (names : List String) (defaults : Nat) :
    Json Number → Except DecodeError (List (String × Json Number))
  | .object members =>
      match names.find? fun name =>
        1 < members.countP (fun given => given.1 == name) with
      | some name => .error (.duplicateField name)
      | none => .ok members
  | .array elements =>
      if names.length - defaults ≤ elements.length ∧
          elements.length ≤ names.length then
        .ok (names.zip elements)
      else
        .error .invalidLength
  | _ => .error .invalidType

/-- A field that has to be there. -/
def required (members : List (String × Json Number)) (name : String)
    (read : Json Number → Except DecodeError Value) :
    Except DecodeError Value :=
  match members.lookup name with
  | some json => read json
  | none => .error (.missingField name)

/-- A field that may be missing. -/
def optional (members : List (String × Json Number)) (name : String)
    (read : Json Number → Except DecodeError Value) :
    Except DecodeError (Option Value) :=
  match members.lookup name with
  | some json => readOption read json
  | none => .ok none

/-- A structure of one field. -/
def readField (name : String)
    (read : Json Number → Except DecodeError Value) (json : Json Number) :
    Except DecodeError Value := do
  let members ← fields [name] 0 json
  required members name read

/-! ### Enumerations -/

/-- A variant that holds something. -/
def tagged (name : String) (content : Json Number) : Json Number :=
  .object [(name, content)]

/-- The name of a variant and what it holds. -/
def variant : Json Number →
    Except DecodeError (String × Option (Json Number))
  | .string name => .ok (name, none)
  | .object [(name, content)] => .ok (name, some content)
  | _ => .error .invalidType

def unitVariant (value : Value) :
    Option (Json Number) → Except DecodeError Value
  | some json => (readUnit json).map fun _ => value
  | none => .ok value

def newtypeVariant (read : Json Number → Except DecodeError Value) :
    Option (Json Number) → Except DecodeError Value
  | some json => read json
  | none => .error .invalidType

/-- An enumeration of unit variants, each with its name. -/
def readTag (values : List Value) (tag : Value → String)
    (json : Json Number) : Except DecodeError Value := do
  let (name, content) ← variant json
  match values.find? fun value => tag value == name with
  | some value => unitVariant value content
  | none => .error (.unknownVariant name)

/-! ### What is written is read back -/

@[simp]
theorem readBool_bool (value : Bool) :
    readBool (.bool value : Json Number) = .ok value :=
  rfl

@[simp]
theorem readString_string (value : String) :
    readString (.string value : Json Number) = .ok value :=
  rfl

theorem readInteger_integer {low high value : Int}
    (inside : low ≤ value ∧ value ≤ high) :
    readInteger low high (.integer value : Json Number) = .ok value :=
  if_pos inside

@[simp]
theorem readInt32_integer (value : Int32) :
    readInt32 (.integer value.toInt : Json Number) = .ok value := by
  have above := value.le_toInt
  have below := value.toInt_lt
  rw [readInt32, readInteger_integer (by omega)]
  simp [Except.map]

@[simp]
theorem readInt64_integer (value : Int64) :
    readInt64 (.integer value.toInt : Json Number) = .ok value := by
  have above := value.le_toInt
  have below := value.toInt_lt
  rw [readInt64, readInteger_integer (by omega)]
  simp [Except.map]

@[simp]
theorem readUInt8_integer (value : UInt8) :
    readUInt8 (.integer value.toNat : Json Number) = .ok value := by
  have below := value.toNat_lt
  rw [readUInt8, readInteger_integer (by omega)]
  simp [Except.map]

@[simp]
theorem readUInt32_integer (value : UInt32) :
    readUInt32 (.integer value.toNat : Json Number) = .ok value := by
  have below := value.toNat_lt
  rw [readUInt32, readInteger_integer (by omega)]
  simp [Except.map]

@[simp]
theorem readUInt64_integer (value : UInt64) :
    readUInt64 (.integer value.toNat : Json Number) = .ok value := by
  have below := value.toNat_lt
  rw [readUInt64, readInteger_integer (by omega)]
  simp [Except.map]

theorem readFloat_ofFloat [JsonNumber Number] {value : Number}
    (isFinite : JsonNumber.isFinite value = true) :
    readFloat (ofFloat value) = .ok value := by
  rw [ofFloat, if_pos isFinite]
  rfl

/-- Values that are not written as `null` can be told from their absence. -/
theorem readOption_ofOption {write : Value → Json Number}
    {read : Json Number → Except DecodeError Value} {value : Option Value}
    (present : ∀ inner ∈ value, write inner ≠ .null)
    (readsBack : ∀ inner ∈ value, read (write inner) = .ok inner) :
    readOption read (ofOption write value) = .ok value := by
  cases value with
  | none => rfl
  | some inner =>
      have isPresent := present inner rfl
      rw [ofOption]
      unfold readOption
      split
      · contradiction
      · rw [readsBack inner rfl]
        rfl

theorem readList_array {write : Value → Json Number}
    {read : Json Number → Except DecodeError Value} {values : List Value}
    (readsBack : ∀ value ∈ values, read (write value) = .ok value) :
    readList read (.array (values.map write)) = .ok values := by
  rw [readList]
  induction values with
  | nil => rfl
  | cons value values ih =>
      have first := readsBack value (by simp)
      have later := ih fun other member => readsBack other (by simp [member])
      rw [List.map_cons, List.mapM_cons, first, later]
      rfl

/-- An object with each field once. -/
theorem fields_object {names : List String} {defaults : Nat}
    {members : List (String × Json Number)}
    (once : (members.map Prod.fst).Nodup) :
    fields names defaults (.object members) = .ok members := by
  have unique : names.find? (fun name =>
      1 < members.countP (fun given => given.1 == name)) = none := by
    apply List.find?_eq_none.mpr
    intro name _
    have counted : members.countP (fun given => given.1 == name) =
        (members.map Prod.fst).count name := by
      rw [List.count, List.countP_map]
      rfl
    have atMostOnce := List.nodup_iff_count_le_one.mp once name
    simp only [counted, decide_eq_true_eq]
    omega
  rw [fields, unique]

@[simp]
theorem readField_object (name : String)
    (read : Json Number → Except DecodeError Value) (json : Json Number) :
    readField name read (.object [(name, json)]) = read json := by
  rw [readField, fields_object (by simp)]
  simp [bind, Except.bind, required]

@[simp]
theorem variant_tagged (name : String) (content : Json Number) :
    variant (tagged name content) = .ok (name, some content) :=
  rfl

@[simp]
theorem newtypeVariant_some (read : Json Number → Except DecodeError Value)
    (json : Json Number) : newtypeVariant read (some json) = read json :=
  rfl

/-- Variants with different names are told apart. -/
theorem readTag_string {values : List Value} {tag : Value → String}
    {value : Value} (listed : value ∈ values)
    (distinct : ∀ other ∈ values, tag other = tag value → other = value) :
    readTag values tag (.string (tag value) : Json Number) = .ok value := by
  have found : values.find? (fun other => tag other == tag value) =
      some value := by
    cases search : values.find? (fun other => tag other == tag value) with
    | none =>
        have missing := List.find?_eq_none.mp search value listed
        simp at missing
    | some other =>
        have same : tag other = tag value := by
          simpa using List.find?_some search
        rw [distinct other (List.mem_of_find?_eq_some search) same]
  simp only [readTag, variant, bind, Except.bind, found]
  rfl

end Json
