import Rylus.Json

/-!
# The text of a JSON value

`JSON.stringify` without indentation, and how many bytes its text has in
UTF-8.  `numeral` writes the numbers that are not integers.
-/

namespace Json

variable {Number : Type}

/-- A character in a string literal. -/
def escape (character : Char) : String :=
  if character = '"' then "\\\""
  else if character = '\\' then "\\\\"
  else if character.toNat = 8 then "\\b"
  else if character.toNat = 9 then "\\t"
  else if character.toNat = 10 then "\\n"
  else if character.toNat = 12 then "\\f"
  else if character.toNat = 13 then "\\r"
  else if character.toNat < 32 then
    "\\u00" ++ (if character.toNat < 16 then "0" else "1") ++
      (Nat.digitChar (character.toNat % 16)).toString
  else character.toString

def quote (text : String) : String :=
  "\"" ++ String.join (text.toList.map escape) ++ "\""

mutual

def stringify (numeral : Number → String) : Json Number → String
  | .null => "null"
  | .bool true => "true"
  | .bool false => "false"
  | .integer value => toString value
  | .float value => numeral value
  | .string text => quote text
  | .array elements => "[" ++ stringifyElements numeral elements ++ "]"
  | .object members => "\x7b" ++ stringifyMembers numeral members ++ "\x7d"

def stringifyElements (numeral : Number → String) :
    List (Json Number) → String
  | [] => ""
  | [element] => stringify numeral element
  | element :: next :: elements =>
      stringify numeral element ++ "," ++
        stringifyElements numeral (next :: elements)

def stringifyMembers (numeral : Number → String) :
    List (String × Json Number) → String
  | [] => ""
  | [(name, value)] => quote name ++ ":" ++ stringify numeral value
  | (name, value) :: next :: members =>
      quote name ++ ":" ++ stringify numeral value ++ "," ++
        stringifyMembers numeral (next :: members)

end

/-- Bytes of the text of a value. -/
def size (numeral : Number → String) (value : Json Number) : Nat :=
  (stringify numeral value).utf8ByteSize

/-- Bytes of the members of an object with the commas between them. -/
def membersSize (numeral : Number → String)
    (members : List (String × Json Number)) : Nat :=
  (members.map fun member =>
    (quote member.1).utf8ByteSize + 1 + member.2.size numeral).sum +
      (members.length - 1)

variable (numeral : Number → String)

@[simp]
theorem size_bool (value : Bool) :
    (.bool value : Json Number).size numeral = if value then 4 else 5 := by
  cases value <;> rfl

@[simp]
theorem size_string (text : String) :
    (.string text : Json Number).size numeral = (quote text).utf8ByteSize := by
  rw [size, stringify]

theorem utf8ByteSize_stringifyMembers
    (members : List (String × Json Number)) :
    (stringifyMembers numeral members).utf8ByteSize =
      membersSize numeral members := by
  induction members with
  | nil => rfl
  | cons member members ih =>
      obtain ⟨name, value⟩ := member
      have colon : ":".utf8ByteSize = 1 := rfl
      have comma : ",".utf8ByteSize = 1 := rfl
      cases members with
      | nil =>
          simp [stringifyMembers, membersSize, size,
            String.utf8ByteSize_append, colon]
      | cons next members =>
          rw [stringifyMembers]
          simp only [String.utf8ByteSize_append, ih, membersSize, size,
            List.map_cons, List.sum_cons, List.length_cons, colon, comma]
          omega

/-- An object with its braces. -/
theorem size_object (members : List (String × Json Number)) :
    (.object members : Json Number).size numeral =
      membersSize numeral members + 2 := by
  have opening : "\x7b".utf8ByteSize = 1 := rfl
  have closing : "\x7d".utf8ByteSize = 1 := rfl
  rw [size, stringify, String.utf8ByteSize_append, String.utf8ByteSize_append,
    utf8ByteSize_stringifyMembers, opening, closing]
  omega

theorem utf8ByteSize_stringifyElements (elements : List (Json Number)) :
    (stringifyElements numeral elements).utf8ByteSize =
      (elements.map fun element => element.size numeral).sum +
        (elements.length - 1) := by
  induction elements with
  | nil => rfl
  | cons element elements ih =>
      have comma : ",".utf8ByteSize = 1 := rfl
      cases elements with
      | nil => simp [stringifyElements, size]
      | cons next elements =>
          rw [stringifyElements]
          simp only [String.utf8ByteSize_append, ih, size, List.map_cons,
            List.sum_cons, List.length_cons, comma]
          omega

/-- An array with its brackets and the commas between its elements. -/
theorem size_array (elements : List (Json Number)) :
    (.array elements : Json Number).size numeral =
      (elements.map fun element => element.size numeral).sum +
        (elements.length - 1) + 2 := by
  have opening : "[".utf8ByteSize = 1 := rfl
  have closing : "]".utf8ByteSize = 1 := rfl
  rw [size, stringify, String.utf8ByteSize_append, String.utf8ByteSize_append,
    utf8ByteSize_stringifyElements, opening, closing]
  omega

theorem size_tagged (name : String) (content : Json Number) :
    (tagged name content).size numeral =
      (quote name).utf8ByteSize + content.size numeral + 3 := by
  rw [tagged, size_object]
  simp only [membersSize, List.map_cons, List.map_nil, List.sum_cons,
    List.sum_nil, List.length_cons, List.length_nil]
  omega

end Json
