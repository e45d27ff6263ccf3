import Mathlib.Data.Int.Log
import Rylus.BrowserEvents
import Rylus.ExactDouble
import Rylus.WireFormat

/-!
# Numbers between the two ends

A number that is not an integer is written in decimal digits by the client and
read from these digits by the server's parser.  The parser is not asked for
the nearest double, so what it reads may be a neighbour of what was written.
-/

namespace Rylus

/-- Digits and the power of ten that they are divided by. -/
structure Numeral where
  significand : Int
  scale : Nat

/-- What `JSON.stringify` writes for a number, and what `serde_json` reads,
unless a double cannot hold it. -/
structure WireNumerals where
  write : ℚ → Numeral
  read : Numeral → Option ℚ

namespace WireNumerals

variable (numerals : WireNumerals)

mutual

/-- The value that the server's parser makes of a text; a numeral that it
cannot read is an error of the whole text. -/
def parse : Json ℚ → Option (Json ℚ)
  | .null => some .null
  | .bool value => some (.bool value)
  | .integer value => some (.integer value)
  | .float value => (numerals.read (numerals.write value)).map .float
  | .string value => some (.string value)
  | .array elements => (parseElements elements).map .array
  | .object members => (parseMembers members).map .object

def parseElements : List (Json ℚ) → Option (List (Json ℚ))
  | [] => some []
  | element :: elements => do
      let element ← parse element
      let elements ← parseElements elements
      return element :: elements

def parseMembers : List (String × Json ℚ) → Option (List (String × Json ℚ))
  | [] => some []
  | (name, json) :: members => do
      let json ← parse json
      let members ← parseMembers members
      return (name, json) :: members

end

/-- `serde_json::from_str`. -/
def fromStr (json : Json ℚ) : Option (MessageInbound ℚ) :=
  (numerals.parse json).bind fun parsed =>
    (MessageInbound.deserialize parsed).toOption

/-- What arrives for a finite number: only integers are sure to be the same. -/
def crossed (value : ℚ) : Option ℚ :=
  if value.den = 1 ∧ -2 ^ 63 ≤ value.num ∧ value.num < 2 ^ 64 then
    some value
  else
    numerals.read (numerals.write value)

/-! ### What is parsed -/

/-- A finite number is parsed if it arrives, and is then read as what
arrives. -/
theorem parse_finite (value : ℚ) :
    (numerals.parse (JsNumber.finite value).toJson).map Json.readFloat =
      (numerals.crossed value).map .ok := by
  rw [JsNumber.toJson, crossed]
  split
  · rename_i isInteger
    have same : ((value.num : Int) : ℚ) = value :=
      Rat.coe_int_num_of_den_eq_one isInteger.1
    rw [parse]
    change some (Except.ok ((value.num : Int) : ℚ)) = some (.ok value)
    rw [same]
  · rw [parse, Option.map_map]
    rfl

theorem parse_quotient (dividend : ℚ) {divisor : ℚ} (nonzero : divisor ≠ 0) :
    (numerals.parse (JsNumber.quotient dividend divisor).toJson).map
        Json.readFloat =
      (numerals.crossed (dividend / divisor)).map .ok := by
  rw [JsNumber.quotient, if_neg nonzero]
  exact numerals.parse_finite _

theorem parse_tagged (name : String) (content : Json ℚ) :
    numerals.parse (.tagged name content) =
      (numerals.parse content).map (.tagged name) := by
  rw [Json.tagged, parse, parseMembers, parseMembers]
  cases numerals.parse content <;> rfl

/-- Either nothing is parsed and nothing expected, or what is parsed is read
as what is expected. -/
theorem map_read_cases {Parsed Value : Type} {parsed : Option Parsed}
    {read : Parsed → Except Json.DecodeError Value}
    {expected : Option Value}
    (agrees : parsed.map read = expected.map .ok) :
    (parsed = none ∧ expected = none) ∨
      ∃ json value, parsed = some json ∧ expected = some value ∧
        read json = .ok value := by
  cases parsed with
  | none =>
      cases expected with
      | none => exact .inl ⟨rfl, rfl⟩
      | some value => cases agrees
  | some json =>
      cases expected with
      | none => cases agrees
      | some value =>
          exact .inr ⟨json, value, rfl, rfl, Option.some.inj agrees⟩

/-- If each element is read as expected, so is the list of them. -/
theorem parseElements_map {Source Value : Type}
    {write : Source → Json ℚ}
    {read : Json ℚ → Except Json.DecodeError Value}
    {expected : Source → Option Value}
    (agrees : ∀ source, (numerals.parse (write source)).map read =
      (expected source).map .ok) (sources : List Source) :
    (numerals.parseElements (sources.map write)).map (List.mapM read) =
      (sources.mapM expected).map .ok := by
  induction sources with
  | nil => rfl
  | cons source sources ih =>
      rw [List.map_cons, parseElements, List.mapM_cons]
      obtain ⟨parsed, arrives⟩ | ⟨json, value, parsed, arrives, isRead⟩ :=
        map_read_cases (agrees source)
      · rw [parsed, arrives]
        rfl
      · rw [parsed, arrives]
        obtain ⟨rest, arrive⟩ | ⟨elements, values, rest, arrive, areRead⟩ :=
          map_read_cases ih
        · rw [rest, arrive]
          rfl
        · rw [rest, arrive]
          change some ((json :: elements).mapM read) =
            some (.ok (value :: values))
          rw [List.mapM_cons, isRead, areRead]
          rfl

/-! ### Doubles -/

/-- The double nearest to a number, where it is neither subnormal nor too
large. -/
def nearestDouble (value : ℚ) : ℚ :=
  let unit : ℚ := 2 ^ (Int.log 2 |value| - 52)
  ExactDouble.roundHalfEven (value / unit) * unit

/-- `f64_from_parts` without the feature `float_roundtrip`: digits and power
of ten are each rounded, and then their quotient. -/
def readParts (numeral : Numeral) : ℚ :=
  nearestDouble (nearestDouble numeral.significand /
    nearestDouble (10 ^ numeral.scale))

/-- 0.9333333333333333 is written for the next double. -/
example : readParts ⟨9333333333333333, 16⟩ = 8406719304424925 / 2 ^ 53 ∧
    nearestDouble (9333333333333333 / 10 ^ 16) =
      4203359652212463 / 2 ^ 52 := by
  decide +kernel

/-- With sixteen decimals, which is all that `JSON.stringify` writes for many
doubles below one. -/
def sixteenDecimals : WireNumerals where
  write value := ⟨ExactDouble.roundHalfEven (value * 10 ^ 16), 16⟩
  read numeral := some (readParts numeral)

end WireNumerals

end Rylus
