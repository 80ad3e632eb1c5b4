import TransferHistory.Json.Printer
import TransferHistory.Text.Quoted

/-!
# Reading typed data out of JSON values

Where a value has to be of some kind, a wrong one is reported as a `Mismatch`: what was found and
what was expected there. `Mismatch.message` is the only place that words it.
-/

namespace TransferHistory.Json

/-- What a place expects. -/
inductive Expected where
  /-- An unsigned integer of 64 bits. -/
  | word64
  /-- An unsigned integer of 16 bits. -/
  | word16
  /-- A number of bytes. -/
  | size
  | text
  | list
  /-- An object with known fields. -/
  | structure (name : String)
  deriving DecidableEq, Repr

/-- Why a value is not what its place expects. -/
inductive Mismatch where
  | wrongKind (found : Json) (expected : Expected)
  | wrongValue (found : Int) (expected : Expected)
  | tooShort (length : Nat) (name : String) (fields : Nat)
  | tooLong (length : Nat)
  | missing (field : String)
  deriving DecidableEq, Repr

/-- The name of an expectation. -/
def Expected.name : Expected → String
  | .word64 => "u64"
  | .word16 => "u16"
  | .size => "usize"
  | .text => "a string"
  | .list => "a sequence"
  | .structure name => "struct " ++ name

/-- A value as a message shows it. Arrays and objects are not shown, only named. -/
def describe : Json → String
  | .null => "null"
  | .bool value => "boolean `" ++ (if value then "true" else "false") ++ "`"
  | .number (.int value) => "integer `" ++ renderInt value ++ "`"
  | .number (.real value) => "floating point `" ++ value.render numberFormat ++ "`"
  | .string text => "string " ++ Text.quoted text
  | .array _ => "sequence"
  | .object _ => "map"

/-- The wording of a mismatch. -/
def Mismatch.message : Mismatch → String
  | .wrongKind found expected =>
      "invalid type: " ++ found.describe ++ ", expected " ++ expected.name
  | .wrongValue found expected =>
      "invalid value: integer `" ++ renderInt found ++ "`, expected " ++ expected.name
  | .tooShort length name fields =>
      "invalid length " ++ renderInt length ++ ", expected struct " ++ name ++ " with " ++
        renderInt fields ++ " elements"
  | .tooLong length =>
      "invalid length " ++ renderInt length ++ ", expected fewer elements in array"
  | .missing field => "missing field `" ++ field ++ "`"

/-- A text. -/
def asText : Json → Except Mismatch String
  | .string text => .ok text
  | other => .error (.wrongKind other .text)

/-- The items of an array. -/
def asItems : Json → Except Mismatch (List Json)
  | .array items => .ok items
  | other => .error (.wrongKind other .list)

/-- An integer below a bound, with no sign. -/
def asBelow (bound : Nat) (expected : Expected) : Json → Except Mismatch Nat
  | .number (.int value) =>
      if 0 ≤ value ∧ value < bound then .ok value.toNat else .error (.wrongValue value expected)
  | other => .error (.wrongKind other expected)

/-- An unsigned integer of 64 bits. -/
def asWord64 (value : Json) : Except Mismatch UInt64 :=
  (asBelow values64 .word64 value).map UInt64.ofNat

/-- An unsigned integer of 16 bits. -/
def asWord16 (value : Json) : Except Mismatch UInt16 :=
  (asBelow values16 .word16 value).map UInt16.ofNat

/-- A number of bytes. -/
def asSize (value : Json) : Except Mismatch UInt64 :=
  (asBelow values64 .size value).map UInt64.ofNat

/-- A list of texts. -/
def asTexts (value : Json) : Except Mismatch (List String) := do
  (← asItems value).mapM asText

/-- What `read` finds, or nothing in place of `null`. -/
def optional (read : Json → Except Mismatch α) : Json → Except Mismatch (Option α)
  | .null => .ok none
  | value => (read value).map some

end TransferHistory.Json
