import TransferHistory.Json.Basic
import TransferHistory.Number.Shortest

/-!
# JSON text

The one compact text of a value: no blanks, members in order, and in a text only quotes, backslashes
and control characters escaped.
-/

namespace TransferHistory.Json

/-- Numbers keep a fraction or an exponent, so that a binary number never reads back as an integer;
the exponent part begins at `1e16` and below `1e-5`. -/
def numberFormat : DecimalFormat := ⟨-5, 15, true⟩

/-- One character inside the quotes. -/
def escapedChar (c : Char) : String :=
  match c with
  | '"' => "\\\""
  | '\\' => "\\\\"
  | '\n' => "\\n"
  | '\r' => "\\r"
  | '\t' => "\\t"
  | c =>
      if c.toNat = 0x08 then "\\b"
      else if c.toNat = 0x0C then "\\f"
      else if c.toNat < 0x10 then "\\u000" ++ String.ofList (Nat.toDigits 16 c.toNat)
      else if c.toNat < 0x20 then "\\u00" ++ String.ofList (Nat.toDigits 16 c.toNat)
      else c.toString

/-- A text between quotes. -/
def renderString (text : String) : String :=
  "\"" ++ String.join (text.toList.map escapedChar) ++ "\""

/-- An integer in decimal digits. -/
def renderInt (value : Int) : String :=
  (if value < 0 then "-" else "") ++ String.ofList (Nat.toDigits 10 value.natAbs)

/-- The text of a number. -/
def Number.render : Number → String
  | .int value => renderInt value
  | .real value => value.render numberFormat

mutual

/-- The compact text of a value. -/
def render : Json → String
  | .null => "null"
  | .bool value => if value then "true" else "false"
  | .number value => value.render
  | .string text => renderString text
  | .array [] => "[]"
  | .array (item :: rest) => "[" ++ render item ++ renderItems rest ++ "]"
  | .object [] => "\x7b\x7d"
  | .object ((name, value) :: rest) =>
      "\x7b" ++ renderString name ++ ":" ++ render value ++ renderMembers rest ++ "\x7d"

/-- The items after the first one, each behind a comma. -/
def renderItems : List Json → String
  | [] => ""
  | item :: rest => "," ++ render item ++ renderItems rest

/-- The members after the first one, each behind a comma. -/
def renderMembers : List (String × Json) → String
  | [] => ""
  | (name, value) :: rest =>
      "," ++ renderString name ++ ":" ++ render value ++ renderMembers rest

end

end TransferHistory.Json
