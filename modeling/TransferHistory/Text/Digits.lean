import TransferHistory.Number.Power

/-!
# Digits and letters

The ASCII digits of any base up to sixteen, the numbers that they denote, signs, and the small form of
ASCII letters. Letters and digits of other alphabets count for nothing here: the formats that use
these functions know none.
-/

namespace TransferHistory.Text

/-- A hexadecimal digit. -/
def isHex (c : Char) : Bool :=
  c.isDigit || ('a' ≤ c && c ≤ 'f') || ('A' ≤ c && c ≤ 'F')

/-- The value of a hexadecimal digit. -/
def digitValue (c : Char) : Nat :=
  if c.isDigit then c.toNat - '0'.toNat else c.toLower.toNat - 'a'.toNat + 10

/-- The number that digits of some base denote. -/
def numberIn (base : Nat) (digits : List Char) : Nat :=
  digits.foldl (fun number digit => number * base + digitValue digit) 0

/-- A text that is a sequence of decimal digits. -/
def isNatural (text : List Char) : Bool :=
  !text.isEmpty && text.all Char.isDigit

/-- The number that decimal digits denote. -/
def natural (digits : List Char) : Nat :=
  numberIn 10 digits

/-- A text without its sign, and whether that is a minus sign. -/
def withoutSign : List Char → Bool × List Char
  | '-' :: rest => (true, rest)
  | '+' :: rest => (false, rest)
  | text => (false, text)

/-- A text without a plus sign in front. -/
def withoutPlus : List Char → List Char
  | '+' :: rest => rest
  | text => text

/-- A signed integer, if 64 bits hold it. -/
def signed64? (negative : Bool) (magnitude : Nat) : Option Int :=
  if negative then (if magnitude ≤ values63 then some (-magnitude) else none)
  else if magnitude < values63 then some magnitude
  else none

/-- A text with its capital ASCII letters made small. -/
def lowerAscii (text : String) : String :=
  String.ofList (text.toList.map Char.toLower)

end TransferHistory.Text
