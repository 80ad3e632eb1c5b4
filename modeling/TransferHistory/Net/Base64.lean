import TransferHistory.Number.Power
import TransferHistory.Text.Utf8

/-!
# Base64

Bytes as text: three bytes are one number of four digits to the base 64. Where the last group has only
one or two bytes, the digits that stand for none of them are written as equals signs.
-/

namespace TransferHistory.Base64

/-- A digit to the base 64. -/
def digit (value : Nat) : Char :=
  if value < 26 then Char.ofNat ('A'.toNat + value)
  else if value < 52 then Char.ofNat ('a'.toNat + (value - 26))
  else if value < 62 then Char.ofNat ('0'.toNat + (value - 52))
  else if value = 62 then '+'
  else '/'

/-- The four digits of three bytes. -/
def group (a b c : UInt8) : List Char :=
  let number := (a.toNat * 256 + b.toNat) * 256 + c.toNat
  [digit (number / twoTo 18), digit (number / twoTo 12 % 64), digit (number / 64 % 64),
    digit (number % 64)]

/-- The text of bytes. -/
def encode : List UInt8 → List Char
  | [] => []
  | [a] => (group a 0 0).take 2 ++ ['=', '=']
  | [a, b] => (group a b 0).take 3 ++ ['=']
  | a :: b :: c :: rest => group a b c ++ encode rest

end TransferHistory.Base64
