import TransferHistory.Number.Power
import TransferHistory.Text.Blank
import TransferHistory.Text.Digits

/-!
# Leading integers

A numeric parameter is read from its front: blanks, one sign, decimal digits; whatever follows the
digits does not matter. A number too large for 63 bits counts as the largest one that fits, and the
sign is applied after that.
-/

namespace TransferHistory.LeadingInt

/-- The greatest magnitude. -/
def greatest : Nat := values63 - 1

/-- One more digit, never above the greatest magnitude. -/
def extend (magnitude : Nat) (digit : Char) : Nat :=
  min greatest (min greatest (magnitude * 10) + Text.digitValue digit)

/-- The magnitude that a sequence of digits denotes, at most the greatest one. -/
def magnitude (digits : List Char) : Nat :=
  digits.foldl extend 0

/-- The integer at the front of a text, if digits stand there. -/
def ofText? (text : List Char) : Option Int :=
  let (negative, rest) := Text.withoutSign (Text.trimStart text)
  match rest.takeWhile Char.isDigit with
  | [] => none
  | digits => some (if negative then -(magnitude digits : Int) else magnitude digits)

end TransferHistory.LeadingInt
