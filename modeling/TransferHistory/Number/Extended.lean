import TransferHistory.Number.Shortest
import TransferHistory.Text.Digits

/-!
# Numbers with infinities

A setting may hold any number of the 64-bit binary format, the two infinities and the missing number
included. Here are its text, which has no exponent part, the grammar in which it is written, and its
conversion to an unsigned integer.
-/

namespace TransferHistory

/-- A binary number, an infinity, or no number. -/
inductive Extended where
  | finite (value : Binary64)
  | infinite (negative : Bool)
  | notANumber
  deriving DecidableEq, Repr

namespace Extended

/-- No exponent part at all, and no fraction on whole numbers. -/
def format : DecimalFormat := ⟨-400, 400, false⟩

/-- The text of a number. -/
def render : Extended → String
  | .finite value => value.render format
  | .infinite false => "inf"
  | .infinite true => "-inf"
  | .notANumber => "NaN"

/-- The unsigned integer of 64 bits nearest to a number. What is negative or no number gives zero, what
is too great the greatest one. -/
def toWord64 : Extended → UInt64
  | .finite value =>
      if value.negative then 0 else UInt64.ofNat (min value.roundAwayFromZero (values64 - 1))
  | .infinite false => UInt64.ofNat (values64 - 1)
  | .infinite true | .notANumber => 0

/-! ## Reading -/

/-- The exponent part that makes up a whole text; nothing stands for zero. -/
def exponent? : List Char → Option Int
  | [] => some 0
  | mark :: rest =>
      let (negative, digits) := Text.withoutSign rest
      if (mark = 'e' ∨ mark = 'E') ∧ Text.isNatural digits then
        some (if negative then -(Text.natural digits : Int) else Text.natural digits)
      else none

/-- Digits with a point, which may be left out, and an exponent part: all digits as one number, and
the power of ten that it is multiplied by. A digit has to stand on one side of the point. -/
def decimal? (text : List Char) : Option (Nat × Int) := do
  let whole := text.takeWhile Char.isDigit
  let (fraction, rest) :=
    match text.dropWhile Char.isDigit with
    | '.' :: rest => (rest.takeWhile Char.isDigit, rest.dropWhile Char.isDigit)
    | rest => ([], rest)
  if whole.isEmpty && fraction.isEmpty then none
  else
    let exponent ← exponent? rest
    return (Text.natural (whole ++ fraction), exponent - fraction.length)

/-- The number nearest to a decimal one. What is too great is infinite. -/
def ofDecimal (negative : Bool) (digits : Nat) (exponent : Int) : Extended :=
  match Binary64.ofDecimal? negative digits exponent with
  | some value => .finite value
  | none => .infinite negative

/-- The number that a text denotes. -/
def parse? (text : String) : Option Extended :=
  let (negative, body) := Text.withoutSign text.toList
  let word := String.ofList (body.map Char.toLower)
  if word = "inf" ∨ word = "infinity" then some (.infinite negative)
  else if word = "nan" then some .notANumber
  else (decimal? body).map fun (digits, exponent) => ofDecimal negative digits exponent

end Extended

end TransferHistory
