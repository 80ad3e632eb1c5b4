import TransferHistory.Number.Binary64

/-!
# The shortest decimal text of a number

A number is written with the fewest decimal digits that read back as it. The numbers that read back
form an interval around it, whose ends belong to it when the mantissa is even. On the grid of one,
two, … seventeen digits the two grid points beside the number are tried; the first grid with a point
in the interval wins, and of two such points the nearer one.
-/

namespace TransferHistory

namespace Binary64

/-- The exponent `p` for which a positive ratio lies in `[10 ^ (p - 1), 10 ^ p)`. -/
def decimalPlaces (num den : Nat) : Int :=
  if den ≤ num then (Nat.toDigits 10 (num / den)).length
  else
    let inverse := (Nat.toDigits 10 (den / num)).length
    if den ≤ num * tenTo (inverse - 1) then 2 - (inverse : Int) else 1 - (inverse : Int)

/-- The ratio `num / den` in units of `10 ^ exponent`. -/
def inDecimalUnits (num den : Nat) (exponent : Int) : Nat × Nat :=
  if 0 ≤ exponent then (num, den * tenTo exponent.toNat) else (num * tenTo (-exponent).toNat, den)

/-- The point of the grid `10 ^ exponent` that reads back as the number: of the two grid points
beside it, the nearer one in the interval. -/
def gridPoint? (x : Binary64) (exponent : Int) : Option Nat :=
  let quarter : Nat × Nat := inUnits 1 1 (2 - x.exponent)
  let toGrid (quarters : Nat) : Nat × Nat :=
    inDecimalUnits (quarters * quarter.1) quarter.2 exponent
  let below := if x.mantissa = twoTo 52 && leastExponent < x.exponent then 1 else 2
  let low := toGrid (4 * x.mantissa - below)
  let high := toGrid (4 * x.mantissa + 2)
  let here := toGrid (4 * x.mantissa)
  let closed := x.mantissa % 2 == 0
  let inside (point : Nat) : Bool :=
    if closed then low.1 ≤ point * low.2 && point * high.2 ≤ high.1
    else low.1 < point * low.2 && point * high.2 < high.1
  let floor := here.1 / here.2
  let remainder := here.1 % here.2
  let floorNearer :=
    2 * remainder < here.2 || (2 * remainder == here.2 && floor % 2 == 0)
  match inside floor, inside (floor + 1) with
  | true, true => some (if floorNearer then floor else floor + 1)
  | true, false => some floor
  | false, true => some (floor + 1)
  | false, false => none

/-- The digits of the shortest text and the exponent of the first one. -/
def shortestDigits (x : Binary64) : List Char × Int :=
  if x.mantissa = 0 then (['0'], 0)
  else
    let places := decimalPlaces x.ratio.1 x.ratio.2
    let found := (List.range 17).findSome? fun count =>
      let exponent := places - (count + 1 : Nat)
      (gridPoint? x exponent).map fun point => (point, exponent)
    let (point, exponent) := found.getD (0, 0)
    let digits := Nat.toDigits 10 point
    let kept := (digits.reverse.dropWhile (· == '0')).reverse
    (kept, (digits.length : Int) - 1 + exponent)

end Binary64

/-- The choices of a text format for numbers: which exponents of the first digit are written without
an exponent part, and whether a whole number keeps a fraction. -/
structure DecimalFormat where
  leastPositional : Int
  greatestPositional : Int
  keepsFraction : Bool
  deriving DecidableEq, Repr

namespace Binary64

/-- Digits written without an exponent part, where the first one has the given exponent. -/
def positional (keepsFraction : Bool) (digits : List Char) (exponent : Int) : List Char :=
  if 0 ≤ exponent then
    let count := exponent.toNat + 1
    let whole := digits.take count ++ List.replicate (count - digits.length) '0'
    let fraction := digits.drop count
    if fraction.isEmpty then whole ++ (if keepsFraction then ['.', '0'] else [])
    else whole ++ '.' :: fraction
  else '0' :: '.' :: List.replicate ((-exponent).toNat - 1) '0' ++ digits

/-- Digits written with an exponent part; its sign is always there. -/
def scientific (digits : List Char) (exponent : Int) : List Char :=
  let mantissa :=
    match digits with
    | [] => []
    | [single] => [single]
    | first :: others => first :: '.' :: others
  mantissa ++ 'e' :: (if exponent < 0 then '-' else '+') :: Nat.toDigits 10 exponent.natAbs

/-- The shortest text of a number in a format. -/
def render (format : DecimalFormat) (x : Binary64) : String :=
  let (digits, exponent) := shortestDigits x
  let magnitude :=
    if format.leastPositional ≤ exponent && exponent ≤ format.greatestPositional then
      positional format.keepsFraction digits exponent
    else scientific digits exponent
  String.ofList (if x.negative then '-' :: magnitude else magnitude)

end Binary64

end TransferHistory
