import TransferHistory.Text.Digits

/-!
# Dates and times in settings

A date, a time of day, or both with or without an offset from universal time. The seconds of a time may
be missing. The service only shows them, so reading gives their one normal text: `T` between date and
time, `Z` for the offset zero where that was written, `+00:00` for one written in digits, and no needless
zeros at the end of a fraction, of which nine digits count.
-/

namespace TransferHistory.Toml.DateTime

/-- The number of days of a month. -/
def daysIn (year month : Nat) : Nat :=
  if month = 2 then
    if year % 4 = 0 ∧ (year % 100 ≠ 0 ∨ year % 400 = 0) then 29 else 28
  else if month = 4 ∨ month = 6 ∨ month = 9 ∨ month = 11 then 30
  else 31

/-- A year, a month and a day that exist. -/
def isDate (year month day : Nat) : Bool :=
  1 ≤ month && month ≤ 12 && 1 ≤ day && day ≤ daysIn year month

/-- The date at the front of a text, and what follows it. -/
def date? : List Char → Option (List Char × List Char)
  | y₁ :: y₂ :: y₃ :: y₄ :: '-' :: m₁ :: m₂ :: '-' :: d₁ :: d₂ :: rest =>
      let year := [y₁, y₂, y₃, y₄]
      let month := [m₁, m₂]
      let day := [d₁, d₂]
      if (year ++ month ++ day).all Char.isDigit &&
          isDate (Text.natural year) (Text.natural month) (Text.natural day) then
        some (year ++ '-' :: month ++ '-' :: day, rest)
      else none
  | _ => none

/-- The fraction of a second at the front of a text; it may be missing. -/
def fraction? : List Char → Option (List Char × List Char)
  | '.' :: rest =>
      let digits := rest.takeWhile Char.isDigit
      let kept := ((digits.take 9).reverse.dropWhile (· == '0')).reverse
      if digits.isEmpty then none
      else some ('.' :: (if kept.isEmpty then ['0'] else kept), rest.dropWhile Char.isDigit)
  | rest => some ([], rest)

/-- The seconds at the front of a text, behind a colon; they may be missing. A minute may have a leap
second. -/
def seconds? : List Char → Option (List Char × List Char)
  | ':' :: s₁ :: s₂ :: rest =>
      if [s₁, s₂].all Char.isDigit && Text.natural [s₁, s₂] ≤ 60 then
        (fraction? rest).map fun (fraction, rest) => (':' :: s₁ :: s₂ :: fraction, rest)
      else none
  | rest => some ([], rest)

/-- The time of day at the front of a text. -/
def time? : List Char → Option (List Char × List Char)
  | h₁ :: h₂ :: ':' :: m₁ :: m₂ :: rest =>
      if [h₁, h₂, m₁, m₂].all Char.isDigit && Text.natural [h₁, h₂] ≤ 23 &&
          Text.natural [m₁, m₂] ≤ 59 then
        (seconds? rest).map fun (seconds, rest) =>
          (h₁ :: h₂ :: ':' :: m₁ :: m₂ :: seconds, rest)
      else none
  | _ => none

/-- The offset that makes up a whole text; it may be missing. -/
def offset? : List Char → Option (List Char)
  | [] => some []
  | [c] => if c = 'Z' ∨ c = 'z' then some ['Z'] else none
  | [sign, h₁, h₂, ':', m₁, m₂] =>
      if (sign = '+' ∨ sign = '-') ∧ [h₁, h₂, m₁, m₂].all Char.isDigit ∧
          Text.natural [h₁, h₂] ≤ 23 ∧ Text.natural [m₁, m₂] ≤ 59 then
        some ((if [h₁, h₂, m₁, m₂].all (· == '0') then '+' else sign) :: [h₁, h₂, ':', m₁, m₂])
      else none
  | _ => none

/-- The normal text of a date, a time, or both. -/
def normal? (text : List Char) : Option (List Char) :=
  match date? text with
  | some (date, []) => some date
  | some (date, mark :: rest) =>
      if mark = 'T' ∨ mark = 't' ∨ mark = ' ' then
        match time? rest with
        | some (time, rest) => (offset? rest).map fun offset => date ++ 'T' :: time ++ offset
        | none => none
      else none
  | none =>
      match time? text with
      | some (time, []) => some time
      | _ => none

end TransferHistory.Toml.DateTime
