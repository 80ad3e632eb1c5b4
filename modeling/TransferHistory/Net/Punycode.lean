import TransferHistory.Number.Power

/-!
# Letters beyond ASCII in ASCII labels

A label with letters beyond ASCII has a form in ASCII alone: its ASCII characters, a hyphen, and one
number for each other letter, in the order of the code points. A number says how many pairs of a
code point and a place are passed over until that letter. It is written to the base 36, the lowest
digit first, and ends with the first digit below a threshold that adapts to the size of the numbers.

`decode?` reads a label from that form.
-/

namespace TransferHistory.Punycode

/-- The value of a digit: letters come before figures. -/
def digit? (c : Char) : Option Nat :=
  if c.isLower then some (c.toNat - 'a'.toNat)
  else if c.isDigit then some (c.toNat - '0'.toNat + 26)
  else none

/-- The digit that a number goes on with at least, at the place of a digit, which counts in steps of
the base. -/
def threshold (place bias : Nat) : Nat :=
  if place ≤ bias then 1 else if bias + 26 ≤ place then 26 else place - bias

/-- No number is greater. -/
def greatest : Nat := twoTo 32 - 1

/-- A number at the front of a text, added to a sum, and what follows it. -/
def number? (bias : Nat) : Nat → Nat → Nat → List Char → Option (Nat × List Char)
  | _, _, _, [] => none
  | place, weight, sum, c :: rest =>
      match digit? c with
      | none => none
      | some digit =>
          if greatest < sum + digit * weight then none
          else if digit < threshold place bias then some (sum + digit * weight, rest)
          else if greatest < weight * (36 - threshold place bias) then none
          else
            number? bias (place + 36) (weight * (36 - threshold place bias)) (sum + digit * weight)
              rest

/-- A number takes at least one digit. -/
theorem length_of_number? {bias place weight sum : Nat} {text : List Char}
    {found : Nat × List Char} (read : number? bias place weight sum text = some found) :
    found.2.length < text.length := by
  induction text generalizing place weight sum with
  | nil => simp [number?] at read
  | cons c rest ih =>
      rw [number?] at read
      split at read
      · simp at read
      · split at read
        · simp at read
        · split at read
          · obtain rfl := Option.some.inj read
            simp
          · split at read
            · simp at read
            · have shorter := ih read
              simp only [List.length_cons]
              omega

/-- A size divided by 35 until it is small, and the place reached by that. -/
def settle (size place : Nat) : Nat × Nat :=
  if 455 < size then settle (size / 35) (place + 36) else (size, place)
termination_by size
decreasing_by exact Nat.div_lt_self (by omega) (by omega)

/-- The bias behind a number, for a label of some length. -/
def adapt (number length : Nat) (isFirst : Bool) : Nat :=
  let damped := if isFirst then number / 700 else number / 2
  let (size, place) := settle (damped + damped / length) 0
  place + 36 * size / (size + 38)

/-- The letters of a text put into a label, from a code point and a place on. -/
def insertAll (bias code place : Nat) (label text : List Char) : Option (List Char) :=
  match text with
  | [] => some label
  | c :: rest =>
      match _ : number? bias 36 1 place (c :: rest) with
      | none => none
      | some (sum, text) =>
          let length := label.length + 1
          let code := code + sum / length
          let here := sum % length
          if code.isValidChar then
            insertAll (adapt (sum - place) length (place == 0)) code (here + 1)
              (label.take here ++ Char.ofNat code :: label.drop here) text
          else none
termination_by text.length
decreasing_by exact length_of_number? ‹_›

/-- The label whose ASCII form is a text in small letters. -/
def decode? (text : List Char) : Option (List Char) :=
  let behind := text.reverse.takeWhile (· != '-')
  let before := (text.reverse.dropWhile (· != '-')).tail.reverse
  if before.isEmpty then insertAll 72 128 0 [] text
  else insertAll 72 128 0 before behind.reverse

end TransferHistory.Punycode
