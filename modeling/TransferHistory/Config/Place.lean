import TransferHistory.Text.Blank
import TransferHistory.Text.Digits

/-!
# Places in a tree of settings

A key of a layer may name a place deep inside the tree. `server.port` is the entry `port` of the entry
`server`, and `server[0]` is the first item of the list `server`; a position below zero counts from
the end of the list. A key that is not of this form is a single name (`ofKey`).
-/

namespace TransferHistory

/-- A step from a value to one of its parts. -/
inductive PlaceStep where
  /-- To the entry of a table. -/
  | entry (name : String)
  /-- To the item of a list, counted from its end where the position is below zero. -/
  | item (position : Int)
  deriving DecidableEq, Repr

/-- A place in a tree: the name of an entry at its top, and the steps from there. -/
structure Place where
  top : String
  steps : List PlaceStep
  deriving DecidableEq, Repr

namespace Place

/-- A character of a name. -/
def isNameChar (c : Char) : Bool :=
  c.isAlphanum || c == '_' || c == '-'

/-- The name at the front of a text, and what follows it. -/
def name? (text : List Char) : Option (String × List Char) :=
  match text.takeWhile isNameChar with
  | [] => none
  | name => some (String.ofList name, text.dropWhile isNameChar)

/-- A text without a minus sign in front, and whether there was one. -/
def withoutMinus : List Char → Bool × List Char
  | '-' :: rest => (true, rest)
  | text => (false, text)

/-- The position at the front of a text, with its closing bracket, and what follows. Blanks may stand
around a position. -/
def position? (text : List Char) : Option (Int × List Char) :=
  let (negative, text) := withoutMinus (text.dropWhile Text.isGap)
  let digits := text.takeWhile Char.isDigit
  match (text.dropWhile Char.isDigit).dropWhile Text.isGap with
  | ']' :: rest =>
      if digits.isEmpty then none
      else (Text.signed64? negative (Text.natural digits)).map fun position => (position, rest)
  | _ => none

/-- The steps that make up a whole text. The first argument bounds their number. -/
def steps? : Nat → List Char → Option (List PlaceStep)
  | _, [] => some []
  | bound + 1, '.' :: text => do
      let (name, rest) ← name? text
      return .entry name :: (← steps? bound rest)
  | bound + 1, '[' :: text => do
      let (position, rest) ← position? text
      return .item position :: (← steps? bound rest)
  | _, _ => none

/-- The place that a key denotes by its form, if it has one. -/
def parse? (key : List Char) : Option Place := do
  let (top, rest) ← name? key
  return ⟨top, ← steps? rest.length rest⟩

/-- The place that a key denotes. -/
def ofKey (key : String) : Place :=
  (parse? key.toList).getD ⟨key, []⟩

end Place

end TransferHistory
