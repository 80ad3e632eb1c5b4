/-!
# Splitting at a separator

A sequence of characters or bytes is cut at every occurrence of one separator. There is always a
first piece, so the pieces come as the first one and the others: a sequence without the separator is
its own first piece.

`rejoin_pieces` says that writing the separator between the pieces gives the sequence back.
-/

namespace TransferHistory.Text

variable {α : Type}

/-- The pieces with a separator written between them. -/
def rejoin (sep : α) (first : List α) : List (List α) → List α
  | [] => first
  | next :: others => first ++ sep :: rejoin sep next others

theorem rejoin_cons (sep c : α) (first : List α) (others : List (List α)) :
    rejoin sep (c :: first) others = c :: rejoin sep first others := by
  cases others <;> rfl

variable [DecidableEq α]

/-- The first piece of a sequence and its other pieces. -/
def pieces (sep : α) : List α → List α × List (List α)
  | [] => ([], [])
  | c :: rest =>
      let (first, others) := pieces sep rest
      if c = sep then ([], first :: others) else (c :: first, others)

/-- What stands before the first separator and, where there is one, what stands behind it. -/
def cut (sep : α) : List α → List α × Option (List α)
  | [] => ([], none)
  | c :: rest =>
      if c = sep then ([], some rest)
      else
        let (before, after) := cut sep rest
        (c :: before, after)

/-- All pieces of a text, in order. -/
def split (sep : Char) (text : String) : List String :=
  let (first, others) := pieces sep text.toList
  String.ofList first :: others.map String.ofList

/-- A text without its first character, where that is the given one. -/
def behind? (first : Char) (text : String) : Option String :=
  match text.toList with
  | [] => none
  | c :: rest => if c = first then some (String.ofList rest) else none

/-- Splitting loses nothing. -/
theorem rejoin_pieces (sep : α) (text : List α) :
    rejoin sep (pieces sep text).1 (pieces sep text).2 = text := by
  induction text with
  | nil => rfl
  | cons c rest ih =>
      by_cases h : c = sep
      · simp [pieces, h, rejoin, ih]
      · simp [pieces, h, rejoin_cons, ih]

example : pieces ',' "a,,b".toList = ("a".toList, ["".toList, "b".toList]) := by decide +kernel

end TransferHistory.Text
