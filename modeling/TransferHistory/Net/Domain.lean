import TransferHistory.Net.Punycode
import TransferHistory.Text.Blank
import TransferHistory.Text.Split

/-!
# Domain names

The names of hosts may hold letters beyond ASCII. Some characters count as others: the capital letters of
ASCII as small ones, wide forms as ASCII, every full stop as a point, and a few characters as nothing. Others
cannot stand in a name at all. A label that begins with `xn--` is the ASCII form of a label with letters
beyond ASCII, and has to be one.

Which character counts as which is laid down in the tables of UTS 46, one character at a time. A few ranges
of code points stand for these tables here: `isIgnored`, `isExcluded`, `isJoining` and `counted` follow them
in ASCII, in the wide forms of ASCII and in the ranges they name, and leave every other character as it is.
Nor is a name with letters beyond ASCII turned into its ASCII form; it is kept in the letters it has.
-/

namespace TransferHistory.Domain

/-- A character lies in one of some ranges of code points. -/
def isWithin (ranges : List (Nat × Nat)) (c : Char) : Bool :=
  ranges.any fun (first, last) => first ≤ c.toNat && c.toNat ≤ last

/-- A character that counts as nothing. -/
def isIgnored : Char → Bool :=
  isWithin [(0xAD, 0xAD), (0x34F, 0x34F), (0x180B, 0x180D), (0x180F, 0x180F), (0x200B, 0x200B),
    (0x2060, 0x2060), (0x2064, 0x2064), (0xFE00, 0xFE0F), (0xFEFF, 0xFEFF), (0xE0100, 0xE01EF)]

/-- A character beyond ASCII that stands in no name: controls, marks of direction, joiners, characters
for private use and those that are none. -/
def isExcluded : Char → Bool :=
  isWithin [(0x80, 0x9F), (0x61C, 0x61C), (0x180E, 0x180E), (0x200C, 0x200F), (0x2028, 0x202E),
    (0x2061, 0x2063), (0x2065, 0x206F), (0xE000, 0xF8FF), (0xFDD0, 0xFDEF), (0xFFF0, 0xFFFF),
    (0xE0000, 0xE00FF), (0xF0000, 0x10FFFF)]

/-- A mark that joins the character before it, and so begins no label. -/
def isJoining : Char → Bool :=
  isWithin [(0x300, 0x36F), (0x1AB0, 0x1AFF), (0x1DC0, 0x1DFF), (0x20D0, 0x20FF), (0xFE20, 0xFE2F)]

/-- What a character counts as. -/
def counted (c : Char) : List Char :=
  if isIgnored c then []
  else if isWithin [(0xFF01, 0xFF5E)] c then [(Char.ofNat (c.toNat - 0xFEE0)).toLower]
  else if isWithin [(0x3002, 0x3002), (0xFF61, 0xFF61)] c then ['.']
  else if Text.isBlank c then [' ']
  else [c.toLower]

/-- A character beyond ASCII that counts as itself. -/
def isLetter (c : Char) : Bool :=
  0x80 ≤ c.toNat && !isExcluded c && counted c == [c]

/-- A label that is not in ASCII form. -/
def isPlainLabel (label : List Char) : Bool :=
  !(label.head?.any isJoining) && label.all fun c => c.toNat < 0x80 || isLetter c

/-- A label, which may be in ASCII form. -/
def isLabel (label : List Char) : Bool :=
  if "xn--".toList.isPrefixOf label then
    match Punycode.decode? (label.drop 4) with
    | some decoded => decoded.any isLetter && isPlainLabel decoded
    | none => false
  else isPlainLabel label

/-- The name that a text denotes, if all its labels can stand in a name. Its characters are mapped as far
as the ranges above go, and letters beyond ASCII stay: the standard goes on and gives the ASCII form. -/
def ofText? (text : List Char) : Option (List Char) :=
  let name := text.flatMap counted
  let (first, others) := Text.pieces '.' name
  if (first :: others).all isLabel then some name else none

end TransferHistory.Domain
