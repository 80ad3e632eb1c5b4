import TransferHistory.Query.Params
import TransferHistory.Text.Split
import TransferHistory.Text.Utf8

/-!
# Query strings

The wire form of request parameters: `name=value` pieces joined by `&`. A piece without `=` is a name
with an empty value, an empty piece is nothing, `+` stands for a space and `%` with two hexadecimal
digits for a byte. Any other `%` stands for itself. Bytes that are no text are read as replacement
characters.

`Params.toForm` writes every byte of every name and value as a triplet, so that nothing in them can
be taken for a separator.
-/

namespace TransferHistory

namespace Form

/-- The value of a hexadecimal digit. -/
def hexValue? (b : UInt8) : Option UInt8 :=
  if 0x30 ≤ b && b ≤ 0x39 then some (b - 0x30)
  else if 0x41 ≤ b && b ≤ 0x46 then some (b - 0x41 + 10)
  else if 0x61 ≤ b && b ≤ 0x66 then some (b - 0x61 + 10)
  else none

/-- The byte that two hexadecimal digits stand for. -/
def triplet? (high low : UInt8) : Option UInt8 :=
  match hexValue? high, hexValue? low with
  | some high, some low => some (high * 16 + low)
  | _, _ => none

/-- Bytes with their triplets read; a `%` without two hexadecimal digits stays. -/
def readTriplets : List UInt8 → List UInt8
  | [] => []
  | 0x25 :: high :: low :: rest =>
      match triplet? high low with
      | some byte => byte :: readTriplets rest
      | none => 0x25 :: readTriplets (high :: low :: rest)
  | b :: rest => b :: readTriplets rest

/-- A text with its triplets read, if what they give is a text. -/
def percentDecoded? (text : List Char) : Option (List Char) :=
  Text.Utf8.decodeStrict (readTriplets (Text.Utf8.encode text))

/-- The text of one name or value. -/
def decode (bytes : List UInt8) : String :=
  let spaced := bytes.map fun b => if b = 0x2B then 0x20 else b
  String.ofList (Text.Utf8.decode (readTriplets spaced))

/-- The name and the value of one piece, if it is not empty. -/
def pair? (piece : List UInt8) : Option (String × String) :=
  if piece.isEmpty then none
  else
    let (name, value) := Text.cut 0x3D piece
    some (decode name, decode (value.getD []))

/-- The names and values of a query string, in order. -/
def pairs (bytes : List UInt8) : List (String × String) :=
  let (first, others) := Text.pieces 0x26 bytes
  (first :: others).filterMap pair?

/-- A hexadecimal digit. -/
def hexDigit (value : UInt8) : UInt8 :=
  if value < 10 then 0x30 + value else 0x41 + (value - 10)

/-- A byte as a triplet. -/
def writeTriplet (byte : UInt8) : List UInt8 :=
  [0x25, hexDigit (byte / 16), hexDigit (byte % 16)]

/-- A text with every byte as a triplet. -/
def encode (text : String) : List UInt8 :=
  (Text.Utf8.encode text.toList).flatMap writeTriplet

end Form

namespace Params

/-- The parameters of a query string. -/
def ofForm (text : String) : Params :=
  .ofPairs (Form.pairs (Text.Utf8.encode text.toList))

/-- The bytes of a query string that gives these parameters. -/
def toForm (params : Params) : List UInt8 :=
  match params.entries.map fun (name, value) => Form.encode name ++ 0x3D :: Form.encode value with
  | [] => []
  | first :: others => Text.rejoin 0x26 first others

end Params

end TransferHistory
