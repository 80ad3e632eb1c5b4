import TransferHistory.Text.Digits
import TransferHistory.Text.Split

/-!
# Network addresses

The two kinds of internet address and their texts. An address of the fourth version is four decimal
numbers without leading zeros; one of the sixth is eight groups of hexadecimal digits, of which a run
of zeros may be left out once and the last two may be written as an address of the fourth version.
The text written is the shortest one, in small letters.
-/

namespace TransferHistory

/-- An internet address. -/
inductive IpAddress where
  | v4 (a b c d : Nat)
  | v6 (groups : List Nat)
  deriving DecidableEq, Repr

namespace IpAddress

/-! ## Reading -/

/-- A number of at most 255 at the front of a text. -/
def readOctet (text : List Char) : Option (Nat × List Char) :=
  let digits := text.takeWhile Char.isDigit
  let number := Text.natural digits
  if digits.isEmpty || 3 < digits.length || 255 < number then none
  else if digits.head? = some '0' ∧ digits.length ≠ 1 then none
  else some (number, text.drop digits.length)

/-- A number behind a point. -/
def readNextOctet : List Char → Option (Nat × List Char)
  | '.' :: rest => readOctet rest
  | _ => none

/-- Four numbers at the front of a text. -/
def readV4 (text : List Char) : Option ((Nat × Nat × Nat × Nat) × List Char) := do
  let (a, text) ← readOctet text
  let (b, text) ← readNextOctet text
  let (c, text) ← readNextOctet text
  let (d, text) ← readNextOctet text
  return ((a, b, c, d), text)

/-- A group of one to four hexadecimal digits at the front of a text. -/
def readGroup (text : List Char) : Option (Nat × List Char) :=
  let digits := text.takeWhile Text.isHex
  if digits.isEmpty || 4 < digits.length then none
  else some (Text.numberIn 16 digits, text.drop digits.length)

/-- At most so many groups at the front of a text, each but the first behind a colon. Four numbers
stand for two groups and end the sequence, which is told by the second result. -/
def readGroups : Nat → Bool → List Char → List Nat × Bool × List Char
  | 0, _, text => ([], false, text)
  | room + 1, first, text =>
      let body? :=
        match first, text with
        | true, text => some text
        | false, ':' :: rest => some rest
        | false, _ => none
      match body? with
      | none => ([], false, text)
      | some body =>
          match (if room = 0 then none else readV4 body) with
          | some ((a, b, c, d), rest) => ([a * 256 + b, c * 256 + d], true, rest)
          | none =>
              match readGroup body with
              | none => ([], false, text)
              | some (group, rest) =>
                  let (groups, mixed, rest) := readGroups room false rest
                  (group :: groups, mixed, rest)

/-- Eight groups that make up a whole text. -/
def readV6? (text : List Char) : Option (List Nat) :=
  match readGroups 8 true text with
  | (head, mixed, rest) =>
      if head.length = 8 then (if rest.isEmpty then some head else none)
      else if mixed then none
      else
        match rest with
        | ':' :: ':' :: rest =>
            match readGroups (7 - head.length) true rest with
            | (tail, _, []) =>
                some (head ++ List.replicate (8 - head.length - tail.length) 0 ++ tail)
            | _ => none
        | _ => none

/-- The address that a whole text denotes. -/
def parse? (text : String) : Option IpAddress :=
  match readV4 text.toList with
  | some ((a, b, c, d), []) => some (.v4 a b c d)
  | some _ => none
  | none => (readV6? text.toList).map .v6

/-! ## Writing -/

/-- A number in decimal digits. -/
def decimal (n : Nat) : String :=
  String.ofList (Nat.toDigits 10 n)

/-- Groups with colons between them. -/
def renderGroups (groups : List Nat) : String :=
  ":".intercalate (groups.map fun group => String.ofList (Nat.toDigits 16 group))

/-- The place and the length of the first of the longest runs of zeros. The first argument is the
place of the sequence. -/
def longestZeros (place : Nat) : List Nat → Nat × Nat
  | [] => (place, 0)
  | group :: rest =>
      let here := ((group :: rest).takeWhile (· == 0)).length
      let (there, length) := longestZeros (place + 1) rest
      if length ≤ here then (place, here) else (there, length)

/-- The text of four numbers. -/
def renderV4 (a b c d : Nat) : String :=
  ".".intercalate ([a, b, c, d].map decimal)

/-- The text of an address. -/
def render : IpAddress → String
  | .v4 a b c d => renderV4 a b c d
  | .v6 [0, 0, 0, 0, 0, 0xFFFF, high, low] =>
      "::ffff:" ++ renderV4 (high / 256) (high % 256) (low / 256) (low % 256)
  | .v6 groups =>
      let (place, length) := longestZeros 0 groups
      if 1 < length then
        renderGroups (groups.take place) ++ "::" ++ renderGroups (groups.drop (place + length))
      else renderGroups groups

end IpAddress

/-- An address with a port. -/
structure SocketAddress where
  host : IpAddress
  port : UInt16
  deriving DecidableEq, Repr

/-- The text of an address with a port. -/
def SocketAddress.render (address : SocketAddress) : String :=
  let port := IpAddress.decimal address.port.toNat
  match address.host with
  | .v4 .. => address.host.render ++ ":" ++ port
  | .v6 _ => "[" ++ address.host.render ++ "]:" ++ port

/-- The address and the port that a text denotes. -/
def SocketAddress.parse? (text : String) : Option SocketAddress := do
  let (host, port) ←
    match text.toList with
    | '[' :: rest =>
        match Text.cut ']' rest with
        | (host, some (':' :: port)) => some ((IpAddress.readV6? host).map .v6, port)
        | _ => none
    | text =>
        match Text.cut ':' text with
        | (host, some port) =>
            match IpAddress.readV4 host with
            | some ((a, b, c, d), []) => some (some (.v4 a b c d), port)
            | _ => none
        | _ => none
  let host ← host
  if Text.isNatural port && Text.natural port ≤ 65535 then
    some ⟨host, UInt16.ofNat (Text.natural port)⟩
  else none

end TransferHistory
