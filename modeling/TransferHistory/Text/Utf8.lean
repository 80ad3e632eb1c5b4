/-!
# UTF-8

Texts travel as bytes. Writing is total; reading is total too, because a byte sequence that is no
character is read as one replacement character for each longest run of bytes that begins a character
without finishing it.

- `front` tells what stands at the front of a byte sequence: a character or an ill-formed run.
- `decode` reads everything, `decodeStrict` refuses the first ill-formed sequence.
-/

namespace TransferHistory.Text.Utf8

/-- The bytes of a text. -/
def encode (text : List Char) : List UInt8 :=
  text.flatMap String.utf8EncodeChar

/-- The character shown for an ill-formed byte sequence. -/
def replacement : Char := '\uFFFD'

/-- What stands at the front of a byte sequence: a character, or a run that is none. -/
inductive Front where
  | char (c : Char)
  | illFormed
  deriving Repr, DecidableEq

/-- A byte that continues a character. -/
def isTail (b : UInt8) : Bool :=
  0x80 ≤ b && b ≤ 0xBF

/-- The second bytes that may follow a first byte of a three-byte character. -/
def isSecondOfThree (first second : UInt8) : Bool :=
  if first = 0xE0 then 0xA0 ≤ second && second ≤ 0xBF
  else if first = 0xED then 0x80 ≤ second && second ≤ 0x9F
  else isTail second

/-- The second bytes that may follow a first byte of a four-byte character. -/
def isSecondOfFour (first second : UInt8) : Bool :=
  if first = 0xF0 then 0x90 ≤ second && second ≤ 0xBF
  else if first = 0xF4 then 0x80 ≤ second && second ≤ 0x8F
  else isTail second

/-- The six low bits of a continuing byte. -/
def tailBits (b : UInt8) : Nat :=
  b.toNat - 0x80

/-- What stands at the front of `first :: rest`, and the number of bytes of `rest` that belong to
it. -/
def front (first : UInt8) (rest : List UInt8) : Front × Nat :=
  if first < 0x80 then (.char (Char.ofNat first.toNat), 0)
  else if 0xC2 ≤ first && first ≤ 0xDF then
    match rest with
    | second :: _ =>
        if isTail second then
          (.char (Char.ofNat ((first.toNat - 0xC0) * 64 + tailBits second)), 1)
        else (.illFormed, 0)
    | [] => (.illFormed, 0)
  else if 0xE0 ≤ first && first ≤ 0xEF then
    match rest with
    | second :: third :: _ =>
        if isSecondOfThree first second then
          if isTail third then
            (.char (Char.ofNat
              ((first.toNat - 0xE0) * 4096 + tailBits second * 64 + tailBits third)), 2)
          else (.illFormed, 1)
        else (.illFormed, 0)
    | [second] => if isSecondOfThree first second then (.illFormed, 1) else (.illFormed, 0)
    | [] => (.illFormed, 0)
  else if 0xF0 ≤ first && first ≤ 0xF4 then
    match rest with
    | second :: third :: fourth :: _ =>
        if isSecondOfFour first second then
          if isTail third then
            if isTail fourth then
              (.char (Char.ofNat
                ((first.toNat - 0xF0) * 262144 + tailBits second * 4096 + tailBits third * 64 +
                  tailBits fourth)), 3)
            else (.illFormed, 2)
          else (.illFormed, 1)
        else (.illFormed, 0)
    | [second, third] =>
        if isSecondOfFour first second then
          if isTail third then (.illFormed, 2) else (.illFormed, 1)
        else (.illFormed, 0)
    | [second] => if isSecondOfFour first second then (.illFormed, 1) else (.illFormed, 0)
    | [] => (.illFormed, 0)
  else (.illFormed, 0)

/-- The text of a byte sequence, with replacement characters. -/
def decode : List UInt8 → List Char
  | [] => []
  | first :: rest =>
      match front first rest with
      | (.char c, more) => c :: decode (rest.drop more)
      | (.illFormed, more) => replacement :: decode (rest.drop more)
termination_by bytes => bytes.length
decreasing_by all_goals (simp only [List.length_drop, List.length_cons]; omega)

/-- The text of a byte sequence that is well formed throughout. -/
def decodeStrict : List UInt8 → Option (List Char)
  | [] => some []
  | first :: rest =>
      match front first rest with
      | (.char c, more) => (decodeStrict (rest.drop more)).map (c :: ·)
      | (.illFormed, _) => none
termination_by bytes => bytes.length
decreasing_by simp only [List.length_drop, List.length_cons]; omega

end TransferHistory.Text.Utf8
