import TransferHistory.Json.Basic
import TransferHistory.Text.Digits

/-!
# JSON as written

Reading has two steps. `Written.read` takes a text apart by its grammar: numbers stay digit
sequences, texts stay characters and code units, and names may repeat. `Written.value?` then gives
the value that was meant, or none where there is no such value: a number out of range, half of a
surrogate pair, or more than 127 levels. A part that nobody asks for need only be written well.
-/

namespace TransferHistory.Json

/-- One element inside the quotes: a character, or a code unit given by its four hexadecimal
digits. -/
inductive TextItem where
  | char (c : Char)
  | unit (code : Nat)
  deriving DecidableEq, Repr

/-- A number as written: the digits before the point, those behind it where there is one, and the
exponent part with its sign where there is one. -/
structure NumberText where
  negative : Bool
  whole : List Nat
  fraction : Option (List Nat)
  exponent : Option (Bool × List Nat)
  deriving DecidableEq, Repr

/-- A value as written. -/
inductive Written where
  | null
  | bool (value : Bool)
  | number (text : NumberText)
  | string (items : List TextItem)
  | array (items : List Written)
  | object (members : List (List TextItem × Written))
  deriving Repr, Inhabited

/-! ## Grammar -/

namespace Written

/-- A blank between the parts of a text. -/
def isSpace (c : Char) : Bool :=
  c == ' ' || c == '\n' || c == '\t' || c == '\r'

/-- The code unit of four hexadecimal digits. -/
def unit? (a b c d : Char) : Option Nat :=
  if [a, b, c, d].all Text.isHex then some (Text.numberIn 16 [a, b, c, d]) else none

/-- The character that a backslash and one other character stand for. -/
def escape? : Char → Option Char
  | '"' => some '"'
  | '\\' => some '\\'
  | '/' => some '/'
  | 'b' => some '\x08'
  | 'f' => some '\x0c'
  | 'n' => some '\n'
  | 'r' => some '\r'
  | 't' => some '\t'
  | _ => none

/-- The rest of a text, behind its opening quote. -/
def readText : List Char → Option (List TextItem × List Char)
  | [] => none
  | '"' :: rest => some ([], rest)
  | '\\' :: 'u' :: a :: b :: c :: d :: rest => do
      let unit ← unit? a b c d
      let (items, rest) ← readText rest
      return (.unit unit :: items, rest)
  | '\\' :: e :: rest => do
      let c ← escape? e
      let (items, rest) ← readText rest
      return (.char c :: items, rest)
  | c :: rest =>
      if c.toNat < 0x20 then none
      else (readText rest).map fun (items, rest) => (.char c :: items, rest)

/-- The digits at the front of a text, and what follows them. -/
def readDigits (text : List Char) : List Nat × List Char :=
  let (digits, rest) := text.span Char.isDigit
  (digits.map Text.digitValue, rest)

/-- The exponent part of a number, where there is one. -/
def readExponent (text : List Char) : Option (Option (Bool × List Nat) × List Char) :=
  match text with
  | c :: rest =>
      if c == 'e' || c == 'E' then
        let (negative, rest) :=
          match rest with
          | '+' :: rest => (false, rest)
          | '-' :: rest => (true, rest)
          | rest => (false, rest)
        match readDigits rest with
        | ([], _) => none
        | (digits, rest) => some (some (negative, digits), rest)
      else some (none, text)
  | [] => some (none, [])

/-- A number. Its whole part is one zero, or does not begin with one. -/
def readNumber (text : List Char) : Option (NumberText × List Char) := do
  let (negative, text) :=
    match text with
    | '-' :: rest => (true, rest)
    | rest => (false, rest)
  let (whole, text) ←
    match readDigits text with
    | ([], _) => none
    | (0 :: _ :: _, _) => none
    | (digits, rest) => some (digits, rest)
  let (fraction, text) ←
    match text with
    | '.' :: rest =>
        match readDigits rest with
        | ([], _) => none
        | (digits, rest) => some (some digits, rest)
    | rest => some (none, rest)
  let (exponent, text) ← readExponent text
  return (⟨negative, whole, fraction, exponent⟩, text)

mutual

/-- A value at the front of a text, and what follows it. The first argument bounds the number of
steps. -/
def readValue : Nat → List Char → Option (Written × List Char)
  | 0, _ => none
  | steps + 1, text =>
      match text.dropWhile isSpace with
      | 'n' :: 'u' :: 'l' :: 'l' :: rest => some (.null, rest)
      | 't' :: 'r' :: 'u' :: 'e' :: rest => some (.bool true, rest)
      | 'f' :: 'a' :: 'l' :: 's' :: 'e' :: rest => some (.bool false, rest)
      | '"' :: rest => (readText rest).map fun (items, rest) => (.string items, rest)
      | '[' :: rest =>
          match rest.dropWhile isSpace with
          | ']' :: rest => some (.array [], rest)
          | rest => (readItems steps rest).map fun (items, rest) => (.array items, rest)
      | '\x7b' :: rest =>
          match rest.dropWhile isSpace with
          | '\x7d' :: rest => some (.object [], rest)
          | rest => (readMembers steps rest).map fun (members, rest) => (.object members, rest)
      | rest => (readNumber rest).map fun (written, rest) => (.number written, rest)

/-- The items of an array up to its end. -/
def readItems : Nat → List Char → Option (List Written × List Char)
  | 0, _ => none
  | steps + 1, text => do
      let (item, text) ← readValue steps text
      match text.dropWhile isSpace with
      | ',' :: rest => (readItems steps rest).map fun (items, rest) => (item :: items, rest)
      | ']' :: rest => some ([item], rest)
      | _ => none

/-- The members of an object up to its end. -/
def readMembers : Nat → List Char → Option (List (List TextItem × Written) × List Char)
  | 0, _ => none
  | steps + 1, text =>
      match text.dropWhile isSpace with
      | '"' :: text => do
          let (name, text) ← readText text
          match text.dropWhile isSpace with
          | ':' :: text =>
              let (value, text) ← readValue steps text
              match text.dropWhile isSpace with
              | ',' :: rest =>
                  (readMembers steps rest).map fun (members, rest) =>
                    ((name, value) :: members, rest)
              | '\x7d' :: rest => some ([(name, value)], rest)
              | _ => none
          | _ => none
      | _ => none

end

/-- A whole text as one value, with blanks around it. Each character is met in at most two steps. -/
def read (text : List Char) : Option Written :=
  match readValue (2 * text.length + 2) text with
  | some (written, rest) => if rest.all isSpace then some written else none
  | none => none

end Written

/-! ## Meaning -/

namespace NumberText

/-- The digits that fit a significand of 64 bits, and the digits left over. -/
def significand (start : Nat) : List Nat → Nat × List Nat
  | [] => (start, [])
  | digit :: rest =>
      if start * 10 + digit < values64 then significand (start * 10 + digit) rest
      else (start, digit :: rest)

/-- The number that a sequence of digits denotes. -/
def natural (digits : List Nat) : Nat :=
  digits.foldl (fun value digit => value * 10 + digit) 0

/-- A power of ten as a binary number. -/
def powerOfTen? (exponent : Nat) : Option Binary64 :=
  Binary64.ofNat? false (tenTo exponent)

/-- A binary number scaled by a power of ten, in steps of at most `10 ^ 308`, each rounded. Four
steps bring every significand to zero. -/
def scale? : Nat → Binary64 → Int → Option Binary64
  | 0, x, _ => some (.zero x.negative)
  | steps + 1, x, exponent => do
      if 0 ≤ exponent && exponent ≤ 308 then
        (← powerOfTen? exponent.toNat).mul? x
      else if -308 ≤ exponent && exponent < 0 then
        x.div? (← powerOfTen? (-exponent).toNat)
      else if x.mantissa = 0 then
        some x
      else if 0 ≤ exponent then
        none
      else
        scale? steps (← x.div? (← powerOfTen? 308)) (exponent + 308)

/-- The binary number meant: the digits that fit 64 bits are taken as a whole number, and the decimal
point and the exponent part become one power of ten. -/
def binary? (text : NumberText) : Option Binary64 := do
  let (start, dropped) := significand 0 text.whole
  let fraction := text.fraction.getD []
  let (start, unread) := significand start fraction
  let point : Int := (dropped.length : Int) - (fraction.length - unread.length : Nat)
  let x ← Binary64.ofNat? text.negative start
  match text.exponent with
  | none => scale? 4 x point
  | some (negative, digits) =>
      let size := natural digits
      if size < twoTo 31 then scale? 4 x (if negative then point - size else point + size)
      else if start ≠ 0 ∧ negative = false then none
      else some (.zero text.negative)

/-- The number meant: an integer where only digits are written and 64 bits hold it, else a binary
number. The negative zero is binary. -/
def number? (text : NumberText) : Option Number :=
  let size := natural text.whole
  if text.fraction.isNone && text.exponent.isNone && !text.negative && size < values64 then
    some (.int size)
  else if text.fraction.isNone && text.exponent.isNone && text.negative && 0 < size
      && size ≤ values63 then
    some (.int (-size))
  else text.binary?.map .real

end NumberText

/-- The characters meant by the elements of a text: two code units may form a surrogate pair. -/
def characters? : List TextItem → Option (List Char)
  | [] => some []
  | .char c :: rest => (characters? rest).map (c :: ·)
  | .unit high :: .unit low :: rest =>
      if 0xD800 ≤ high && high < 0xDC00 then
        if 0xDC00 ≤ low && low < 0xE000 then
          (characters? rest).map
            (Char.ofNat (0x10000 + (high - 0xD800) * 0x400 + (low - 0xDC00)) :: ·)
        else none
      else if 0xDC00 ≤ high && high < 0xE000 then none
      else (characters? (.unit low :: rest)).map (Char.ofNat high :: ·)
  | .unit code :: rest =>
      if 0xD800 ≤ code && code < 0xE000 then none
      else (characters? rest).map (Char.ofNat code :: ·)

/-- The text meant. -/
def text? (items : List TextItem) : Option String :=
  (characters? items).map String.ofList

namespace Written

mutual

/-- The value meant, with at most so many levels of arrays and objects. -/
def valueWithin? : Nat → Written → Option Json
  | _, .null => some .null
  | _, .bool value => some (.bool value)
  | _, .number text => text.number?.map .number
  | _, .string items => (text? items).map .string
  | levels, .array items =>
      if levels = 0 then none else (itemsWithin? (levels - 1) items).map .array
  | levels, .object members =>
      if levels = 0 then none
      else (membersWithin? (levels - 1) members).map fun pairs => .object (Ordered.ofPairs pairs)

/-- The items meant. -/
def itemsWithin? : Nat → List Written → Option (List Json)
  | _, [] => some []
  | levels, item :: rest => do
      return (← valueWithin? levels item) :: (← itemsWithin? levels rest)

/-- The members meant, as written. -/
def membersWithin? : Nat → List (List TextItem × Written) → Option (List (String × Json))
  | _, [] => some []
  | levels, (name, value) :: rest => do
      return (← text? name, ← valueWithin? levels value) :: (← membersWithin? levels rest)

end

/-- The value meant. -/
def value? (written : Written) : Option Json :=
  valueWithin? 127 written

end Written

/-- The value of a text. -/
def parse? (text : String) : Option Json :=
  (Written.read text.toList).bind Written.value?

end TransferHistory.Json
