import TransferHistory.Config.Setting
import TransferHistory.Toml.DateTime

/-!
# Single values in settings files

The four kinds of text in quotes, and the words without quotes: truth values, integers in four bases,
numbers, dates and times. Every reader takes the front of a text and gives what follows.
-/

namespace TransferHistory.Toml

/-! ## Characters -/

/-- A character that stands nowhere. -/
def isControl (c : Char) : Bool :=
  (c.toNat < 0x20 && c != '\t') || c.toNat == 0x7F

/-- What follows the line break at the front of a text. -/
def afterBreak? : List Char → Option (List Char)
  | '\n' :: rest => some rest
  | '\r' :: '\n' :: rest => some rest
  | _ => none

/-- A text without the line break at its front, where there is one. -/
def dropBreak (text : List Char) : List Char :=
  (afterBreak? text).getD text

/-! ## Texts in quotes -/

/-- The character with a code point given in hexadecimal. -/
def charOfHex? (digits : List Char) : Option Char :=
  let code := Text.numberIn 16 digits
  if digits.all Text.isHex && (code < 0xD800 || (0xE000 ≤ code && code ≤ 0x10FFFF)) then
    some (Char.ofNat code)
  else none

/-- The character that a backslash and one other character stand for. -/
def escape? : Char → Option Char
  | 'b' => some '\x08'
  | 'e' => some '\x1b'
  | 't' => some '\t'
  | 'n' => some '\n'
  | 'f' => some '\x0c'
  | 'r' => some '\r'
  | '"' => some '"'
  | '\\' => some '\\'
  | _ => none

/-- A character in front of what is read of the rest. -/
def consTo (c : Char) (read : Option (List Char × List Char)) : Option (List Char × List Char) :=
  read.map fun (text, rest) => (c :: text, rest)

/-- The rest of a text in double quotes, on one line. -/
def readQuoted : List Char → Option (List Char × List Char)
  | [] => none
  | '"' :: rest => some ([], rest)
  | '\\' :: 'x' :: a :: b :: rest =>
      (charOfHex? [a, b]).bind fun char => consTo char (readQuoted rest)
  | '\\' :: 'u' :: a :: b :: c :: d :: rest =>
      (charOfHex? [a, b, c, d]).bind fun char => consTo char (readQuoted rest)
  | '\\' :: 'U' :: a :: b :: c :: d :: e :: f :: g :: h :: rest =>
      (charOfHex? [a, b, c, d, e, f, g, h]).bind fun char => consTo char (readQuoted rest)
  | '\\' :: e :: rest => (escape? e).bind fun char => consTo char (readQuoted rest)
  | c :: rest => if isControl c then none else consTo c (readQuoted rest)

/-- The rest of a text in single quotes, on one line. Nothing in it is an escape. -/
def readLiteral : List Char → Option (List Char × List Char)
  | [] => none
  | '\'' :: rest => some ([], rest)
  | c :: rest => if isControl c then none else consTo c (readLiteral rest)

/-- A backslash here stands at the end of its line. -/
def endsLine (text : List Char) : Bool :=
  (afterBreak? (text.dropWhile Text.isGap)).isSome

/-- The rest of a text in three double quotes. Up to two quotes may stand in front of the closing
three. After a backslash at the end of a line all blanks and line breaks are skipped, which the first
argument tells. -/
def readQuotedLines : Bool → List Char → Option (List Char × List Char)
  | _, [] => none
  | true, ' ' :: rest => readQuotedLines true rest
  | true, '\t' :: rest => readQuotedLines true rest
  | true, '\n' :: rest => readQuotedLines true rest
  | true, '\r' :: '\n' :: rest => readQuotedLines true rest
  | _, '"' :: '"' :: '"' :: '"' :: '"' :: rest => some (['"', '"'], rest)
  | _, '"' :: '"' :: '"' :: '"' :: rest => some (['"'], rest)
  | _, '"' :: '"' :: '"' :: rest => some ([], rest)
  | _, '\\' :: 'x' :: a :: b :: rest =>
      (charOfHex? [a, b]).bind fun char => consTo char (readQuotedLines false rest)
  | _, '\\' :: 'u' :: a :: b :: c :: d :: rest =>
      (charOfHex? [a, b, c, d]).bind fun char => consTo char (readQuotedLines false rest)
  | _, '\\' :: 'U' :: a :: b :: c :: d :: e :: f :: g :: h :: rest =>
      (charOfHex? [a, b, c, d, e, f, g, h]).bind fun char =>
        consTo char (readQuotedLines false rest)
  | _, '\\' :: e :: rest =>
      if endsLine (e :: rest) then readQuotedLines true rest
      else (escape? e).bind fun char => consTo char (readQuotedLines false rest)
  | _, '\r' :: '\n' :: rest => consTo '\r' (consTo '\n' (readQuotedLines false rest))
  | _, c :: rest =>
      if isControl c && c != '\n' then none else consTo c (readQuotedLines false rest)

/-- The rest of a text in three single quotes. -/
def readLiteralLines : List Char → Option (List Char × List Char)
  | [] => none
  | '\'' :: '\'' :: '\'' :: '\'' :: '\'' :: rest => some (['\'', '\''], rest)
  | '\'' :: '\'' :: '\'' :: '\'' :: rest => some (['\''], rest)
  | '\'' :: '\'' :: '\'' :: rest => some ([], rest)
  | '\r' :: '\n' :: rest => consTo '\r' (consTo '\n' (readLiteralLines rest))
  | c :: rest => if isControl c && c != '\n' then none else consTo c (readLiteralLines rest)

/-- A text in quotes. -/
def readText : List Char → Option (List Char × List Char)
  | '"' :: '"' :: '"' :: rest => readQuotedLines false (dropBreak rest)
  | '"' :: rest => readQuoted rest
  | '\'' :: '\'' :: '\'' :: rest => readLiteralLines (dropBreak rest)
  | '\'' :: rest => readLiteral rest
  | _ => none

/-! ## Words -/

/-- A character of a word. -/
def isWordChar (c : Char) : Bool :=
  c.isAlphanum || "+-_.:".toList.contains c

/-- Digits without the low lines between them. -/
def ungroup? (isDigit : Char → Bool) : List Char → Option (List Char)
  | [] => none
  | [d] => if isDigit d then some [d] else none
  | d :: '_' :: rest => if isDigit d then (ungroup? isDigit rest).map (d :: ·) else none
  | d :: rest => if isDigit d then (ungroup? isDigit rest).map (d :: ·) else none

/-- Decimal digits that do not begin with a needless zero. -/
def whole? (text : List Char) : Option (List Char) :=
  match ungroup? Char.isDigit text with
  | some ('0' :: _ :: _) => none
  | digits => digits

/-- An integer of another base than ten. -/
def basedInteger? (base : Nat) (text : List Char) : Option Int :=
  (ungroup? (fun c => Text.isHex c && Text.digitValue c < base) text).bind fun digits =>
    Text.signed64? false (Text.numberIn base digits)

/-- The integer that a word denotes. -/
def integer? : List Char → Option Int
  | '0' :: 'x' :: text => basedInteger? 16 text
  | '0' :: 'o' :: text => basedInteger? 8 text
  | '0' :: 'b' :: text => basedInteger? 2 text
  | text =>
      let (negative, body) := Text.withoutSign text
      (whole? body).bind fun digits => Text.signed64? negative (Text.natural digits)

/-- The exponent part of a number without low lines; the part may be missing. -/
def exponentPart? : List Char → Option (List Char)
  | [] => some []
  | mark :: text =>
      let (negative, body) := Text.withoutSign text
      if mark = 'e' ∨ mark = 'E' then
        (ungroup? Char.isDigit body).map fun digits =>
          'e' :: (if negative then '-' else '+') :: digits
      else none

/-- A character of a group of digits. -/
def isGrouped (c : Char) : Bool :=
  c.isDigit || c == '_'

/-- A number with a fraction or an exponent part, without low lines. -/
def decimalPart? (text : List Char) : Option (List Char) := do
  let whole ← whole? (text.takeWhile isGrouped)
  match text.dropWhile isGrouped with
  | [] => none
  | '.' :: rest =>
      let fraction ← ungroup? Char.isDigit (rest.takeWhile isGrouped)
      let exponent ← exponentPart? (rest.dropWhile isGrouped)
      return whole ++ '.' :: fraction ++ exponent
  | rest => return whole ++ (← exponentPart? rest)

/-- The number that a word denotes. What is too great for the format is none. -/
def number? (text : List Char) : Option Extended :=
  let (negative, body) := Text.withoutSign text
  if body = "inf".toList then some (.infinite negative)
  else if body = "nan".toList then some .notANumber
  else
    match (decimalPart? body).bind Extended.decimal? with
    | some (digits, exponent) => (Binary64.ofDecimal? negative digits exponent).map .finite
    | none => none

/-- The value of a word. -/
def word? (text : List Char) : Option Setting :=
  if text = "true".toList then some (.bool true)
  else if text = "false".toList then some (.bool false)
  else
    match integer? text, number? text with
    | some value, _ => some (.int value)
    | none, some value => some (.real value)
    | none, none => (DateTime.normal? text).map fun text => .text (String.ofList text)

/-- The word at the front of a text. A date and a time may be two words. -/
def readWord (text : List Char) : List Char × List Char :=
  let word := text.takeWhile isWordChar
  let rest := text.dropWhile isWordChar
  match DateTime.date? word, rest with
  | some (_, []), ' ' :: next :: rest =>
      if next.isDigit then
        (word ++ ' ' :: (next :: rest).takeWhile isWordChar, (next :: rest).dropWhile isWordChar)
      else (word, ' ' :: next :: rest)
  | _, rest => (word, rest)

/-- A single value. -/
def readScalar (text : List Char) : Option (Setting × List Char) :=
  match text with
  | '"' :: _ | '\'' :: _ =>
      (readText text).map fun (value, rest) => (.text (String.ofList value), rest)
  | _ =>
      let (word, rest) := readWord text
      (word? word).map fun value => (value, rest)

end TransferHistory.Toml
