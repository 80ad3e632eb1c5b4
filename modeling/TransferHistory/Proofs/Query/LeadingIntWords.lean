import Mathlib.Data.Nat.Digits.Defs
import TransferHistory.Proofs.Query.LeadingInt
import TransferHistory.Proofs.Result
import TransferHistory.Proofs.Text.Utf8
import TransferHistory.Query.Params

/-!
# Leading integers in bytes and words

The integer at the front of a text, read from the bytes of the text in words of 64 bits. Here a step
can go wrong: a text may be cut inside a character, and a number may not fit (`Fault`). No step does,
and what is read is what is read from the characters in unbounded numbers.

Results:
1. `signAndBytes_encode`, `firstBytes_encode`: the parts of a text are cut between characters.
2. `exists_foldlM_extendWord`, `exists_negate`: the magnitude as a word, which can be negated.
3. `exists_ofBytes?`: the whole reading of a text.
4. `Params.int?_exact`: what is read of a parameter.
-/

namespace TransferHistory

open Text (Utf8.encode Utf8.isBoundary)

namespace LeadingInt

/-- What could stop a reading of bytes. -/
inductive Fault where
  /-- A text is cut inside a character. -/
  | insideCharacter
  /-- A number does not fit. -/
  | overflow
  deriving DecidableEq, Repr

/-- The bytes of a text from a place on. -/
def bytesFrom (place : Nat) (bytes : List UInt8) : Except Fault (List UInt8) :=
  if Utf8.isBoundary bytes place then .ok (bytes.drop place) else .error .insideCharacter

/-- The bytes of a text up to a place. -/
def firstBytes (place : Nat) (bytes : List UInt8) : Except Fault (List UInt8) :=
  if Utf8.isBoundary bytes place then .ok (bytes.take place) else .error .insideCharacter

/-- Whether a text begins with a minus sign, and its bytes behind the sign that it begins with. -/
def signAndBytes (bytes : List UInt8) : Except Fault (Bool × List UInt8) :=
  if bytes.head? = some 0x2D then (bytesFrom 1 bytes).map (true, ·)
  else if bytes.head? = some 0x2B then (bytesFrom 1 bytes).map (false, ·)
  else .ok (false, bytes)

/-- A byte that is a decimal digit. -/
def isDigitByte (byte : UInt8) : Bool :=
  0x30 ≤ byte && byte ≤ 0x39

/-- The difference of two bytes. -/
def differenceOf (byte less : UInt8) : Except Fault UInt8 :=
  if less ≤ byte then .ok (byte - less) else .error .overflow

/-- One more digit. A product or a sum that no word holds gives way to the closest word. -/
def extendWord (word : Int64) (byte : UInt8) : Except Fault Int64 :=
  (differenceOf byte 0x30).map fun digit =>
    .ofIntClamp ((Int64.ofIntClamp (word.toInt * 10)).toInt + digit.toNat)

/-- A word with the other sign. The least word has none. -/
def negate (word : Int64) : Except Fault Int64 :=
  if word = Int64.minValue then .error .overflow else .ok (-word)

/-- A magnitude with its sign. -/
def withSign (negative : Bool) (magnitude : Int64) : Except Fault Int64 :=
  if negative then negate magnitude else .ok magnitude

/-- The word that is read from the bytes of a text without leading blanks, if digits stand there. -/
def ofBytes? (bytes : List UInt8) : Except Fault (Option Int64) := do
  let (negative, rest) ← signAndBytes bytes
  let count := (rest.takeWhile isDigitByte).length
  if count = 0 then
    return none
  else
    let magnitude ← (← firstBytes count rest).foldlM extendWord 0
    return some (← withSign negative magnitude)

/-! ## Parts of a text -/

theorem bytesFrom_encode (front rest : List Char) :
    bytesFrom (Utf8.encode front).length (Utf8.encode (front ++ rest)) =
      .ok (Utf8.encode rest) := by
  unfold bytesFrom
  rw [if_pos (Text.Utf8.isBoundary_encode front rest), Text.Utf8.encode_append, List.drop_left]

theorem firstBytes_encode (front rest : List Char) :
    firstBytes (Utf8.encode front).length (Utf8.encode (front ++ rest)) =
      .ok (Utf8.encode front) := by
  unfold firstBytes
  rw [if_pos (Text.Utf8.isBoundary_encode front rest), Text.Utf8.encode_append, List.take_left]

theorem head?_encode_minus (text : List Char) :
    (Utf8.encode text).head? = some 0x2D ↔ text.head? = some '-' :=
  @Text.Utf8.head?_encode_eq_some_iff '-' (by decide) text

theorem head?_encode_plus (text : List Char) :
    (Utf8.encode text).head? = some 0x2B ↔ text.head? = some '+' :=
  @Text.Utf8.head?_encode_eq_some_iff '+' (by decide) text

theorem head?_ne_some {c : Char} {text : List Char} (never : ∀ rest, text ≠ c :: rest) :
    text.head? ≠ some c := by
  rw [ne_eq, List.head?_eq_some_iff]
  rintro ⟨rest, same⟩
  exact never rest same

/-- The sign is cut off behind its only byte. -/
theorem signAndBytes_encode (text : List Char) :
    signAndBytes (Utf8.encode text) =
      .ok ((Text.withoutSign text).1, Utf8.encode (Text.withoutSign text).2) := by
  unfold signAndBytes
  simp only [head?_encode_minus, head?_encode_plus]
  -- A sign is one byte, so the place behind it is the one behind its character.
  fun_cases Text.withoutSign text with
  | case1 rest =>
      have behind : bytesFrom 1 (Utf8.encode ('-' :: rest)) = .ok (Utf8.encode rest) :=
        bytesFrom_encode ['-'] rest
      rw [List.head?_cons, if_pos rfl, behind]
      rfl
  | case2 rest =>
      have behind : bytesFrom 1 (Utf8.encode ('+' :: rest)) = .ok (Utf8.encode rest) :=
        bytesFrom_encode ['+'] rest
      rw [List.head?_cons, if_neg (by decide), if_pos rfl, behind]
      rfl
  | case3 _ noMinus noPlus =>
      rw [if_neg (head?_ne_some noMinus), if_neg (head?_ne_some noPlus)]

/-! ## Digits -/

theorem isDigitByte_eq {byte : UInt8} {c : Char} (same : byte.toNat = c.toNat) :
    isDigitByte byte = c.isDigit := by
  have value : c.val.toNat = byte.toNat := same.symm
  simp only [isDigitByte, Char.isDigit, ge_iff_le, UInt8.le_iff_toNat_le, UInt32.le_iff_toNat_le,
    value]
  rfl

theorem isDigitByte_of_le {byte : UInt8} (high : 128 ≤ byte.toNat) : isDigitByte byte = false := by
  have above : ¬ byte ≤ 0x39 := by
    rw [UInt8.le_iff_toNat_le]
    exact Nat.not_le.mpr (Nat.lt_of_lt_of_le (by decide) high)
  simp [isDigitByte, above]

theorem encode_digit {c : Char} (digit : c.isDigit = true) :
    ∃ byte, String.utf8EncodeChar c = [byte] ∧ byte.toNat = c.toNat := by
  obtain ⟨-, upper⟩ := toNat_of_isDigit digit
  refine ⟨_, Text.Utf8.utf8EncodeChar_of_lt (Nat.lt_of_le_of_lt upper (by decide)), ?_⟩
  rw [UInt8.toNat_ofNat']
  omega

/-- Digits at the front of a text are counted in bytes as in characters. -/
theorem takeWhile_isDigitByte_encode (text : List Char) :
    (Utf8.encode text).takeWhile isDigitByte = Utf8.encode (text.takeWhile Char.isDigit) := by
  apply Text.Utf8.takeWhile_encode
  · intro c digit
    obtain ⟨byte, written, same⟩ := encode_digit digit
    exact ⟨byte, written, (isDigitByte_eq same).trans digit⟩
  · intro c noDigit
    obtain ⟨first, rest, written, -, whole⟩ := Text.Utf8.exists_first_byte c
    refine ⟨first, rest, written, ?_⟩
    rcases Nat.lt_or_ge first.toNat 128 with low | high
    · exact (isDigitByte_eq (whole low)).trans noDigit
    · exact isDigitByte_of_le high

/-! ## Words -/

theorem toInt_maxValue : Int64.maxValue.toInt = greatest := by
  decide

theorem toInt_minValue : Int64.minValue.toInt = -(greatest : Int) - 1 := by
  decide

/-- The word closest to a natural number. -/
theorem toInt_ofIntClamp_natCast (number : Nat) :
    (Int64.ofIntClamp number).toInt = (min greatest number : Nat) := by
  have upper := toInt_maxValue
  have lower : Int64.minValue.toInt ≤ number := by
    rw [toInt_minValue]
    omega
  unfold Int64.ofIntClamp
  rw [dif_pos lower]
  split
  · rw [Int64.toInt_ofIntLE]
    omega
  · rw [upper]
    omega

/-- A digit extends a word as it extends the number that the word holds. -/
theorem exists_extendWord {word : Int64} {number : Nat} (holds : word.toInt = number)
    {byte : UInt8} {c : Char} (same : byte.toNat = c.toNat) (digit : c.isDigit = true) :
    ∃ next, extendWord word byte = .ok next ∧ next.toInt = extend number c := by
  have least : (0x30 : UInt8).toNat ≤ byte.toNat := by
    rw [same]
    exact (toNat_of_isDigit digit).1
  have above : (0x30 : UInt8) ≤ byte := UInt8.le_iff_toNat_le.mpr least
  have value : (byte - 0x30).toNat = Text.digitValue c := by
    rw [UInt8.toNat_sub_of_le _ _ above, same, Text.digitValue, if_pos digit]
    rfl
  have product : word.toInt * 10 = (number * 10 : Nat) := by
    rw [holds]
    exact (Int.natCast_mul number 10).symm
  have step : extendWord word byte =
      .ok (.ofIntClamp ((Int64.ofIntClamp (word.toInt * 10)).toInt + (byte - 0x30).toNat)) := by
    rw [extendWord, differenceOf, if_pos above]
    rfl
  refine ⟨_, step, ?_⟩
  -- The product and the sum are cut one after the other, in the words as in the numbers.
  rw [product, toInt_ofIntClamp_natCast, value, ← Int.natCast_add, toInt_ofIntClamp_natCast]
  rfl

theorem exists_foldlM_extendWord {digits : List Char} (decimal : ∀ c ∈ digits, c.isDigit = true)
    {word : Int64} {number : Nat} (holds : word.toInt = number) :
    ∃ last, (Utf8.encode digits).foldlM extendWord word = .ok last ∧
      last.toInt = (digits.foldl extend number : Nat) := by
  -- By induction on the digits, for every word that those in front of them have led to.
  induction digits generalizing word number with
  | nil => exact ⟨word, rfl, holds⟩
  | cons c rest ih =>
      obtain ⟨digit, others⟩ := List.forall_mem_cons.mp decimal
      obtain ⟨byte, written, same⟩ := encode_digit digit
      obtain ⟨next, step, held⟩ := exists_extendWord holds same digit
      obtain ⟨last, run, result⟩ := ih others held
      refine ⟨last, ?_, result⟩
      rw [Text.Utf8.encode_cons, written, List.singleton_append, List.foldlM_cons, step]
      exact run

/-- A word that holds a natural number can be negated. -/
theorem exists_negate {word : Int64} {number : Nat} (holds : word.toInt = number) :
    ∃ other, negate word = .ok other ∧ other.toInt = -number := by
  have positive : word ≠ Int64.minValue := by
    rintro rfl
    rw [toInt_minValue] at holds
    omega
  refine ⟨-word, if_neg positive, ?_⟩
  have upper := Int64.toInt_lt word
  rw [Int64.toInt_neg, holds]
  apply Int.bmod_eq_of_le
  · omega
  · omega

/-! ## The whole reading -/

/-- Decimal digits denote the number that they write in base ten, the last digit the lowest. -/
theorem natural_eq_ofDigits (digits : List Char) :
    Text.natural digits = Nat.ofDigits 10 (digits.map Text.digitValue).reverse := by
  rw [Nat.ofDigits_eq_foldr, List.foldr_reverse, List.foldl_map]
  simp only [Text.natural, Text.numberIn, Nat.cast_id, Nat.add_comm, Nat.mul_comm]

/-- Digits are read as a word that holds their magnitude, with the sign in front of them. -/
theorem exists_signed {digits : List Char} (decimal : ∀ c ∈ digits, c.isDigit = true)
    (negative : Bool) :
    ∃ word, (Utf8.encode digits).foldlM extendWord 0 >>= withSign negative = .ok word ∧
      word.toInt = signed negative (magnitude digits) := by
  have zero : (0 : Int64).toInt = (0 : Nat) := by decide
  obtain ⟨last, run, held⟩ := exists_foldlM_extendWord decimal zero
  rw [run]
  cases negative with
  | false => exact ⟨last, rfl, held⟩
  | true => exact exists_negate held

theorem encode_length_pos {digits : List Char} (present : digits ≠ []) :
    (Utf8.encode digits).length ≠ 0 := by
  cases digits with
  | nil => exact absurd rfl present
  | cons c rest =>
      obtain ⟨first, others, written, -⟩ := Text.Utf8.exists_first_byte c
      simp [Text.Utf8.encode_cons, written]

/-- Digits are cut off between characters and read as a word. -/
theorem exists_ofBytes?_of_digits {digits rest : List Char} {negative : Bool}
    (decimal : ∀ c ∈ digits, c.isDigit = true) (present : digits ≠ [])
    (ended : Ended Char.isDigit rest) {bytes : List UInt8}
    (parts : signAndBytes bytes = .ok (negative, Utf8.encode (digits ++ rest))) :
    ∃ word, ofBytes? bytes = .ok (some word) ∧
      word.toInt = signed negative (magnitude digits) := by
  obtain ⟨word, read, holds⟩ := exists_signed decimal negative
  refine ⟨word, ?_, holds⟩
  obtain ⟨last, run, result⟩ := bind_eq_ok_iff.mp read
  have counted : (Utf8.encode (digits ++ rest)).takeWhile isDigitByte = Utf8.encode digits := by
    rw [takeWhile_isDigitByte_encode, takeWhile_append decimal ended]
  unfold ofBytes?
  simp only [parts, bind, Except.bind, counted, if_neg (encode_length_pos present),
    firstBytes_encode, run, result]
  rfl

/-- Reading the bytes of a text goes well, and what is read is the integer that the text begins
with. -/
theorem exists_ofBytes? (text : List Char) :
    ∃ read, ofBytes? (Utf8.encode (Text.trimStart text)) = .ok read ∧
      read.map Int64.toInt = ofText? text := by
  have parts := signAndBytes_encode (Text.trimStart text)
  unfold ofText?
  generalize Text.withoutSign (Text.trimStart text) = split at parts
  obtain ⟨negative, rest⟩ := split
  have whole : rest.takeWhile Char.isDigit ++ rest.dropWhile Char.isDigit = rest :=
    List.takeWhile_append_dropWhile
  have decimal : ∀ c ∈ rest.takeWhile Char.isDigit, c.isDigit = true :=
    List.all_eq_true.mp List.all_takeWhile
  have ended := ended_dropWhile Char.isDigit rest
  cases digits : rest.takeWhile Char.isDigit with
  | nil =>
      refine ⟨none, ?_, by simp [digits]⟩
      unfold ofBytes?
      simp only [parts, bind, Except.bind, takeWhile_isDigitByte_encode, digits]
      rfl
  | cons digit others =>
      rw [digits] at whole decimal
      rw [← whole] at parts
      obtain ⟨word, read, holds⟩ := exists_ofBytes?_of_digits decimal (by simp) ended parts
      refine ⟨some word, read, ?_⟩
      simp only [Option.map_some, holds, digits]
      cases negative <;> rfl

end LeadingInt

/-! ## Parameters -/

namespace Params

open LeadingInt (Fault Layout signed greatest)

/-- The word that is read from the bytes of a parameter. -/
def word? (name : String) (params : Params) : Except Fault (Option Int64) :=
  match params.get? name with
  | none => .ok none
  | some text => LeadingInt.ofBytes? (Utf8.encode (Text.trimStart text.toList))

variable {params : Params} {name text : String} {negative : Bool} {digits : List Char}

/-- An empty parameter is read as a missing one without looking at it: no integer stands there. -/
theorem int?_eq_bind (params : Params) (name : String) :
    params.int? name = (params.entries.get? name).bind fun text => LeadingInt.ofText? text.toList := by
  unfold int? get?
  cases params.entries.get? name with
  | none => rfl
  | some text =>
      by_cases empty : text = ""
      · subst empty
        rfl
      · rw [Option.filter_some, if_pos (by simpa using empty)]

theorem int?_of_layout (present : params.entries.get? name = some text)
    (layout : Layout text.toList negative digits) :
    params.int? name =
      if digits = [] then none
      else some (signed negative (min greatest (Nat.ofDigits 10
        (digits.map Text.digitValue).reverse))) := by
  rw [int?_eq_bind, present, Option.bind_some, LeadingInt.ofText?_of_layout layout,
    LeadingInt.natural_eq_ofDigits]

theorem int?_eq_none_iff (params : Params) (name : String) :
    params.int? name = none ↔
      params.entries.get? name = none ∨ params.entries.get? name = some "" ∨
        ∃ text negative, params.entries.get? name = some text ∧
          Layout text.toList negative [] := by
  constructor
  · intro nothing
    cases present : params.entries.get? name with
    | none => exact Or.inl rfl
    | some text =>
        obtain ⟨negative, digits, layout⟩ := LeadingInt.exists_layout text.toList
        rw [int?_of_layout present layout, ite_eq_left_iff] at nothing
        have none : digits = [] := by
          by_contra digit
          cases nothing digit
        subst none
        exact Or.inr (Or.inr ⟨text, negative, rfl, layout⟩)
  · rintro (missing | empty | ⟨text, negative, present, layout⟩)
    · rw [int?_eq_bind, missing]
      rfl
    · rw [int?_eq_bind, empty]
      rfl
    · rw [int?_of_layout present layout, if_pos rfl]

/-- No integer that is read is the least word, the one without a negation. -/
theorem minValue_lt_of_int? {number : Int} (read : params.int? name = some number) :
    Int64.minValue.toInt < number ∧ number ≤ Int64.maxValue.toInt := by
  rw [int?_eq_bind, Option.bind_eq_some_iff] at read
  obtain ⟨text, -, read⟩ := read
  obtain ⟨whole, -, rfl⟩ := LeadingInt.ofText?_eq_some_iff.mp read
  rw [LeadingInt.toInt_minValue, LeadingInt.toInt_maxValue, LeadingInt.clamp]
  omega

/-- The bytes and words of a parameter are read without a fault, and as its characters are. -/
theorem exists_word? (params : Params) (name : String) :
    ∃ read, params.word? name = .ok read ∧ read.map Int64.toInt = params.int? name := by
  unfold word? int?
  cases params.get? name with
  | none => exact ⟨none, rfl, rfl⟩
  | some text => exact LeadingInt.exists_ofBytes? text.toList

/-- How a parameter is read. Nothing is read of one that is missing or empty or has no digits behind
its blanks and its sign. Every other one is laid out in one way, and read as the number that its
digits denote, or as the greatest magnitude if that is less, with its sign. What is read fits 63 bits
and a sign, the bytes and words are read without a fault, and what stands behind the digits does not
matter. -/
theorem int?_exact (params : Params) (name : String) :
    (params.int? name = none ↔
      params.entries.get? name = none ∨ params.entries.get? name = some "" ∨
        ∃ text negative, params.entries.get? name = some text ∧
          Layout text.toList negative []) ∧
    (∀ text, params.entries.get? name = some text → ∃ negative digits,
      Layout text.toList negative digits ∧
      (∀ other others, Layout text.toList other others → other = negative ∧ others = digits) ∧
      (digits ≠ [] → params.int? name = some (signed negative (min greatest (Nat.ofDigits 10
        (digits.map Text.digitValue).reverse))))) ∧
    (∀ number, params.int? name = some number →
      Int64.minValue.toInt < number ∧ number ≤ Int64.maxValue.toInt) ∧
    (∃ read, params.word? name = .ok read ∧ read.map Int64.toInt = params.int? name) ∧
    ∀ (changed : Params) text other negative digits, params.entries.get? name = some text →
      changed.entries.get? name = some other → Layout text.toList negative digits →
      Layout other.toList negative digits → changed.int? name = params.int? name := by
  refine ⟨int?_eq_none_iff params name, ?_, fun _ => minValue_lt_of_int?,
    exists_word? params name, ?_⟩
  · intro text present
    obtain ⟨negative, digits, layout⟩ := LeadingInt.exists_layout text.toList
    refine ⟨negative, digits, layout, fun _ _ again => again.unique layout, fun digit => ?_⟩
    rw [int?_of_layout present layout, if_neg digit]
  · intro changed text other negative digits present presentToo layout layoutToo
    rw [int?_of_layout present layout, int?_of_layout presentToo layoutToo]

end Params

end TransferHistory
