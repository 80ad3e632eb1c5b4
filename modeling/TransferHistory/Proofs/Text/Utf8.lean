import TransferHistory.Text.Utf8

/-!
# The bytes of a text

A character is written as a first byte and continuing bytes. The first byte never continues another
character, so places between characters can be told from the bytes alone (`isBoundary`), and a byte
below 128 is a whole character.

Results:
1. `exists_first_byte`: the first byte of a character.
2. `utf8EncodeChar_of_lt`, `head?_encode_eq_some_iff`: characters that are written as one byte.
3. `isBoundary_encode`: a text may be cut behind each of its characters.
4. `takeWhile_encode`, `encode_map_ofNat`: the characters of some kind at the front of a text, byte by
   byte, and the text that some bytes below 128 are.
5. `readsBack_utf8EncodeChar`, `decode_encode`: a text is read back from its bytes.
-/

namespace TransferHistory.Text.Utf8

/-- A place in a text where no character is cut: at either end, or in front of a byte that does not
continue a character. -/
def isBoundary (bytes : List UInt8) (place : Nat) : Bool :=
  match bytes.drop place with
  | [] => place == bytes.length
  | next :: _ => place == 0 || !isTail next

theorem encode_cons (c : Char) (rest : List Char) :
    encode (c :: rest) = String.utf8EncodeChar c ++ encode rest :=
  rfl

theorem encode_append (front rest : List Char) :
    encode (front ++ rest) = encode front ++ encode rest :=
  List.flatMap_append

/-! ## First bytes -/

theorem isTail_eq_false_of_le {byte : UInt8} (high : 192 ≤ byte.toNat) : isTail byte = false := by
  have above : ¬ byte ≤ 0xBF := by
    rw [UInt8.le_iff_toNat_le]
    exact Nat.not_le.mpr high
  simp [isTail, above]

theorem isTail_eq_false_of_lt {byte : UInt8} (low : byte.toNat < 128) : isTail byte = false := by
  have below : ¬ 0x80 ≤ byte := by
    rw [UInt8.le_iff_toNat_le]
    exact Nat.not_le.mpr low
  simp [isTail, below]

theorem toNat_byte {n : Nat} (small : n < 256) : (UInt8.ofNat n).toNat = n := by
  rw [UInt8.toNat_ofNat', Nat.mod_eq_of_lt small]

/-- A character below 128 is one byte. -/
theorem utf8EncodeChar_of_lt {c : Char} (low : c.toNat < 128) :
    String.utf8EncodeChar c = [UInt8.ofNat c.toNat] := by
  have small : c.val.toNat ≤ 127 := Nat.le_of_lt_succ low
  unfold String.utf8EncodeChar
  simp only [small, if_true]
  rfl

/-- Any other character begins with a byte from 192 on. -/
theorem exists_first_byte_of_le {c : Char} (high : 128 ≤ c.toNat) :
    ∃ first rest, String.utf8EncodeChar c = first :: rest ∧ 192 ≤ first.toNat := by
  have large : ¬ c.val.toNat ≤ 127 := Nat.not_le.mpr high
  unfold String.utf8EncodeChar
  simp only [large, if_false]
  split
  · refine ⟨_, _, rfl, ?_⟩
    rw [UInt8.toNat_ofNat']
    omega
  · split
    · refine ⟨_, _, rfl, ?_⟩
      rw [UInt8.toNat_ofNat']
      omega
    · refine ⟨_, _, rfl, ?_⟩
      rw [UInt8.toNat_ofNat']
      omega

/-- A character has a first byte, which continues no other character. If it is below 128 it is the
character. -/
theorem exists_first_byte (c : Char) :
    ∃ first rest, String.utf8EncodeChar c = first :: rest ∧ isTail first = false ∧
      (first.toNat < 128 → first.toNat = c.toNat) := by
  rcases Nat.lt_or_ge c.toNat 128 with low | high
  · have same : (UInt8.ofNat c.toNat).toNat = c.toNat := toNat_byte (by omega)
    refine ⟨_, _, utf8EncodeChar_of_lt low, isTail_eq_false_of_lt ?_, fun _ => same⟩
    rwa [same]
  · obtain ⟨first, rest, written, above⟩ := exists_first_byte_of_le high
    refine ⟨first, rest, written, isTail_eq_false_of_le above, fun below => ?_⟩
    omega

/-- A text begins with a byte below 128 exactly if it begins with that character. -/
theorem head?_encode_eq_some_iff {c : Char} (low : c.toNat < 128) (text : List Char) :
    (encode text).head? = some (UInt8.ofNat c.toNat) ↔ text.head? = some c := by
  cases text with
  | nil => simp [encode]
  | cons d rest =>
      obtain ⟨first, others, written, -, whole⟩ := exists_first_byte d
      rw [encode_cons, written, List.cons_append, List.head?_cons, List.head?_cons, Option.some.injEq,
        Option.some.injEq]
      have value : (UInt8.ofNat c.toNat).toNat = c.toNat := toNat_byte (by omega)
      constructor
      · rintro rfl
        have same : c.toNat = d.toNat := value.symm.trans (whole (by rwa [value]))
        rw [← Char.ofNat_toNat d, ← same, Char.ofNat_toNat]
      · rintro rfl
        rw [utf8EncodeChar_of_lt low, List.cons.injEq] at written
        exact written.1.symm

/-! ## Parts of a text -/

/-- A text may be cut behind each of its characters. -/
theorem isBoundary_encode (front rest : List Char) :
    isBoundary (encode (front ++ rest)) (encode front).length = true := by
  have behind : (encode (front ++ rest)).drop (encode front).length = encode rest := by
    rw [encode_append, List.drop_left]
  unfold isBoundary
  rw [behind]
  cases rest with
  | nil => simp [encode]
  | cons c rest =>
      obtain ⟨first, others, written, leads, -⟩ := exists_first_byte c
      simp [encode_cons, written, leads]

/-- Bytes of some kind at the front of a text are the characters of that kind there, if each of these
is a single byte and no other character begins with such a byte. -/
theorem takeWhile_encode {kind : Char → Bool} {byteKind : UInt8 → Bool}
    (single : ∀ c, kind c = true →
      ∃ byte, String.utf8EncodeChar c = [byte] ∧ byteKind byte = true)
    (other : ∀ c, kind c = false →
      ∃ first rest, String.utf8EncodeChar c = first :: rest ∧ byteKind first = false)
    (text : List Char) :
    (encode text).takeWhile byteKind = encode (text.takeWhile kind) := by
  induction text with
  | nil => rfl
  | cons c rest ih =>
      rw [encode_cons]
      cases is : kind c with
      | true =>
          obtain ⟨byte, written, isByte⟩ := single c is
          rw [List.takeWhile_cons_of_pos is, encode_cons, written, List.singleton_append,
            List.singleton_append, List.takeWhile_cons_of_pos isByte, ih]
      | false =>
          obtain ⟨first, others, written, isNot⟩ := other c is
          have stops : ¬ byteKind first = true := by simp [isNot]
          have stopsThere : ¬ kind c = true := by simp [is]
          rw [List.takeWhile_cons_of_neg stopsThere, written, List.cons_append,
            List.takeWhile_cons_of_neg stops]
          rfl

/-- The bytes of two texts with a character below 128 between them. -/
theorem encode_join {c : Char} (low : c.toNat < 128) (first rest : List Char) :
    encode (first ++ c :: rest) = encode first ++ UInt8.ofNat c.toNat :: encode rest := by
  rw [encode_append, encode_cons, utf8EncodeChar_of_lt low, List.singleton_append]

/-- Bytes below 128 are the bytes of the text that has them as its characters. -/
theorem encode_map_ofNat {bytes : List UInt8} (low : ∀ byte ∈ bytes, byte.toNat < 128) :
    encode (bytes.map fun byte => Char.ofNat byte.toNat) = bytes := by
  induction bytes with
  | nil => rfl
  | cons byte rest ih =>
      rw [List.forall_mem_cons] at low
      have valid : byte.toNat.isValidChar := Or.inl (by omega)
      have code : (Char.ofNat byte.toNat).toNat = byte.toNat := by
        rw [Char.ofNat, dif_pos valid]
        rfl
      rw [List.map_cons, encode_cons, utf8EncodeChar_of_lt (code.symm ▸ low.1), code,
        UInt8.ofNat_toNat, ih low.2, List.singleton_append]

/-! ## Reading back -/

theorem isTail_iff {byte : UInt8} : isTail byte = true ↔ 128 ≤ byte.toNat ∧ byte.toNat ≤ 191 := by
  simp [isTail, UInt8.le_iff_toNat_le]

/-- The byte that holds six bits continues a character. -/
theorem isTail_byte (n : Nat) : isTail (UInt8.ofNat (n % 64 + 128)) = true := by
  have value : (UInt8.ofNat (n % 64 + 128)).toNat = n % 64 + 128 := toNat_byte (by omega)
  rw [isTail_iff]
  omega

theorem tailBits_byte (n : Nat) : tailBits (UInt8.ofNat (n % 64 + 128)) = n % 64 := by
  have value : (UInt8.ofNat (n % 64 + 128)).toNat = n % 64 + 128 := toNat_byte (by omega)
  unfold tailBits
  omega

/-- Behind two first bytes not every byte may continue a character: behind `low` it has to be `least` at
least, behind `high` it may be `most` at most. -/
theorem narrowed_iff {low high least most first second : UInt8} (apart : low ≠ high)
    (above : 128 ≤ least.toNat) (below : most.toNat ≤ 191) :
    (if first = low then decide (least ≤ second) && decide (second ≤ 0xBF)
      else if first = high then decide (0x80 ≤ second) && decide (second ≤ most)
      else isTail second) = true ↔
      isTail second = true ∧ (first.toNat = low.toNat → least.toNat ≤ second.toNat) ∧
        (first.toNat = high.toNat → second.toNat ≤ most.toNat) := by
  rw [isTail_iff, UInt8.toNat_inj, UInt8.toNat_inj]
  split
  case isTrue lowest =>
    simp [UInt8.le_iff_toNat_le, lowest, apart]
    omega
  case isFalse other =>
    split
    case isTrue highest =>
      simp [UInt8.le_iff_toNat_le, highest, Ne.symm apart]
      omega
    case isFalse neither => simp [isTail_iff, other, neither]

/-- Behind the first byte of three, what would be longer than it has to be is left out, and so are the
halves of pairs. -/
theorem isSecondOfThree_iff {first second : UInt8} :
    isSecondOfThree first second = true ↔ isTail second = true ∧
      (first.toNat = 224 → 160 ≤ second.toNat) ∧ (first.toNat = 237 → second.toNat ≤ 159) :=
  narrowed_iff (by decide) (by decide) (by decide)

/-- Behind the first byte of four, what would be longer than it has to be is left out, and so is what is
no character any more. -/
theorem isSecondOfFour_iff {first second : UInt8} :
    isSecondOfFour first second = true ↔ isTail second = true ∧
      (first.toNat = 240 → 144 ≤ second.toNat) ∧ (first.toNat = 244 → second.toNat ≤ 143) :=
  narrowed_iff (by decide) (by decide) (by decide)

section Front

variable {first second third fourth : UInt8}

theorem front_of_one (leads : first.toNat < 128) (rest : List UInt8) :
    front first rest = (.char (Char.ofNat first.toNat), 0) := by
  have low : first < 0x80 := UInt8.lt_iff_toNat_lt.mpr leads
  unfold front
  rw [if_pos low]

theorem front_of_two (leads : 194 ≤ first.toNat ∧ first.toNat ≤ 223) (last : isTail second = true)
    (rest : List UInt8) :
    front first (second :: rest) =
      (.char (Char.ofNat ((first.toNat - 192) * 64 + tailBits second)), 1) := by
  have one : ¬ first.toNat < 128 := by omega
  simp [front, UInt8.lt_iff_toNat_lt, UInt8.le_iff_toNat_le, one, leads, last]

theorem front_of_three (leads : 224 ≤ first.toNat ∧ first.toNat ≤ 239)
    (next : isSecondOfThree first second = true) (last : isTail third = true) (rest : List UInt8) :
    front first (second :: third :: rest) =
      (.char (Char.ofNat
        ((first.toNat - 224) * 4096 + tailBits second * 64 + tailBits third)), 2) := by
  have one : ¬ first.toNat < 128 := by omega
  have two : ¬ first.toNat ≤ 223 := by omega
  simp [front, UInt8.lt_iff_toNat_lt, UInt8.le_iff_toNat_le, one, two, leads, next, last]

theorem front_of_four (leads : 240 ≤ first.toNat ∧ first.toNat ≤ 244)
    (next : isSecondOfFour first second = true) (tail : isTail third = true)
    (last : isTail fourth = true) (rest : List UInt8) :
    front first (second :: third :: fourth :: rest) =
      (.char (Char.ofNat
        ((first.toNat - 240) * 262144 + tailBits second * 4096 + tailBits third * 64 +
          tailBits fourth)), 3) := by
  have one : ¬ first.toNat < 128 := by omega
  have two : ¬ first.toNat ≤ 223 := by omega
  have three : ¬ first.toNat ≤ 239 := by omega
  simp [front, UInt8.lt_iff_toNat_lt, UInt8.le_iff_toNat_le, one, two, three, leads, next, tail,
    last]

end Front

/-- A character is what stands at the front of some bytes, and all of them belong to it. -/
def ReadsBack (c : Char) (bytes : List UInt8) : Prop :=
  ∃ first others, bytes = first :: others ∧
    ∀ rest, front first (others ++ rest) = (.char c, others.length)

/-- Codes of characters leave a gap for the halves of pairs. -/
theorem toNat_range (c : Char) : c.toNat < 55296 ∨ 57343 < c.toNat ∧ c.toNat < 1114112 :=
  c.valid

variable {c : Char}

theorem readsBack_one (low : c.toNat < 128) : ReadsBack c [UInt8.ofNat c.toNat] := by
  have value : (UInt8.ofNat c.toNat).toNat = c.toNat := toNat_byte (by omega)
  refine ⟨_, _, rfl, fun rest => ?_⟩
  rw [front_of_one (by rwa [value]), value, Char.ofNat_toNat]
  rfl

theorem readsBack_two (least : 128 ≤ c.toNat) (most : c.toNat ≤ 2047) :
    ReadsBack c [UInt8.ofNat (c.toNat / 64 % 32 + 192), UInt8.ofNat (c.toNat % 64 + 128)] := by
  have lead : (UInt8.ofNat (c.toNat / 64 % 32 + 192)).toNat = c.toNat / 64 % 32 + 192 :=
    toNat_byte (by omega)
  have code : (c.toNat / 64 % 32 + 192 - 192) * 64 + c.toNat % 64 = c.toNat := by omega
  refine ⟨_, _, rfl, fun rest => ?_⟩
  rw [List.singleton_append, front_of_two (by omega) (isTail_byte _), lead, tailBits_byte, code,
    Char.ofNat_toNat]
  rfl

theorem readsBack_three (least : 2048 ≤ c.toNat) (most : c.toNat ≤ 65535) :
    ReadsBack c [UInt8.ofNat (c.toNat / 4096 % 16 + 224), UInt8.ofNat (c.toNat / 64 % 64 + 128),
      UInt8.ofNat (c.toNat % 64 + 128)] := by
  have range := toNat_range c
  have lead : (UInt8.ofNat (c.toNat / 4096 % 16 + 224)).toNat = c.toNat / 4096 % 16 + 224 :=
    toNat_byte (by omega)
  have value : (UInt8.ofNat (c.toNat / 64 % 64 + 128)).toNat = c.toNat / 64 % 64 + 128 :=
    toNat_byte (by omega)
  have next : isSecondOfThree (UInt8.ofNat (c.toNat / 4096 % 16 + 224))
      (UInt8.ofNat (c.toNat / 64 % 64 + 128)) = true := by
    rw [isSecondOfThree_iff, lead, value]
    exact ⟨isTail_byte _, by omega, by omega⟩
  have code : (c.toNat / 4096 % 16 + 224 - 224) * 4096 + c.toNat / 64 % 64 * 64 + c.toNat % 64 =
      c.toNat := by omega
  refine ⟨_, _, rfl, fun rest => ?_⟩
  rw [List.cons_append, List.singleton_append, front_of_three (by omega) next (isTail_byte _), lead,
    tailBits_byte, tailBits_byte, code, Char.ofNat_toNat]
  rfl

theorem readsBack_four (least : 65536 ≤ c.toNat) :
    ReadsBack c [UInt8.ofNat (c.toNat / 262144 % 8 + 240), UInt8.ofNat (c.toNat / 4096 % 64 + 128),
      UInt8.ofNat (c.toNat / 64 % 64 + 128), UInt8.ofNat (c.toNat % 64 + 128)] := by
  have range := toNat_range c
  have lead : (UInt8.ofNat (c.toNat / 262144 % 8 + 240)).toNat = c.toNat / 262144 % 8 + 240 :=
    toNat_byte (by omega)
  have value : (UInt8.ofNat (c.toNat / 4096 % 64 + 128)).toNat = c.toNat / 4096 % 64 + 128 :=
    toNat_byte (by omega)
  have next : isSecondOfFour (UInt8.ofNat (c.toNat / 262144 % 8 + 240))
      (UInt8.ofNat (c.toNat / 4096 % 64 + 128)) = true := by
    rw [isSecondOfFour_iff, lead, value]
    exact ⟨isTail_byte _, by omega, by omega⟩
  have code : (c.toNat / 262144 % 8 + 240 - 240) * 262144 + c.toNat / 4096 % 64 * 4096 +
      c.toNat / 64 % 64 * 64 + c.toNat % 64 = c.toNat := by omega
  refine ⟨_, _, rfl, fun rest => ?_⟩
  rw [List.cons_append, List.cons_append, List.singleton_append,
    front_of_four (by omega) next (isTail_byte _) (isTail_byte _), lead, tailBits_byte,
    tailBits_byte, tailBits_byte, code, Char.ofNat_toNat]
  rfl

/-- Every character is read back from the bytes that it is written as. -/
theorem readsBack_utf8EncodeChar (c : Char) : ReadsBack c (String.utf8EncodeChar c) := by
  have value : c.val.toNat = c.toNat := rfl
  unfold String.utf8EncodeChar
  simp only [value]
  split
  case isTrue one => exact readsBack_one (by omega)
  case isFalse more =>
    split
    case isTrue two => exact readsBack_two (by omega) two
    case isFalse more =>
      split
      case isTrue three => exact readsBack_three (by omega) three
      case isFalse four => exact readsBack_four (by omega)

/-- A text is read back from its bytes. -/
theorem decode_encode (text : List Char) : decode (encode text) = text := by
  induction text with
  | nil => simp [encode, decode]
  | cons c rest ih =>
      obtain ⟨first, others, written, reads⟩ := readsBack_utf8EncodeChar c
      rw [encode_cons, written, List.cons_append, decode, reads]
      show c :: decode ((others ++ encode rest).drop others.length) = c :: rest
      rw [List.drop_left, ih]

end TransferHistory.Text.Utf8
