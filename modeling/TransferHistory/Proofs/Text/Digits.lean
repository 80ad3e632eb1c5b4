import Mathlib.Data.List.Induction
import TransferHistory.Json.Printer
import TransferHistory.Number.Extended
import TransferHistory.Proofs.Query.LeadingInt

/-!
# Decimal texts of numbers

Which digits are the decimal text of the number that they denote: those without a zero in front, and a
single zero. Which characters the texts of numbers are made of.

Results:
1. `toDigits_natural_eq_iff`: the digits that writing their number gives back.
2. `isNumeral_of_mem_renderInt`, `isNumeral_of_mem_render`: the text of a number consists of digits,
   signs, points and exponent marks.
-/

namespace TransferHistory

namespace Text

/-- Digits without a zero in front, or a single zero. -/
def isTight (digits : List Char) : Bool :=
  digits == ['0'] || digits.head? != some '0'

theorem natural_concat (front : List Char) (last : Char) :
    natural (front ++ [last]) = 10 * natural front + digitValue last := by
  simp [natural, numberIn, List.foldl_append, Nat.mul_comm]

theorem digitValue_of_isDigit {c : Char} (digit : c.isDigit = true) : digitValue c = c.toNat - 48 := by
  simp [digitValue, digit]

theorem digitValue_lt {c : Char} (digit : c.isDigit = true) : digitValue c < 10 := by
  have ⟨_, most⟩ := LeadingInt.toNat_of_isDigit digit
  rw [digitValue_of_isDigit digit]
  omega

theorem digitChar_digitValue {c : Char} (digit : c.isDigit = true) :
    Nat.digitChar (digitValue c) = c := by
  have ⟨least, most⟩ := LeadingInt.toNat_of_isDigit digit
  rw [digitValue_of_isDigit digit]
  apply Char.toNat_inj.mp
  rw [Nat.toNat_digitChar_of_lt_ten (by omega), Nat.add_sub_cancel' least]

theorem natural_pos {digits : List Char} (all : ∀ c ∈ digits, c.isDigit = true)
    (positive : digits.head? ≠ some '0') (some_digit : digits ≠ []) : 0 < natural digits := by
  induction digits using List.reverseRecOn with
  | nil => exact absurd rfl some_digit
  | append_singleton front last ih =>
      rw [natural_concat]
      rcases front with _ | ⟨first, others⟩
      · have ne : last ≠ '0' := by simpa using positive
        have value : digitValue last ≠ 0 := by
          intro zero
          apply ne
          rw [← digitChar_digitValue (all last (by simp)), zero]
          rfl
        omega
      · have := ih (fun c present => all c (List.mem_append_left _ present))
          (by simpa using positive) (by simp)
        omega

/-- Writing the number that digits denote gives them back, if the first one is not zero. -/
theorem toDigits_natural {digits : List Char} (all : ∀ c ∈ digits, c.isDigit = true)
    (positive : digits.head? ≠ some '0') (some_digit : digits ≠ []) :
    Nat.toDigits 10 (natural digits) = digits := by
  -- reading goes on at the last digit, and writing divides it off
  induction digits using List.reverseRecOn with
  | nil => exact absurd rfl some_digit
  | append_singleton front last ih =>
      have digit : last.isDigit = true := all last (by simp)
      have written : Nat.toDigits 10 (digitValue last) = [last] := by
        rw [Nat.toDigits_of_lt_base (digitValue_lt digit), digitChar_digitValue digit]
      rw [natural_concat]
      rcases front with _ | ⟨first, others⟩
      · simpa [natural, numberIn] using written
      · have before : ∀ c ∈ first :: others, c.isDigit = true :=
          fun c present => all c (List.mem_append_left _ present)
        have positive : (first :: others).head? ≠ some '0' := by simpa using positive
        have pos := natural_pos before positive (List.cons_ne_nil _ _)
        rw [← Nat.toDigits_append_toDigits (by decide) pos (digitValue_lt digit), written,
          ih before positive (List.cons_ne_nil _ _)]

theorem head?_toDigits {n : Nat} (pos : 0 < n) : (Nat.toDigits 10 n).head? ≠ some '0' := by
  induction n using Nat.strongRecOn with
  | ind n ih =>
      rw [Nat.toDigits_eq_if (by decide)]
      split
      · rename_i small
        have nonzero : ∀ k, k < 10 → 0 < k → Nat.digitChar k ≠ '0' := by decide
        simpa using nonzero n small pos
      · have front := ih (n / 10) (by omega) (by omega)
        rwa [List.head?_append, Option.or_of_isSome (List.isSome_head?.mpr Nat.toDigits_ne_nil)]

/-- Digits are the text of their number just if no zero stands in front. -/
theorem toDigits_natural_eq_iff {digits : List Char} (number : isNatural digits = true) :
    Nat.toDigits 10 (natural digits) = digits ↔ isTight digits = true := by
  simp only [isNatural, Bool.and_eq_true, Bool.not_eq_true', List.isEmpty_eq_false_iff,
    List.all_eq_true] at number
  simp only [isTight, Bool.or_eq_true, beq_iff_eq, bne_iff_ne, ne_eq]
  constructor
  · intro same
    rcases Nat.eq_zero_or_pos (natural digits) with zero | pos
    · rw [zero] at same
      exact Or.inl same.symm
    · right
      rw [← same]
      exact head?_toDigits pos
  · rintro (rfl | positive)
    · rfl
    · exact toDigits_natural number.2 positive number.1

/-- A character of the decimal text of a number. -/
def isNumeral (c : Char) : Bool :=
  c.isDigit || c == '-' || c == '+' || c == '.' || c == 'e'

/-- None of these characters is a capital letter. -/
theorem toLower_of_isNumeral {c : Char} (numeral : isNumeral c = true) : c.toLower = c := by
  simp only [isNumeral, Bool.or_eq_true, beq_iff_eq] at numeral
  rcases numeral with (((digit | rfl) | rfl) | rfl) | rfl
  · have ⟨least, most⟩ := LeadingInt.toNat_of_isDigit digit
    have same : ∀ n, n < 58 → 48 ≤ n → (Char.ofNat n).toLower = Char.ofNat n := by decide
    rw [← Char.ofNat_toNat c]
    exact same c.toNat (Nat.lt_succ_of_le most) least
  all_goals rfl

theorem isNumeral_of_mem_toDigits {n : Nat} {c : Char} (present : c ∈ Nat.toDigits 10 n) :
    isNumeral c = true := by
  simp [isNumeral, Nat.isDigit_of_mem_toDigits (by decide) (by decide) present]

theorem isNumeral_of_mem_renderInt {value : Int} {c : Char}
    (present : c ∈ (Json.renderInt value).toList) : isNumeral c = true := by
  rw [Json.renderInt, String.toList_append, String.toList_ofList, List.mem_append] at present
  rcases present with sign | digit
  · split at sign
    · obtain rfl : c = '-' := by simpa using sign
      rfl
    · simp at sign
  · exact isNumeral_of_mem_toDigits digit

end Text

namespace Binary64

open Text (isNumeral)

theorem isNumeral_of_mem_shortestDigits {x : Binary64} {c : Char}
    (present : c ∈ (shortestDigits x).1) : isNumeral c = true := by
  unfold shortestDigits at present
  split at present
  · obtain rfl := List.mem_singleton.mp present
    rfl
  · have kept := (List.dropWhile_sublist _).mem (List.mem_reverse.mp present)
    exact Text.isNumeral_of_mem_toDigits (List.mem_reverse.mp kept)

theorem isNumeral_of_mem_positional {digits : List Char} (all : ∀ c ∈ digits, isNumeral c = true)
    {keepsFraction : Bool} {exponent : Int} {c : Char}
    (present : c ∈ positional keepsFraction digits exponent) : isNumeral c = true := by
  have zeros (count : Nat) (zero : c ∈ List.replicate count '0') : isNumeral c = true := by
    rw [List.eq_of_mem_replicate zero]
    rfl
  have mark {rest : List Char} (within : c ∈ '.' :: rest) (others : c ∈ rest → isNumeral c = true) :
      isNumeral c = true := by
    rcases List.mem_cons.mp within with rfl | later
    · rfl
    · exact others later
  unfold positional at present
  split at present
  · have whole : c ∈ digits.take (exponent.toNat + 1) ++
        List.replicate (exponent.toNat + 1 - digits.length) '0' → isNumeral c = true := by
      intro within
      rcases List.mem_append.mp within with digit | zero
      · exact all c (List.mem_of_mem_take digit)
      · exact zeros _ zero
    dsimp only at present
    split at present
    · rcases List.mem_append.mp present with before | fraction
      · exact whole before
      · cases keepsFraction with
        | false => exact absurd fraction List.not_mem_nil
        | true => exact mark fraction fun zero => zeros 1 zero
    · rcases List.mem_append.mp present with before | behind
      · exact whole before
      · exact mark behind fun digit => all c (List.mem_of_mem_drop digit)
  · rcases List.mem_cons.mp present with rfl | behind
    · rfl
    · refine mark behind fun rest => ?_
      rcases List.mem_append.mp rest with zero | digit
      · exact zeros _ zero
      · exact all c digit

theorem isNumeral_of_mem_scientific {digits : List Char} (all : ∀ c ∈ digits, isNumeral c = true)
    {exponent : Int} {c : Char} (present : c ∈ scientific digits exponent) : isNumeral c = true := by
  rcases List.mem_append.mp present with mantissa | power
  · rcases digits with _ | ⟨first, _ | ⟨second, others⟩⟩
    · exact absurd mantissa List.not_mem_nil
    · exact all c mantissa
    · rcases List.mem_cons.mp mantissa with rfl | behind
      · exact all c List.mem_cons_self
      · rcases List.mem_cons.mp behind with rfl | later
        · rfl
        · exact all c (List.mem_cons_of_mem _ later)
  · rcases List.mem_cons.mp power with rfl | behind
    · rfl
    · rcases List.mem_cons.mp behind with rfl | digit
      · split <;> rfl
      · exact Text.isNumeral_of_mem_toDigits digit

/-- The text of a binary number, in whatever format. -/
theorem isNumeral_of_mem_render {format : DecimalFormat} {x : Binary64} {c : Char}
    (present : c ∈ (x.render format).toList) : isNumeral c = true := by
  have digits : ∀ c ∈ (shortestDigits x).1, isNumeral c = true :=
    fun c present => isNumeral_of_mem_shortestDigits present
  have magnitude {c : Char}
      (within : c ∈ if format.leastPositional ≤ (shortestDigits x).2 &&
          (shortestDigits x).2 ≤ format.greatestPositional then
        positional format.keepsFraction (shortestDigits x).1 (shortestDigits x).2
      else scientific (shortestDigits x).1 (shortestDigits x).2) : isNumeral c = true := by
    split at within
    · exact isNumeral_of_mem_positional digits within
    · exact isNumeral_of_mem_scientific digits within
  rw [render, String.toList_ofList] at present
  split at present
  · rcases List.mem_cons.mp present with rfl | behind
    · rfl
    · exact magnitude behind
  · exact magnitude present

end Binary64

end TransferHistory
