import TransferHistory.Config.Environment
import TransferHistory.Config.Validation
import TransferHistory.Proofs.Net.Extension
import TransferHistory.Proofs.Text.Digits

/-!
# Printed values of variables

The value of a variable is read before anybody knows what it is wanted for: as a truth value or a number
if it looks like one. Where a text is wanted after all, the value that was read is printed. The printed
text may differ from the value. It never does if the printed text is a web address or a level of the log,
because no number or truth value is printed as one.

Results:
1. `Environment.reads_setting`: what a value reads as, and how that is printed.
2. `Environment.printed_eq_iff`: which values are printed as they were written.
3. `Environment.printed_eq_of_url`, `Environment.printed_eq_of_level`: web addresses and levels are.
-/

namespace TransferHistory.Environment

/-- What a text setting becomes by the value of a variable: the printed form of what the value reads
as, and the value itself if it reads as a text alone. -/
def printed (value : String) : String :=
  match truth? value, integer? value, Extended.parse? value with
  | some truth, _, _ => if truth then "true" else "false"
  | none, some number, _ => Json.renderInt number
  | none, none, some number => number.render
  | none, none, none => value

/-- What a value reads as, one case for each kind. -/
inductive Reads (value : String) : Setting → String → Prop
  | truth {truth : Bool} (read : truth? value = some truth) :
      Reads value (.bool truth) (if truth then "true" else "false")
  | integer {number : Int} (noTruth : truth? value = none) (read : integer? value = some number) :
      Reads value (.int number) (Json.renderInt number)
  | real {number : Extended} (noTruth : truth? value = none) (noInteger : integer? value = none)
      (read : Extended.parse? value = some number) : Reads value (.real number) number.render
  | text (noTruth : truth? value = none) (noInteger : integer? value = none)
      (noReal : Extended.parse? value = none) : Reads value (.text value) value

theorem reads_setting (value : String) : Reads value (setting value) (printed value) := by
  unfold setting printed
  cases truth : truth? value with
  | some found => exact .truth truth
  | none =>
      cases integer : integer? value with
      | some found => exact .integer truth integer
      | none =>
          cases real : Extended.parse? value with
          | some found => exact .real truth integer real
          | none => exact .text truth integer real

theorem Reads.toText {value text : String} {setting : Setting} (reads : Reads value setting text) :
    setting.toText = .ok text := by
  cases reads <;> rfl

/-- The digits of an integer that has no plus sign and no zeros in front; a zero has no sign. -/
def isPlainInteger : List Char → Bool
  | '-' :: digits => digits.head? != some '0'
  | '+' :: _ => false
  | digits => Text.isTight digits

/-- A value that is printed as it was written: a truth value in small letters, an integer in its
shortest form, a binary number in the form in which it is printed, and whatever is none of these. -/
structure Verbatim (value : String) : Prop where
  truth : truth? value ≠ none → Text.lowerAscii value = value
  integer : truth? value = none → integer? value ≠ none → isPlainInteger value.toList = true
  real : truth? value = none → integer? value = none →
    ∀ number, Extended.parse? value = some number → number.render = value

theorem lowerAscii_of_truth? {value : String} {truth : Bool} (read : truth? value = some truth) :
    Text.lowerAscii value = if truth then "true" else "false" := by
  unfold truth? at read
  generalize Text.lowerAscii value = lower at *
  obtain ⟨front, rest, split, -⟩ := List.lookup_eq_some_iff.mp read
  have known : (lower, truth) ∈ [("true", true), ("false", false)] := by simp [split]
  rcases List.mem_cons.mp known with same | later
  · cases same
    rfl
  · cases List.mem_singleton.mp later
    rfl

theorem eq_of_signed64? {negative : Bool} {magnitude : Nat} {number : Int}
    (read : Text.signed64? negative magnitude = some number) :
    number = if negative then -(magnitude : Int) else magnitude := by
  unfold Text.signed64? at read
  cases negative with
  | true => exact (Option.some.inj (Option.ite_none_right_eq_some.mp read).2).symm
  | false => exact (Option.some.inj (Option.ite_none_right_eq_some.mp read).2).symm

/-- Printing the negative of a number, which for zero is zero itself. -/
theorem toList_renderInt_neg (n : Nat) :
    (Json.renderInt (-n)).toList = if n = 0 then ['0'] else '-' :: Nat.toDigits 10 n := by
  cases n with
  | zero => rfl
  | succ n =>
      have negative : -((n + 1 : Nat) : Int) < 0 := by omega
      rw [Json.renderInt, if_pos negative, Int.natAbs_neg, Int.natAbs_natCast]
      simp

theorem toList_renderInt_natCast (n : Nat) : (Json.renderInt n).toList = Nat.toDigits 10 n := by
  have nonneg : ¬ (n : Int) < 0 := by omega
  rw [Json.renderInt, if_neg nonneg]
  simp

/-- Behind a minus sign the digits of the number are given back if the first one is not zero. -/
theorem renderInt_neg_eq_iff {digits : List Char} (natural : Text.isNatural digits = true) :
    (Json.renderInt (-(Text.natural digits : Int))).toList = '-' :: digits ↔
      (digits.head? != some '0') = true := by
  have written := Text.toDigits_natural_eq_iff natural
  rw [toList_renderInt_neg, bne_iff_ne, ne_eq]
  by_cases zero : Text.natural digits = 0
  · rw [if_pos zero]
    refine ⟨fun same => by simp at same, fun positive => ?_⟩
    simp only [Text.isNatural, Bool.and_eq_true, Bool.not_eq_true', List.isEmpty_eq_false_iff,
      List.all_eq_true] at natural
    exact absurd zero (Nat.ne_of_gt (Text.natural_pos natural.2 positive natural.1))
  · rw [if_neg zero, List.cons.injEq, and_iff_right rfl, written]
    have other : digits ≠ ['0'] := by
      rintro rfl
      exact zero rfl
    simp [Text.isTight, other]

theorem renderInt_eq_iff {value : String} {number : Int} (read : integer? value = some number) :
    Json.renderInt number = value ↔ isPlainInteger value.toList = true := by
  change (if Text.isNatural (Text.withoutSign value.toList).2 then
    Text.signed64? (Text.withoutSign value.toList).1 (Text.natural (Text.withoutSign value.toList).2)
    else none) = some number at read
  obtain ⟨natural, signed⟩ := Option.ite_none_right_eq_some.mp read
  obtain ⟨sign, written, split, unsigned⟩ := LeadingInt.exists_sign value.toList
  rw [eq_of_signed64? signed, ← String.toList_inj]
  generalize (Text.withoutSign value.toList).1 = negative at *
  generalize (Text.withoutSign value.toList).2 = digits at *
  rw [split]
  cases written with
  | minus => exact renderInt_neg_eq_iff natural
  | plus =>
      rw [if_neg Bool.false_ne_true, toList_renderInt_natCast]
      refine ⟨fun same => ?_, fun plain => by cases plain⟩
      have sign : '+' ∈ Nat.toDigits 10 (Text.natural digits) := by simp [same]
      exact absurd (Nat.isDigit_of_mem_toDigits (by decide) (by decide) sign) (by decide)
  | none =>
      have plain : isPlainInteger digits = Text.isTight digits := by
        fun_cases isPlainInteger digits with
        | case1 rest => exact absurd (unsigned rfl '-' rfl) (by decide)
        | case2 rest => exact absurd (unsigned rfl '+' rfl) (by decide)
        | case3 => rfl
      rw [if_neg Bool.false_ne_true, toList_renderInt_natCast, List.nil_append, plain]
      exact Text.toDigits_natural_eq_iff natural

theorem printed_eq_iff {value : String} : printed value = value ↔ Verbatim value := by
  have reads := reads_setting value
  generalize printed value = text, setting value = found at reads
  cases reads with
  | truth read =>
      rw [← lowerAscii_of_truth? read]
      constructor
      · intro same
        exact ⟨fun _ => same, by simp [read], by simp [read]⟩
      · intro verbatim
        exact verbatim.truth (by simp [read])
  | integer noTruth read =>
      rw [renderInt_eq_iff read]
      constructor
      · intro plain
        exact ⟨by simp [noTruth], fun _ _ => plain, by simp [read]⟩
      · intro verbatim
        exact verbatim.integer noTruth (by simp [read])
  | real noTruth noInteger read =>
      constructor
      · intro same
        refine ⟨by simp [noTruth], by simp [noInteger], ?_⟩
        intro _ _ number again
        cases read.symm.trans again
        exact same
      · intro verbatim
        exact verbatim.real noTruth noInteger _ read
  | text noTruth noInteger noReal =>
      have verbatim : Verbatim value := ⟨by simp [noTruth], by simp [noInteger], by simp [noReal]⟩
      exact iff_of_true rfl verbatim

example : printed "007" = "7" ∧ printed "0x7" = "0x7" := by decide +kernel

/-! ## Web addresses and levels -/

/-- What is printed in another form has the characters of a number, or is one of a few words. -/
theorem printed_kinds (value : String) :
    printed value = value ∨ (∀ c ∈ (printed value).toList, Text.isNumeral c = true) ∨
      printed value ∈ ["true", "false", "inf", "-inf", "NaN"] := by
  have reads := reads_setting value
  generalize printed value = text, setting value = found at reads
  cases reads with
  | @truth truth _ => cases truth <;> simp
  | integer _ _ => exact Or.inr (Or.inl fun c present => Text.isNumeral_of_mem_renderInt present)
  | @real number _ _ _ =>
      cases number with
      | finite number =>
          exact Or.inr (Or.inl fun c present => Binary64.isNumeral_of_mem_render present)
      | infinite negative => cases negative <;> simp [Extended.render]
      | notANumber => simp [Extended.render]
  | text _ _ _ => exact Or.inl rfl

theorem printed_eq_of_url {value : String} {url : Url} (read : Url.parse? (printed value) = .ok url) :
    printed value = value := by
  have colon := Url.colon_mem_of_parse? read
  rcases printed_kinds value with same | numeral | word
  · exact same
  · exact absurd (numeral ':' colon) (by decide)
  · have apart : ∀ word ∈ ["true", "false", "inf", "-inf", "NaN"], ':' ∉ word.toList := by
      decide +kernel
    exact absurd colon (apart _ word)

theorem printed_eq_of_level {value : String}
    (level : Text.lowerAscii (printed value) ∈ Config.levels) : printed value = value := by
  rcases printed_kinds value with same | numeral | word
  · exact same
  · have lower : Text.lowerAscii (printed value) = printed value := by
      unfold Text.lowerAscii
      rw [List.map_congr_left fun c present => Text.toLower_of_isNumeral (numeral c present), List.map_id',
        String.ofList_toList]
    rw [lower] at level
    have letters : ∀ word ∈ Config.levels, word.toList.any (!Text.isNumeral ·) = true := by
      decide +kernel
    obtain ⟨c, present, letter⟩ := List.any_eq_true.mp (letters _ level)
    rw [numeral c present] at letter
    cases letter
  · have apart : ∀ word ∈ ["true", "false", "inf", "-inf", "NaN"],
        Text.lowerAscii word ∉ Config.levels := by decide +kernel
    exact absurd level (apart _ word)

end TransferHistory.Environment
