import TransferHistory.Query.LeadingInt

/-!
# The integer at the front of a text

Which integer a text begins with, in terms of how the text is written, and what is read of it: the
integer itself as long as 63 bits hold its magnitude, and otherwise the greatest such magnitude with
the same sign.

Results:
1. `magnitude_eq_min`: digits that denote a number too large are read as the greatest magnitude.
2. `clamp_neg_iff`, `clamp_pos_iff`: what is read has the sign of what is written.
3. `exists_layout`, `Layout.unique`: every text is laid out in one way.
4. `ofText?_of_layout`: what is read of a text that is laid out in some way.
5. `Begins.unique`: a text begins with one integer at most.
6. `ofText?_eq_some_iff`: what is read of a text.
7. `exists_read_iff`: the conditions that may be checked on what is read.
-/

namespace TransferHistory.LeadingInt

/-- How a sign is written, and whether it is a minus sign. -/
inductive Sign : Bool → List Char → Prop where
  | minus : Sign true ['-']
  | plus : Sign false ['+']
  | none : Sign false []

/-- A number with its sign. -/
def signed (negative : Bool) (number : Nat) : Int :=
  if negative then -(number : Int) else number

/-- A text goes on with a character that is none of some kind, or ends. -/
def Ended (kind : Char → Bool) (rest : List Char) : Prop :=
  ∀ c, rest.head? = some c → kind c = false

/-- A character that is a sign. -/
def isSign (c : Char) : Bool :=
  c == '-' || c == '+'

/-- A text is laid out as blanks, a sign, digits and a rest: as many blanks as there are, a sign if
one comes then, and as many digits as there are. -/
inductive Layout : List Char → Bool → List Char → Prop where
  | written {blanks sign digits rest : List Char} {negative : Bool}
      (blank : ∀ c ∈ blanks, Text.isBlank c = true)
      (unblank : Ended Text.isBlank (sign ++ (digits ++ rest))) (written : Sign negative sign)
      (unsigned : sign = [] → Ended isSign (digits ++ rest))
      (decimal : ∀ c ∈ digits, c.isDigit = true) (ended : Ended Char.isDigit rest) :
      Layout (blanks ++ (sign ++ (digits ++ rest))) negative digits

/-- A text begins with an integer: behind blanks and a sign there are digits, as many as possible. -/
inductive Begins : List Char → Int → Prop where
  | written {blanks sign digits rest : List Char} {negative : Bool}
      (blank : ∀ c ∈ blanks, Text.isBlank c = true) (written : Sign negative sign)
      (present : digits ≠ []) (decimal : ∀ c ∈ digits, c.isDigit = true)
      (ended : Ended Char.isDigit rest) :
      Begins (blanks ++ (sign ++ (digits ++ rest))) (signed negative (Text.natural digits))

/-- The integer that is read for an integer that is written: one whose magnitude fits. -/
def clamp (number : Int) : Int :=
  max (-greatest) (min greatest number)

/-! ## Parts of a text -/

theorem Ended.takeWhile {kind : Char → Bool} {rest : List Char} (ended : Ended kind rest) :
    rest.takeWhile kind = [] := by
  cases rest with
  | nil => rfl
  | cons c rest => simp [ended c rfl]

theorem Ended.dropWhile {kind : Char → Bool} {rest : List Char} (ended : Ended kind rest) :
    rest.dropWhile kind = rest := by
  cases rest with
  | nil => rfl
  | cons c rest => simp [ended c rfl]

theorem ended_dropWhile (kind : Char → Bool) (text : List Char) :
    Ended kind (text.dropWhile kind) := by
  intro c first
  have found := List.head?_dropWhile_not kind text
  rw [first] at found
  simpa using found

theorem takeWhile_append {kind : Char → Bool} {front rest : List Char}
    (all : ∀ c ∈ front, kind c = true) (ended : Ended kind rest) :
    (front ++ rest).takeWhile kind = front := by
  rw [List.takeWhile_append_of_pos all, ended.takeWhile, List.append_nil]

theorem toNat_of_isDigit {c : Char} (digit : c.isDigit = true) : 48 ≤ c.toNat ∧ c.toNat ≤ 57 := by
  simp only [Char.isDigit, Bool.and_eq_true, decide_eq_true_eq, ge_iff_le,
    UInt32.le_iff_toNat_le] at digit
  exact digit

/-- No decimal digit is blank. -/
theorem isBlank_of_isDigit {c : Char} (digit : c.isDigit = true) : Text.isBlank c = false := by
  obtain ⟨lower, upper⟩ := toNat_of_isDigit digit
  simp [Text.isBlank]
  omega

/-- No decimal digit is a sign. -/
theorem isSign_of_isDigit {c : Char} (digit : c.isDigit = true) : isSign c = false := by
  obtain ⟨lower, -⟩ := toNat_of_isDigit digit
  have minus : c ≠ '-' := by
    rintro rfl
    exact absurd lower (by decide)
  have plus : c ≠ '+' := by
    rintro rfl
    exact absurd lower (by decide)
  simp [isSign, minus, plus]

/-- A sign is taken off a text. -/
theorem withoutSign_append {negative : Bool} {sign body : List Char} (written : Sign negative sign)
    (unsigned : sign = [] → Ended isSign body) :
    Text.withoutSign (sign ++ body) = (negative, body) := by
  cases written with
  | minus => rfl
  | plus => rfl
  | none =>
      rw [List.nil_append]
      fun_cases Text.withoutSign body with
      | case1 rest => exact absurd (unsigned rfl '-' rfl) (by decide)
      | case2 rest => exact absurd (unsigned rfl '+' rfl) (by decide)
      | case3 => rfl

/-- What is taken off a text is a sign, and only a text without one is left as it is. -/
theorem exists_sign (text : List Char) :
    ∃ sign, Sign (Text.withoutSign text).1 sign ∧ text = sign ++ (Text.withoutSign text).2 ∧
      (sign = [] → Ended isSign (Text.withoutSign text).2) := by
  fun_cases Text.withoutSign text with
  | case1 rest => exact ⟨['-'], Sign.minus, rfl, by simp⟩
  | case2 rest => exact ⟨['+'], Sign.plus, rfl, by simp⟩
  | case3 _ noMinus noPlus =>
      refine ⟨[], Sign.none, rfl, ?_⟩
      intro _ c first
      obtain ⟨rest, whole⟩ := List.head?_eq_some_iff.mp first
      have minus : c ≠ '-' := fun same => noMinus rest (same ▸ whole)
      have plus : c ≠ '+' := fun same => noPlus rest (same ▸ whole)
      simp [isSign, minus, plus]

theorem trimStart_append {blanks body : List Char} (blank : ∀ c ∈ blanks, Text.isBlank c = true)
    (unblank : Ended Text.isBlank body) : Text.trimStart (blanks ++ body) = body := by
  rw [Text.trimStart, List.dropWhile_append_of_pos blank, unblank.dropWhile]

/-! ## Magnitudes -/

theorem extend_min (number : Nat) (digit : Char) :
    extend (min greatest number) digit = min greatest (number * 10 + Text.digitValue digit) := by
  unfold extend
  omega

/-- Digits are read as the number that they denote, or as the greatest magnitude if it is greater. -/
theorem magnitude_eq_min (digits : List Char) :
    magnitude digits = min greatest (Text.natural digits) := by
  -- By induction on the digits, for every number that those in front of them denote.
  have step (number : Nat) : digits.foldl extend (min greatest number) = min greatest
      (digits.foldl (fun number digit => number * 10 + Text.digitValue digit) number) := by
    induction digits generalizing number with
    | nil => rfl
    | cons digit rest ih => rw [List.foldl_cons, List.foldl_cons, extend_min, ih]
  have start : min greatest 0 = 0 := Nat.min_zero greatest
  have whole := step 0
  rw [start] at whole
  exact whole

theorem clamp_signed (negative : Bool) (number : Nat) :
    clamp (signed negative number) = signed negative (min greatest number) := by
  unfold clamp signed
  cases negative with
  | true => simp only [if_true]; omega
  | false => simp only [Bool.false_eq_true, if_false]; omega

theorem greatest_pos : 0 < greatest := by
  decide

/-- What is read is negative exactly if what is written is. -/
theorem clamp_neg_iff (number : Int) : clamp number < 0 ↔ number < 0 := by
  have pos := greatest_pos
  unfold clamp
  omega

theorem clamp_pos_iff (number : Int) : 0 < clamp number ↔ 0 < number := by
  have pos := greatest_pos
  unfold clamp
  omega

theorem clamp_lt_one_iff (number : Int) : clamp number < 1 ↔ number < 1 := by
  have pos := clamp_pos_iff number
  omega

/-! ## Layouts -/

/-- A text is taken apart into just the parts that it is laid out in. -/
theorem Layout.parts {text digits : List Char} {negative : Bool}
    (layout : Layout text negative digits) :
    ∃ rest, Text.withoutSign (Text.trimStart text) = (negative, rest) ∧
      rest.takeWhile Char.isDigit = digits := by
  cases layout with
  | @written blanks sign _ rest _ blank unblank written unsigned decimal ended =>
      refine ⟨digits ++ rest, ?_, takeWhile_append decimal ended⟩
      rw [trimStart_append blank unblank, withoutSign_append written unsigned]

/-- A text is laid out in one way. -/
theorem Layout.unique {text digits others : List Char} {negative other : Bool}
    (layout : Layout text negative digits) (also : Layout text other others) :
    negative = other ∧ digits = others := by
  obtain ⟨rest, split, taken⟩ := layout.parts
  obtain ⟨_, again, takenAgain⟩ := also.parts
  rw [split] at again
  cases again
  exact ⟨rfl, taken.symm.trans takenAgain⟩

/-- Every text is laid out in some way. -/
theorem exists_layout (text : List Char) : ∃ negative digits, Layout text negative digits := by
  obtain ⟨sign, written, split, unsigned⟩ := exists_sign (Text.trimStart text)
  generalize Text.withoutSign (Text.trimStart text) = parts at written split unsigned
  obtain ⟨negative, rest⟩ := parts
  have halves : rest.takeWhile Char.isDigit ++ rest.dropWhile Char.isDigit = rest :=
    List.takeWhile_append_dropWhile
  have whole : text = text.takeWhile Text.isBlank ++
      (sign ++ (rest.takeWhile Char.isDigit ++ rest.dropWhile Char.isDigit)) := by
    rw [halves, ← split]
    exact List.takeWhile_append_dropWhile.symm
  rw [whole]
  refine ⟨negative, rest.takeWhile Char.isDigit, .written (List.all_eq_true.mp List.all_takeWhile) ?_
    written ?_ (List.all_eq_true.mp List.all_takeWhile) (ended_dropWhile Char.isDigit rest)⟩
  · rw [halves, ← split]
    exact ended_dropWhile Text.isBlank text
  · rwa [halves]

/-- What is read of a text is the number that its digits denote, or the greatest magnitude if it is
greater, with the sign of the text. Nothing is read of a text without digits. -/
theorem ofText?_of_layout {text digits : List Char} {negative : Bool}
    (layout : Layout text negative digits) :
    ofText? text =
      if digits = [] then none
      else some (signed negative (min greatest (Text.natural digits))) := by
  obtain ⟨rest, split, taken⟩ := layout.parts
  unfold ofText?
  rw [split, ← magnitude_eq_min]
  simp only [taken]
  cases digits with
  | nil => rfl
  | cons digit others => rfl

/-- An integer that a text begins with is one with digits. -/
theorem Begins.layout {text : List Char} {number : Int} (begins : Begins text number) :
    ∃ negative digits, Layout text negative digits ∧ digits ≠ [] ∧
      number = signed negative (Text.natural digits) := by
  cases begins with
  | @written blanks sign digits rest negative blank written present decimal ended =>
      obtain ⟨digit, others, rfl⟩ := List.exists_cons_of_ne_nil present
      have front : digit.isDigit = true := decimal digit List.mem_cons_self
      refine ⟨negative, _, .written blank ?_ written ?_ decimal ended, present, rfl⟩
      · intro c first
        cases written with
        | minus =>
            cases first
            decide
        | plus =>
            cases first
            decide
        | none =>
            cases first
            exact isBlank_of_isDigit front
      · intro _ c first
        cases first
        exact isSign_of_isDigit front

theorem Layout.begins {text digits : List Char} {negative : Bool}
    (layout : Layout text negative digits) (present : digits ≠ []) :
    Begins text (signed negative (Text.natural digits)) := by
  cases layout with
  | written blank _ written _ decimal ended => exact .written blank written present decimal ended

/-! ## Reading -/

/-- A text begins with one integer at most. -/
theorem Begins.unique {text : List Char} {number other : Int} (begins : Begins text number)
    (also : Begins text other) : number = other := by
  obtain ⟨negative, digits, layout, -, same⟩ := begins.layout
  obtain ⟨_, _, again, -, equal⟩ := also.layout
  obtain ⟨rfl, rfl⟩ := layout.unique again
  rw [same, equal]

theorem ofText?_of_begins {text : List Char} {number : Int} (begins : Begins text number) :
    ofText? text = some (clamp number) := by
  obtain ⟨negative, digits, layout, present, same⟩ := begins.layout
  rw [ofText?_of_layout layout, if_neg present, same, clamp_signed]

theorem exists_begins {text : List Char} {n : Int} (read : ofText? text = some n) :
    ∃ number, Begins text number := by
  obtain ⟨negative, digits, layout⟩ := exists_layout text
  have present : digits ≠ [] := by
    rintro rfl
    rw [ofText?_of_layout layout, if_pos rfl] at read
    cases read
  exact ⟨_, layout.begins present⟩

/-- What is read of a text is the integer that it begins with, its magnitude made to fit. -/
theorem ofText?_eq_some_iff {text : List Char} {n : Int} :
    ofText? text = some n ↔ ∃ number, Begins text number ∧ n = clamp number := by
  constructor
  · intro read
    obtain ⟨number, begins⟩ := exists_begins read
    rw [ofText?_of_begins begins] at read
    cases read
    exact ⟨number, begins, rfl⟩
  · rintro ⟨number, begins, rfl⟩
    exact ofText?_of_begins begins

example : ofText? " -99999999999999999999 or less".toList = some (-9223372036854775807) := by
  decide +kernel

/-- A condition that does not see whether a magnitude was made to fit holds of what is read exactly if
it holds of what is written. -/
theorem exists_read_iff {text : List Char} {holds : Int → Prop}
    (blind : ∀ number, holds (clamp number) ↔ holds number) :
    (∃ n, ofText? text = some n ∧ holds n) ↔ ∃ number, Begins text number ∧ holds number := by
  simp only [ofText?_eq_some_iff]
  constructor
  · rintro ⟨_, ⟨number, begins, rfl⟩, clamped⟩
    exact ⟨number, begins, (blind number).mp clamped⟩
  · rintro ⟨number, begins, whole⟩
    exact ⟨clamp number, ⟨number, begins, rfl⟩, (blind number).mpr whole⟩

end TransferHistory.LeadingInt
