import TransferHistory.Proofs.Record.Reading

/-!
# Kinds of values

What the readers of typed data take: each reads one kind of value, and each value of that kind is
written in one way.

Results:
1. `asText_eq_ok_iff`, `asWord64_eq_ok_iff`, `asTexts_eq_ok_iff`, `optional_asWord64_eq_ok_iff`: a
   reader finds exactly what was written.
2. `exists_asText_iff`, `exists_asWord64_iff`, `exists_asTexts_iff`, `exists_mapM_asItems_iff`,
   `exists_optional_asWord64_iff`: a reader finds something exactly in the values of its kind.
-/

namespace TransferHistory.Json

/-- A text. -/
inductive IsText : Json → Prop
  | string (text : String) : IsText (.string text)

/-- An integer without a sign that 64 bits hold. A binary number is none, whatever its value. -/
inductive IsWord64 : Json → Prop
  | int (n : Nat) (below : n < values64) : IsWord64 (.number (.int n))

/-- An array with every item of a kind. -/
inductive IsListOf (kind : Json → Prop) : Json → Prop
  | array {items : List Json} (each : ∀ item ∈ items, kind item) : IsListOf kind (.array items)

theorem asText_eq_ok_iff {value : Json} {text : String} :
    value.asText = .ok text ↔ value = .string text := by
  cases value <;> simp [asText]

theorem asItems_eq_ok_iff {value : Json} {items : List Json} :
    value.asItems = .ok items ↔ value = .array items := by
  cases value <;> simp [asItems]

theorem asBelow_eq_ok_iff {bound n : Nat} {expected : Expected} {value : Json} :
    asBelow bound expected value = .ok n ↔ n < bound ∧ value = .ofNat n := by
  constructor
  · intro read
    unfold asBelow at read
    split at read
    · rename_i k
      split at read
      · rename_i range
        cases read
        refine ⟨by omega, ?_⟩
        rw [ofNat, Int.toNat_of_nonneg range.1]
      · cases read
    · cases read
  · rintro ⟨below, rfl⟩
    exact asBelow_ofNat below expected

theorem asWord64_eq_ok_iff {value : Json} {n : UInt64} :
    value.asWord64 = .ok n ↔ value = .ofWord64 n := by
  constructor
  · intro read
    unfold asWord64 at read
    cases found : asBelow values64 .word64 value with
    | error cause =>
        rw [found] at read
        cases read
    | ok k =>
        rw [found] at read
        cases read
        obtain ⟨below, rfl⟩ := asBelow_eq_ok_iff.mp found
        rw [ofWord64, UInt64.toNat_ofNat_of_lt' below]
  · rintro rfl
    exact asWord64_ofWord64 n

theorem asTexts_eq_ok_iff {value : Json} {texts : List String} :
    value.asTexts = .ok texts ↔ value = .ofStrings texts := by
  constructor
  · intro read
    obtain ⟨items, found, read⟩ := bind_eq_ok_iff.mp read
    rw [mapM_eq_ok_iff_forall₂] at read
    simp only [asText_eq_ok_iff] at read
    rw [← List.forall₂_map_right_iff, List.forall₂_eq_eq_eq] at read
    rw [asItems_eq_ok_iff.mp found, ofStrings, read]
  · rintro rfl
    exact asTexts_ofStrings texts

theorem optional_asWord64_eq_ok_iff {value : Json} {number : Option UInt64} :
    optional asWord64 value = .ok number ↔ value = (number.map .ofWord64).getD .null := by
  constructor
  · intro read
    unfold optional at read
    split at read
    · cases read
      rfl
    · cases found : asWord64 value with
      | error cause =>
          rw [found] at read
          cases read
      | ok n =>
          rw [found] at read
          cases read
          exact asWord64_eq_ok_iff.mp found
  · rintro rfl
    cases number with
    | none => rfl
    | some n => exact optional_asWord64_ofWord64 n

/-! ## Values that a reader takes -/

theorem exists_asText_iff {value : Json} : (∃ text, value.asText = .ok text) ↔ value.IsText := by
  simp only [asText_eq_ok_iff]
  constructor
  · rintro ⟨text, rfl⟩
    exact .string text
  · rintro ⟨text⟩
    exact ⟨text, rfl⟩

theorem exists_asWord64_iff {value : Json} :
    (∃ n, value.asWord64 = .ok n) ↔ value.IsWord64 := by
  simp only [asWord64_eq_ok_iff]
  constructor
  · rintro ⟨n, rfl⟩
    exact .int n.toNat (toNat_lt_values64 n)
  · rintro ⟨n, below⟩
    exact ⟨.ofNat n, by rw [ofWord64, UInt64.toNat_ofNat_of_lt' below, ofNat]⟩

theorem exists_mapM_asItems_iff {ε : Type} {read : Json → Except Mismatch ε}
    {kind : Json → Prop} {value : Json}
    (one : ∀ items, value = .array items →
      ∀ item ∈ items, (∃ result, read item = .ok result) ↔ kind item) :
    (∃ results, (do (← value.asItems).mapM read) = .ok results) ↔ value.IsListOf kind := by
  simp only [bind_eq_ok_iff, asItems_eq_ok_iff]
  constructor
  · rintro ⟨results, items, rfl, wentWell⟩
    have each := exists_mapM_eq_ok_iff.mp ⟨results, wentWell⟩
    exact .array fun item present => (one items rfl item present).mp (each item present)
  · rintro ⟨each⟩
    rename_i items
    have wentWell := exists_mapM_eq_ok_iff.mpr fun item present =>
      (one items rfl item present).mpr (each item present)
    obtain ⟨results, wentWell⟩ := wentWell
    exact ⟨results, items, rfl, wentWell⟩

theorem exists_asTexts_iff {value : Json} :
    (∃ texts, value.asTexts = .ok texts) ↔ value.IsListOf IsText :=
  exists_mapM_asItems_iff fun _ _ _ _ => exists_asText_iff

theorem exists_optional_asWord64_iff {value : Json} :
    (∃ number, optional asWord64 value = .ok number) ↔ value = .null ∨ value.IsWord64 := by
  rw [← exists_asWord64_iff]
  simp only [optional_asWord64_eq_ok_iff, asWord64_eq_ok_iff, Option.exists]
  exact Iff.rfl

end TransferHistory.Json
