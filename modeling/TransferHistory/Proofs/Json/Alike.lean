import Mathlib.Data.List.Forall2
import TransferHistory.Json.Basic
import TransferHistory.Proofs.Ordered

/-!
# Values up to the order of members

The order in which an object holds its members is kept, but two objects with the same members in a
different order are equal as values of JSON. `Json.Alike` is this coarser equality.

Results:
1. `Json.Alike.refl`, `Json.Alike.of_perm`: equal values are alike, and so are objects with the same
   members in another order.
2. `Json.Alike.get?`: a member has alike values in alike objects.
3. `Json.Alike.eq_single`: an object with one member is alike only to objects with one member of
   that name.
-/

namespace TransferHistory.Json

/-- Two values are equal but for the order of the members of their objects. -/
inductive Alike : Json → Json → Prop
  | null : Alike .null .null
  | bool (value : Bool) : Alike (.bool value) (.bool value)
  | number (value : Json.Number) : Alike (.number value) (.number value)
  | string (value : String) : Alike (.string value) (.string value)
  | array {items others : List Json} (each : List.Forall₂ Alike items others) :
      Alike (.array items) (.array others)
  | object {members others : Members} (size : members.length = others.length)
      (names : ∀ name, (members.get? name).isSome = (others.get? name).isSome)
      (each : ∀ name value other, members.get? name = some value →
        others.get? name = some other → Alike value other) :
      Alike (.object members) (.object others)

namespace Alike

mutual

/-- A value is alike to itself. -/
theorem refl : (value : Json) → Alike value value
  | .null => .null
  | .bool value => .bool value
  | .number value => .number value
  | .string value => .string value
  | .array items => .array (refl_items items)
  | .object members => by
      refine .object rfl (fun _ => rfl) ?_
      intro name value other found again
      rw [found] at again
      cases again
      exact refl_member members found

theorem refl_items : (items : List Json) → List.Forall₂ Alike items items
  | [] => .nil
  | item :: rest => .cons (refl item) (refl_items rest)

theorem refl_member : (members : List (String × Json)) → {name : String} → {value : Json} →
    Ordered.get? name members = some value → Alike value value
  | [], _, _, found => by simp [Ordered.get?] at found
  | (n, v) :: rest, name, value, found => by
      by_cases h : n = name
      · simp only [Ordered.get?, h, if_true, Option.some.injEq] at found
        exact found ▸ refl v
      · simp only [Ordered.get?, h, if_false] at found
        exact refl_member rest found

end

variable {value other : Json}

/-- Alike values have alike members under every name. -/
theorem get? (alike : Alike value other) (name : String) {member : Json}
    (found : value.get? name = some member) :
    ∃ counterpart, other.get? name = some counterpart ∧ Alike member counterpart := by
  cases alike with
  | @object members others size names each =>
      have known : (others.get? name).isSome := by
        rw [← names name, show members.get? name = some member from found]
        rfl
      obtain ⟨counterpart, known⟩ := Option.isSome_iff_exists.mp known
      exact ⟨counterpart, known, each name member counterpart found known⟩
  | _ => cases found

theorem get?_eq_none (alike : Alike value other) (name : String)
    (missing : value.get? name = none) : other.get? name = none := by
  cases alike with
  | @object members others size names each =>
      have absent : ¬ (others.get? name).isSome := by
        rw [← names name, show members.get? name = none from missing]
        exact Bool.false_ne_true
      exact Option.not_isSome_iff_eq_none.mp absent
  | _ => rfl

/-- An object with one member is alike only to objects with one member of that name. -/
theorem eq_single {name : String} {member : Json}
    (alike : Alike (.object [(name, member)]) other) :
    ∃ counterpart, other = .object [(name, counterpart)] ∧ Alike member counterpart := by
  obtain ⟨counterpart, found, same⟩ := alike.get? name (if_pos rfl)
  cases alike with
  | @object _ others size names each =>
      obtain ⟨⟨known, only⟩, rfl⟩ := List.length_eq_one_iff.mp size.symm
      by_cases h : known = name
      · simp only [Json.get?, Ordered.get?, h, if_true, Option.some.injEq] at found
        exact ⟨counterpart, by rw [h, found], same⟩
      · simp [Json.get?, Ordered.get?, h] at found

/-- An array is alike only to arrays with alike items in the same order. -/
theorem eq_array {items : List Json} (alike : Alike (.array items) other) :
    ∃ others, other = .array others ∧ List.Forall₂ Alike items others := by
  cases alike with
  | array each => exact ⟨_, rfl, each⟩

/-- Objects with the same members in another order are alike. -/
theorem of_perm {members others : Members} (distinct : Ordered.Distinct members)
    (perm : members.Perm others) : Alike (.object members) (.object others) := by
  have same := Ordered.get?_perm distinct perm
  refine .object perm.length_eq (fun name => by rw [same name]) ?_
  intro name value other found again
  rw [same name, again] at found
  cases found
  exact refl value

end Alike

end TransferHistory.Json
