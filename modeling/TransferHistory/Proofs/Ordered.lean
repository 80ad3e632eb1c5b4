import Mathlib.Data.List.Nodup
import TransferHistory.Ordered
import TransferHistory.Proofs.Result

/-!
# Laws of ordered name lists

What `get?`, `set` and `takeOut` do to the names and entries of a list.

Results:
1. `set_of_not_mem`, `set_of_get?`: a new name comes last, and setting a value that is there changes
   nothing.
2. `filter_set`: setting a name outside a selection of names leaves the selected entries alone.
3. `get?_perm`, `get?_map`: where names are distinct, their order does not matter to looking them up, and
   neither do changes to other names.
4. `perm_takeOut`, `get?_takeOut_of_ne`: taking a name out removes its first entry and no other one.
5. `fill_eq`: the entries that are filled in come last, in their own order.
6. `foldlM_field`: what reading the entries one by one leaves in a field.
7. `Beside`: entries with distinct names, none of them reserved; `set` and `takeOut` keep that.
-/

namespace TransferHistory.Ordered

variable {α : Type} {name : String} {value : α} {entries : Ordered α}

theorem get?_eq_none_iff : get? name entries = none ↔ name ∉ names entries := by
  induction entries with
  | nil => simp [get?, names]
  | cons entry rest ih =>
      obtain ⟨n, v⟩ := entry
      simp only [names] at ih ⊢
      by_cases h : n = name
      · simp [get?, h]
      · simp [get?, h, ih, Ne.symm h]

/-- A new name goes to the end. -/
theorem set_of_not_mem (absent : name ∉ names entries) :
    set name value entries = entries ++ [(name, value)] := by
  induction entries with
  | nil => rfl
  | cons entry rest ih =>
      obtain ⟨n, v⟩ := entry
      simp only [names, List.map_cons, List.mem_cons, not_or] at absent
      simp [set, Ne.symm absent.1, ih absent.2]

/-- Setting the value that a name already has changes nothing. -/
theorem set_of_get? (found : get? name entries = some value) :
    set name value entries = entries := by
  induction entries with
  | nil => simp [get?] at found
  | cons entry rest ih =>
      obtain ⟨n, v⟩ := entry
      by_cases h : n = name
      · simp only [get?, h, if_true, Option.some.injEq] at found
        simp [set, h, found]
      · simp only [get?, h, if_false] at found
        simp [set, h, ih found]

theorem mem_of_mem_set {entry : String × α} (present : entry ∈ set name value entries) :
    entry = (name, value) ∨ entry ∈ entries := by
  induction entries with
  | nil => exact Or.inl (List.mem_singleton.mp present)
  | cons head rest ih =>
      obtain ⟨n, v⟩ := head
      by_cases h : n = name
      · subst h
        simp only [set, if_true, List.mem_cons] at present ⊢
        exact present.imp_right Or.inr
      · simp only [set, h, if_false, List.mem_cons] at present ⊢
        rcases present with same | later
        · exact Or.inr (Or.inl same)
        · exact (ih later).imp_right Or.inr

/-- Setting pairs in turn brings no other entries. -/
theorem mem_of_mem_setAll {pairs : List (String × α)} {entry : String × α}
    (present : entry ∈ setAll entries pairs) : entry ∈ entries ∨ entry ∈ pairs := by
  induction pairs generalizing entries with
  | nil => exact Or.inl present
  | cons pair rest ih =>
      rcases ih present with set | later
      · rcases mem_of_mem_set set with rfl | known
        · exact Or.inr List.mem_cons_self
        · exact Or.inl known
      · exact Or.inr (List.mem_cons_of_mem _ later)

/-- Entries that are selected by their names do not change when another name gets a value. -/
theorem filter_set (selected : String → Bool) (left : selected name = false) :
    (set name value entries).filter (fun entry => selected entry.1) =
      entries.filter fun entry => selected entry.1 := by
  induction entries with
  | nil => simp [set, left]
  | cons entry rest ih =>
      obtain ⟨n, v⟩ := entry
      by_cases h : n = name
      · subst h
        simp [set, left]
      · simp [set, h, List.filter_cons, ih]

/-! ## Names in another order -/

theorem mem_of_get? (found : get? name entries = some value) : (name, value) ∈ entries := by
  induction entries with
  | nil => simp [get?] at found
  | cons entry rest ih =>
      obtain ⟨n, v⟩ := entry
      by_cases h : n = name
      · simp only [get?, h, if_true, Option.some.injEq] at found
        simp [h, found]
      · simp only [get?, h, if_false] at found
        exact List.mem_cons_of_mem _ (ih found)

/-- Where names are distinct, a name has the value of its only entry. -/
theorem get?_eq_some_iff (distinct : Distinct entries) :
    get? name entries = some value ↔ (name, value) ∈ entries := by
  refine ⟨mem_of_get?, ?_⟩
  intro present
  have known : name ∈ names entries := List.mem_map_of_mem present
  cases found : get? name entries with
  | none => exact absurd known (get?_eq_none_iff.mp found)
  | some other =>
      have same := List.inj_on_of_nodup_map distinct (mem_of_get? found) present rfl
      rw [(Prod.mk.inj same).2]

/-- The order of distinct names does not matter to looking them up. -/
theorem get?_perm {others : Ordered α} (distinct : Distinct entries) (perm : entries.Perm others)
    (name : String) : get? name entries = get? name others := by
  have distinctOthers : Distinct others := (perm.map Prod.fst).nodup_iff.mp distinct
  apply Option.ext
  intro value
  rw [get?_eq_some_iff distinct, get?_eq_some_iff distinctOthers]
  exact perm.mem_iff

/-- Other names are looked up past an entry. -/
theorem get?_append_cons_of_ne {before after : Ordered α} {other : String} (ne : other ≠ name)
    (value : α) :
    get? other (before ++ (name, value) :: after) = get? other (before ++ after) := by
  induction before with
  | nil => simp [get?, Ne.symm ne]
  | cons entry rest ih =>
      obtain ⟨n, v⟩ := entry
      simp only [List.cons_append, get?, ih]

/-- A name is looked up among changed entries as it was before, if no other name becomes it. -/
theorem get?_map {β : Type} {change : String × α → String × β} {changeValue : α → β}
    (names : ∀ entry, (change entry).1 = name ↔ entry.1 = name)
    (values : ∀ entry, entry.1 = name → (change entry).2 = changeValue entry.2)
    (entries : Ordered α) :
    get? name (entries.map change) = (get? name entries).map changeValue := by
  induction entries with
  | nil => rfl
  | cons entry rest ih =>
      rw [List.map_cons]
      by_cases h : entry.1 = name
      · have there : (change entry).1 = name := (names entry).mpr h
        show (if (change entry).1 = name then some (change entry).2 else get? name (rest.map change)) =
          (if entry.1 = name then some entry.2 else get? name rest).map changeValue
        rw [if_pos there, if_pos h, values entry h, Option.map_some]
      · have apart : ¬ (change entry).1 = name := fun same => h ((names entry).mp same)
        show (if (change entry).1 = name then some (change entry).2 else get? name (rest.map change)) =
          (if entry.1 = name then some entry.2 else get? name rest).map changeValue
        rw [if_neg apart, if_neg h, ih]

/-! ## Taking a name out -/

/-- A name that is present breaks the list at its first entry. -/
theorem breakAt_of_get? (found : get? name entries = some value) :
    ∃ before after, breakAt name entries = (before, some after) ∧
      entries = before ++ (name, value) :: after := by
  induction entries with
  | nil => simp [get?] at found
  | cons entry rest ih =>
      obtain ⟨n, v⟩ := entry
      by_cases h : n = name
      · simp only [get?, h, if_true, Option.some.injEq] at found
        exact ⟨[], rest, by simp [breakAt, h], by simp [h, found]⟩
      · simp only [get?, h, if_false] at found
        obtain ⟨before, after, broken, whole⟩ := ih found
        exact ⟨(n, v) :: before, after, by simp [breakAt, h, broken], by simp [whole]⟩

/-- Taking a name out removes its entry and only moves the others. -/
theorem perm_takeOut (found : get? name entries = some value) :
    ((name, value) :: takeOut name entries).Perm entries := by
  obtain ⟨before, after, broken, whole⟩ := breakAt_of_get? found
  subst whole
  refine List.Perm.trans (List.Perm.cons _ ?_) List.perm_middle.symm
  simp only [takeOut, broken]
  -- What follows the gap loses its last entry, and that entry fills the gap.
  cases last : after.getLast? with
  | none =>
      rw [List.getLast?_eq_none_iff.mp last, List.append_nil]
  | some entry =>
      obtain ⟨front, rfl⟩ := List.getLast?_eq_some_iff.mp last
      rw [List.dropLast_concat]
      exact List.Perm.append_left before (List.perm_append_singleton entry front).symm

theorem names_takeOut_perm (found : get? name entries = some value) :
    (name :: names (takeOut name entries)).Perm (names entries) :=
  (perm_takeOut found).map Prod.fst

example : takeOut "a" [("a", 1), ("b", 2), ("c", 3)] = [("c", 3), ("b", 2)] := by decide +kernel

theorem not_mem_names_takeOut (distinct : Distinct entries) : name ∉ names (takeOut name entries) := by
  cases found : get? name entries with
  | none =>
      rw [takeOut_of_get?_eq_none found]
      exact get?_eq_none_iff.mp found
  | some value =>
      have nodup := (names_takeOut_perm found).nodup_iff.mpr distinct
      exact (List.nodup_cons.mp nodup).1

theorem distinct_takeOut (distinct : Distinct entries) : Distinct (takeOut name entries) := by
  cases found : get? name entries with
  | none => rwa [takeOut_of_get?_eq_none found]
  | some value =>
      have nodup := (names_takeOut_perm found).nodup_iff.mpr distinct
      exact (List.nodup_cons.mp nodup).2

theorem mem_names_of_mem_takeOut {other : String} (present : other ∈ names (takeOut name entries)) :
    other ∈ names entries := by
  cases found : get? name entries with
  | none => rwa [takeOut_of_get?_eq_none found] at present
  | some value => exact (names_takeOut_perm found).subset (List.mem_cons_of_mem _ present)

/-- Taking a name out leaves the values under the other names alone. -/
theorem get?_takeOut_of_ne (distinct : Distinct entries) {other : String} (ne : other ≠ name) :
    get? other (takeOut name entries) = get? other entries := by
  cases found : get? name entries with
  | none => rw [takeOut_of_get?_eq_none found]
  | some value =>
      have moved := perm_takeOut found
      have again : Distinct ((name, value) :: takeOut name entries) :=
        (moved.map Prod.fst).nodup_iff.mpr distinct
      rw [← get?_perm again moved, get?, if_neg (Ne.symm ne)]

/-! ## Filling in -/

theorem fill_cons_of_mem {pair : String × α} (known : pair.1 ∈ names entries)
    (rest : Ordered α) : fill entries (pair :: rest) = fill entries rest := by
  have found : get? pair.1 entries ≠ none := fun absent => get?_eq_none_iff.mp absent known
  rw [fill, List.foldl_cons, if_pos (Option.isSome_iff_ne_none.mpr found)]
  rfl

theorem fill_cons_of_not_mem {pair : String × α} (missing : pair.1 ∉ names entries)
    (rest : Ordered α) : fill entries (pair :: rest) = fill (entries ++ [pair]) rest := by
  rw [fill, List.foldl_cons, get?_eq_none_iff.mpr missing]
  rfl

/-- Filling in adds the entries whose names are missing, in their order, behind those that are there. -/
theorem fill_eq {more : Ordered α} (distinct : Distinct more) (entries : Ordered α) :
    fill entries more = entries ++ more.filter fun entry => entry.1 ∉ names entries := by
  induction more generalizing entries with
  | nil => exact (List.append_nil entries).symm
  | cons pair rest ih =>
      obtain ⟨apart, distinct⟩ := List.nodup_cons.mp distinct
      by_cases known : pair.1 ∈ names entries
      · rw [fill_cons_of_mem known, ih distinct, List.filter_cons_of_neg (by simpa using known)]
      · -- The pair that is added hides none of the others, because its name comes only once.
        have others : (rest.filter fun entry => entry.1 ∉ names (entries ++ [pair])) =
            rest.filter fun entry => entry.1 ∉ names entries := by
          apply List.filter_congr
          intro entry present
          have ne : entry.1 ≠ pair.1 := fun same => apart (same ▸ List.mem_map_of_mem present)
          have same : entry.1 ∉ names (entries ++ [pair]) ↔ entry.1 ∉ names entries := by
            simp [names, ne]
          exact decide_eq_decide.mpr same
        rw [fill_cons_of_not_mem known, ih distinct, others,
          List.filter_cons_of_pos (by simpa using known), List.append_assoc, List.singleton_append]

example : fill [("a", 1)] [("a", 2), ("b", 3)] = [("a", 1), ("b", 3)] := by decide +kernel

/-! ## Reading entry by entry

A field of what is read follows the one entry with its name: that entry gives it, and no other one
touches it. -/

/-- What a run leaves in a field, from what one step does to it. -/
theorem foldlM_field {ε Draft Field : Type} {read : Draft → String × α → Except ε Draft}
    (field : Draft → Field) (gives : α → Field → Prop)
    (step : ∀ {before after : Draft} {other : String} {value : α},
      read before (other, value) = .ok after →
      if other = name then gives value (field after) else field after = field before)
    (distinct : Distinct entries) {start draft : Draft}
    (wentWell : entries.foldlM read start = .ok draft) :
    (∀ value, get? name entries = some value → gives value (field draft)) ∧
      (get? name entries = none → field draft = field start) := by
  induction entries generalizing start with
  | nil =>
      cases wentWell
      exact ⟨fun _ found => (nomatch found), fun _ => rfl⟩
  | cons entry rest ih =>
      obtain ⟨other, value⟩ := entry
      rw [List.foldlM_cons] at wentWell
      obtain ⟨next, head, tail⟩ := bind_eq_ok_iff.mp wentWell
      obtain ⟨new, distinct⟩ := List.nodup_cons.mp distinct
      have first := step head
      have ⟨present, absent⟩ := ih distinct tail
      by_cases same : other = name
      · -- The name comes no second time, so the rest leaves the field as this entry set it.
        subst same
        rw [if_pos rfl] at first
        have kept := absent (get?_eq_none_iff.mpr new)
        simp only [get?, if_true, Option.some.injEq, reduceCtorEq, false_imp_iff, and_true]
        rintro _ rfl
        rw [kept]
        exact first
      · rw [if_neg same] at first
        simp only [get?, same, if_false]
        exact ⟨present, fun missing => (absent missing).trans first⟩

/-! ## Reserved names -/

/-- Entries with distinct names, none of which is reserved. -/
structure Beside (reserved : List String) (entries : Ordered α) : Prop where
  distinct : Distinct entries
  apart : ∀ name ∈ names entries, name ∉ reserved

namespace Beside

variable {reserved : List String}

theorem nil : Beside reserved ([] : Ordered α) :=
  ⟨by simp [Distinct, names], by simp [names]⟩

theorem set (beside : Beside reserved entries) (free : name ∉ reserved) (value : α) :
    Beside reserved (Ordered.set name value entries) := by
  refine ⟨distinct_set beside.distinct, ?_⟩
  intro other present
  rcases mem_names_set.mp present with same | known
  · subst same
    exact free
  · exact beside.apart other known

theorem takeOut (beside : Beside reserved entries) (name : String) :
    Beside reserved (Ordered.takeOut name entries) :=
  ⟨distinct_takeOut beside.distinct,
    fun other present => beside.apart other (mem_names_of_mem_takeOut present)⟩

/-- Behind entries under reserved names they repeat no name. -/
theorem distinct_append {front : Ordered α} (beside : Beside reserved entries)
    (distinct : Distinct front) (within : ∀ name ∈ names front, name ∈ reserved) :
    Distinct (front ++ entries) := by
  simp only [Distinct, names, List.map_append, List.nodup_append] at *
  refine ⟨distinct, beside.distinct, ?_⟩
  intro known first other second same
  subst same
  exact beside.apart known second (within known first)

end Beside

end TransferHistory.Ordered
