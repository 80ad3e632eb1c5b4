/-!
# Ordered name lists

Values under names, in the order in which the names first came. This is how the service keeps query
parameters, JSON objects and settings. No name comes twice (`Distinct`); every operation keeps that,
and each is stated on the list alone:

- `set` gives a present name a new value in place and puts a new name at the end;
- `takeOut` removes a name and moves the last entry into the gap;
- `fill` adds only the entries whose names are missing.
-/

namespace TransferHistory

/-- Values under names, in order. -/
abbrev Ordered (α : Type) := List (String × α)

namespace Ordered

variable {α : Type}

/-- The value under a name. -/
def get? (name : String) : Ordered α → Option α
  | [] => none
  | (n, v) :: rest => if n = name then some v else get? name rest

/-- The names, in order. -/
def names (entries : Ordered α) : List String :=
  entries.map Prod.fst

/-- A name gets a value: in place where it is present, at the end where it is new. -/
def set (name : String) (value : α) : Ordered α → Ordered α
  | [] => [(name, value)]
  | (n, v) :: rest => if n = name then (n, value) :: rest else (n, v) :: set name value rest

/-- Every pair set in turn, so that a name keeps its first place and its last value. -/
def setAll (entries : Ordered α) (pairs : List (String × α)) : Ordered α :=
  pairs.foldl (fun entries pair => set pair.1 pair.2 entries) entries

/-- The entries of a list of pairs, in which names may repeat. -/
def ofPairs (pairs : List (String × α)) : Ordered α :=
  setAll [] pairs

/-- The entries before a name, and those after it where it is present. -/
def breakAt (name : String) : Ordered α → Ordered α × Option (Ordered α)
  | [] => ([], none)
  | (n, v) :: rest =>
      if n = name then ([], some rest)
      else
        let (before, after) := breakAt name rest
        ((n, v) :: before, after)

/-- A name removed; the last entry moves into the gap. -/
def takeOut (name : String) (entries : Ordered α) : Ordered α :=
  match breakAt name entries with
  | (before, none) => before
  | (before, some after) =>
      match after.getLast? with
      | none => before
      | some last => before ++ last :: after.dropLast

/-- The entries, followed by those of `more` whose names are missing. -/
def fill (entries more : Ordered α) : Ordered α :=
  more.foldl
    (fun entries pair => if (get? pair.1 entries).isSome then entries else entries ++ [pair])
    entries

/-- No name comes twice. -/
def Distinct (entries : Ordered α) : Prop :=
  (names entries).Nodup

theorem get?_set_self (name : String) (value : α) (entries : Ordered α) :
    get? name (set name value entries) = some value := by
  induction entries with
  | nil => simp [set, get?]
  | cons entry rest ih =>
      obtain ⟨n, v⟩ := entry
      by_cases h : n = name <;> simp [set, get?, h, ih]

theorem get?_set_of_ne {name other : String} (ne : other ≠ name) (value : α)
    (entries : Ordered α) : get? other (set name value entries) = get? other entries := by
  induction entries with
  | nil => simp [set, get?, Ne.symm ne]
  | cons entry rest ih =>
      obtain ⟨n, v⟩ := entry
      by_cases h : n = name
      · subst h
        simp [set, get?, Ne.symm ne]
      · simp [set, get?, h, ih]

theorem mem_names_set {name other : String} {value : α} {entries : Ordered α} :
    other ∈ names (set name value entries) ↔ other = name ∨ other ∈ names entries := by
  induction entries with
  | nil => simp [set, names]
  | cons entry rest ih =>
      obtain ⟨n, v⟩ := entry
      by_cases h : n = name
      · subst h
        simp [set, names]
      · simp only [names] at ih ⊢
        simp only [set, h, if_false, List.map_cons, List.mem_cons, ih]
        constructor <;> rintro (rfl | rfl | known) <;> simp_all

/-- Setting a name keeps the names distinct. -/
theorem distinct_set {name : String} {value : α} {entries : Ordered α}
    (distinct : Distinct entries) : Distinct (set name value entries) := by
  induction entries with
  | nil => simp [set, Distinct, names]
  | cons entry rest ih =>
      obtain ⟨n, v⟩ := entry
      simp only [Distinct, names, List.map_cons, List.nodup_cons] at distinct
      by_cases h : n = name
      · simpa [set, h, Distinct, names] using distinct
      · have known : n ∉ names (set name value rest) := by
          rw [mem_names_set]
          rintro (same | inRest)
          · exact h same
          · exact distinct.1 inRest
        simp only [set, h, if_false, Distinct, names, List.map_cons, List.nodup_cons]
        exact ⟨known, ih distinct.2⟩

/-- Setting many names keeps the names distinct. -/
theorem distinct_setAll {entries : Ordered α} {pairs : List (String × α)}
    (distinct : Distinct entries) : Distinct (setAll entries pairs) := by
  induction pairs generalizing entries with
  | nil => exact distinct
  | cons pair rest ih => exact ih (distinct_set distinct)

theorem distinct_ofPairs (pairs : List (String × α)) : Distinct (ofPairs pairs) :=
  distinct_setAll (by simp [Distinct, names])

theorem breakAt_eq_of_get?_eq_none {name : String} {entries : Ordered α}
    (absent : get? name entries = none) : breakAt name entries = (entries, none) := by
  induction entries with
  | nil => rfl
  | cons entry rest ih =>
      obtain ⟨n, v⟩ := entry
      by_cases h : n = name
      · simp [get?, h] at absent
      · simp only [get?, h, if_false] at absent
        simp [breakAt, h, ih absent]

/-- Removing a missing name changes nothing. -/
theorem takeOut_of_get?_eq_none {name : String} {entries : Ordered α}
    (absent : get? name entries = none) : takeOut name entries = entries := by
  simp [takeOut, breakAt_eq_of_get?_eq_none absent]

end Ordered

end TransferHistory
