import Mathlib.Data.Finset.Card
import TransferHistory.Proofs.Ordered

/-!
# Collecting pairs

Pairs whose names may repeat, collected into an ordered list: each name stays where it first came, with
the value that came last. A list that was collected stands for all the pairs it was collected from, so
it does not matter whether they are set one by one or collected before.

Results:
1. `set_set`, `set_comm`: a name that is set again, and two names of which one is there already.
2. `setAll_ofPairs`: setting pairs that were collected is setting the pairs.
3. `names_ofPairs`, `mem_ofPairs_iff`, `length_ofPairs`: the entries that pairs are collected into.
4. `ofPairs_of_distinct`: pairs with distinct names are collected as they stand.
-/

namespace TransferHistory.Ordered

variable {α : Type} {name : String} {value : α} {entries : Ordered α}

/-! ## Names that are set again -/

theorem set_set (name : String) (first second : α) (entries : Ordered α) :
    set name second (set name first entries) = set name second entries := by
  induction entries with
  | nil => simp [set]
  | cons entry rest ih =>
      obtain ⟨n, v⟩ := entry
      by_cases h : n = name
      · simp [set, h]
      · simp [set, h, ih]

/-- Two names may be set in either order if the first one has its place already. -/
theorem set_comm {other : String} (ne : name ≠ other) (known : name ∈ names entries)
    (value : α) (otherValue : α) :
    set name value (set other otherValue entries) =
      set other otherValue (set name value entries) := by
  induction entries with
  | nil => exact absurd known List.not_mem_nil
  | cons entry rest ih =>
      obtain ⟨n, v⟩ := entry
      by_cases h : n = name
      · subst h
        simp [set, ne]
      · have later : name ∈ names rest := (List.mem_cons.mp known).resolve_left (Ne.symm h)
        by_cases same : n = other
        · subst same
          simp [set, Ne.symm ne]
        · simp [set, h, same, ih later]

/-! ## Setting collected pairs -/

theorem setAll_append (entries : Ordered α) (front rest : List (String × α)) :
    setAll entries (front ++ rest) = setAll (setAll entries front) rest :=
  List.foldl_append

theorem setAll_concat (entries : Ordered α) (front : List (String × α)) (name : String)
    (value : α) :
    setAll entries (front ++ [(name, value)]) = set name value (setAll entries front) :=
  setAll_append entries front [(name, value)]

theorem ofPairs_concat (front : List (String × α)) (name : String) (value : α) :
    ofPairs (front ++ [(name, value)]) = set name value (ofPairs front) :=
  setAll_concat [] front name value

theorem ofPairs_append (front rest : List (String × α)) :
    ofPairs (front ++ rest) = setAll (ofPairs front) rest :=
  setAll_append [] front rest

/-- A name that has its place can be set before other names are. -/
theorem set_setAll {pairs : List (String × α)} (apart : name ∉ names pairs)
    (known : name ∈ names entries) (value : α) :
    set name value (setAll entries pairs) = setAll (set name value entries) pairs := by
  induction pairs generalizing entries with
  | nil => rfl
  | cons pair rest ih =>
      obtain ⟨other, otherValue⟩ := pair
      obtain ⟨ne, later⟩ := not_or.mp fun present => apart (List.mem_cons.mpr present)
      have there : name ∈ names (set other otherValue entries) := mem_names_set.mpr (Or.inr known)
      show set name value (setAll (set other otherValue entries) rest) =
        setAll (set other otherValue (set name value entries)) rest
      rw [ih later there, set_comm ne known]

/-- Setting a name in pairs that are to be set is setting it behind them. -/
theorem setAll_set {pairs : Ordered α} (distinct : Distinct pairs) (entries : Ordered α)
    (name : String) (value : α) :
    setAll entries (set name value pairs) = set name value (setAll entries pairs) := by
  induction pairs generalizing entries with
  | nil => rfl
  | cons pair rest ih =>
      obtain ⟨n, v⟩ := pair
      obtain ⟨apart, others⟩ := List.nodup_cons.mp distinct
      by_cases h : n = name
      · -- The value that is replaced was set first, and nothing behind it has that name.
        subst h
        have there : n ∈ names (set n v entries) := mem_names_set.mpr (Or.inl rfl)
        have replaced : set n value ((n, v) :: rest) = (n, value) :: rest := if_pos rfl
        show setAll entries (set n value ((n, v) :: rest)) =
          set n value (setAll (set n v entries) rest)
        rw [replaced, set_setAll apart there, set_set]
        rfl
      · have kept : set name value ((n, v) :: rest) = (n, v) :: set name value rest := if_neg h
        rw [kept]
        exact ih others (set n v entries)

/-- Pairs may be collected before they are set. -/
theorem setAll_ofPairs (entries : Ordered α) (pairs : List (String × α)) :
    setAll entries (ofPairs pairs) = setAll entries pairs := by
  induction pairs using List.reverseRecOn with
  | nil => rfl
  | append_singleton front pair ih =>
      obtain ⟨name, value⟩ := pair
      rw [ofPairs_concat, setAll_set (distinct_ofPairs front), ih, setAll_concat]

/-! ## The entries of collected pairs -/

theorem names_set_of_mem (known : name ∈ names entries) (value : α) :
    names (set name value entries) = names entries := by
  induction entries with
  | nil => exact absurd known List.not_mem_nil
  | cons entry rest ih =>
      obtain ⟨n, v⟩ := entry
      by_cases h : n = name
      · simp [set, names, h]
      · have later : name ∈ names rest := (List.mem_cons.mp known).resolve_left (Ne.symm h)
        have kept : set name value ((n, v) :: rest) = (n, v) :: set name value rest := if_neg h
        show names (set name value ((n, v) :: rest)) = n :: names rest
        rw [kept, ← ih later]
        rfl

theorem names_concat (front : List (String × α)) (name : String) (value : α) :
    names (front ++ [(name, value)]) = names front ++ [name] :=
  List.map_append

/-- The names of collected pairs, each where it first came. -/
theorem names_ofPairs (pairs : List (String × α)) :
    names (ofPairs pairs) = (names pairs).eraseDups := by
  -- From the end, because the last pair is the one that is set into all the others.
  induction pairs using List.reverseRecOn with
  | nil => rfl
  | append_singleton front pair ih =>
      obtain ⟨name, value⟩ := pair
      rw [ofPairs_concat, names_concat, List.eraseDups_append, ← ih]
      have there : name ∈ names (ofPairs front) ↔ name ∈ names front := by
        rw [ih, List.mem_eraseDups]
      by_cases known : name ∈ names front
      · rw [names_set_of_mem (there.mpr known)]
        simp [known, List.removeAll]
      · rw [set_of_not_mem (mt there.mp known), names_concat]
        simp [known, List.removeAll, List.eraseDups_cons]

/-- A name is looked up at the first of its entries. -/
theorem get?_eq_some_iff_first :
    get? name entries = some value ↔
      ∃ before after, entries = before ++ (name, value) :: after ∧ name ∉ names before := by
  induction entries with
  | nil => simp [get?]
  | cons entry rest ih =>
      obtain ⟨n, v⟩ := entry
      by_cases h : n = name
      · subst h
        rw [get?, if_pos rfl, Option.some.injEq]
        constructor
        · rintro rfl
          exact ⟨[], rest, rfl, List.not_mem_nil⟩
        · rintro ⟨before, after, whole, apart⟩
          cases before with
          | nil =>
              cases whole
              rfl
          | cons first others =>
              cases whole
              exact absurd List.mem_cons_self apart
      · rw [get?, if_neg h, ih]
        constructor
        · rintro ⟨before, after, rfl, apart⟩
          refine ⟨(n, v) :: before, after, rfl, ?_⟩
          simpa [names, Ne.symm h] using apart
        · rintro ⟨before, after, whole, apart⟩
          cases before with
          | nil =>
              cases whole
              exact absurd rfl h
          | cons first others =>
              cases whole
              exact ⟨others, after, rfl, fun present => apart (List.mem_cons_of_mem _ present)⟩

/-- A value is the last one that a name has in a list of pairs. -/
def Last (name : String) (value : α) (pairs : List (String × α)) : Prop :=
  ∃ before after, pairs = before ++ (name, value) :: after ∧ name ∉ names after

theorem get?_reverse_eq_some_iff {pairs : List (String × α)} :
    get? name pairs.reverse = some value ↔ Last name value pairs := by
  rw [get?_eq_some_iff_first]
  constructor
  · rintro ⟨before, after, whole, apart⟩
    refine ⟨after.reverse, before.reverse, ?_, ?_⟩
    · rw [← List.reverse_reverse pairs, whole]
      simp
    · simpa [names] using apart
  · rintro ⟨before, after, rfl, apart⟩
    refine ⟨after.reverse, before.reverse, by simp, ?_⟩
    simpa [names] using apart

theorem get?_ofPairs (name : String) (pairs : List (String × α)) :
    get? name (ofPairs pairs) = get? name pairs.reverse := by
  induction pairs using List.reverseRecOn with
  | nil => rfl
  | append_singleton front pair ih =>
      obtain ⟨last, value⟩ := pair
      rw [ofPairs_concat, List.reverse_concat, get?]
      by_cases h : last = name
      · rw [if_pos h, h, get?_set_self]
      · rw [if_neg h, get?_set_of_ne (Ne.symm h), ih]

/-- The value of a name among collected pairs is the last one that it has. -/
theorem get?_ofPairs_eq_some_iff {pairs : List (String × α)} :
    get? name (ofPairs pairs) = some value ↔ Last name value pairs := by
  rw [get?_ofPairs, get?_reverse_eq_some_iff]

/-- Pairs are collected into the last pair of each name. -/
theorem mem_ofPairs_iff {pairs : List (String × α)} :
    (name, value) ∈ ofPairs pairs ↔ Last name value pairs := by
  rw [← get?_eq_some_iff (distinct_ofPairs pairs), get?_ofPairs_eq_some_iff]

example : ofPairs [("a", 1), ("b", 2), ("a", 3)] = [("a", 3), ("b", 2)] := by decide +kernel

/-- There are as many entries as different names. -/
theorem length_ofPairs (pairs : List (String × α)) :
    (ofPairs pairs).length = (names pairs).toFinset.card := by
  have same : (names (ofPairs pairs)).toFinset = (names pairs).toFinset := by
    ext name
    rw [List.mem_toFinset, List.mem_toFinset, names_ofPairs, List.mem_eraseDups]
  have distinct : (names (ofPairs pairs)).Nodup := distinct_ofPairs pairs
  rw [← same, List.toFinset_card_of_nodup distinct, names, List.length_map]

/-- Pairs with distinct names are collected as they stand. -/
theorem ofPairs_of_distinct {pairs : List (String × α)} (distinct : Distinct pairs) :
    ofPairs pairs = pairs := by
  induction pairs using List.reverseRecOn with
  | nil => rfl
  | append_singleton front pair ih =>
      obtain ⟨name, value⟩ := pair
      rw [Distinct, names_concat, List.nodup_append] at distinct
      obtain ⟨others, -, apart⟩ := distinct
      have missing : name ∉ names front := fun present => apart name present name (by simp) rfl
      rw [ofPairs_concat, ih others, set_of_not_mem missing]

end TransferHistory.Ordered
