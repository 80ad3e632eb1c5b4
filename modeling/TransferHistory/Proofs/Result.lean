import Mathlib.Data.List.Forall2

/-!
# Steps that may fail

How a sequence of steps ends: well if every step does, and otherwise with the error of the first step
that fails.
-/

namespace TransferHistory

variable {ε α β : Type}

theorem bind_eq_ok_iff {step : Except ε α} {next : α → Except ε β} {result : β} :
    (step >>= next) = .ok result ↔ ∃ value, step = .ok value ∧ next value = .ok result := by
  cases step with
  | error error => simp [bind, Except.bind]
  | ok value => simp [bind, Except.bind]

theorem bind_eq_error_iff {step : Except ε α} {next : α → Except ε β} {error : ε} :
    (step >>= next) = .error error ↔
      step = .error error ∨ ∃ value, step = .ok value ∧ next value = .error error := by
  cases step with
  | error error => simp [bind, Except.bind]
  | ok value => simp [bind, Except.bind]

/-- A step whose value is only put into place goes well if the step does. -/
theorem exists_bind_pure_iff {step : Except ε α} {place : α → β} :
    (∃ result, (step >>= fun value => pure (place value)) = .ok result) ↔
      ∃ value, step = .ok value := by
  cases step with
  | error error => simp [bind, Except.bind]
  | ok value => simp [bind, Except.bind, pure, Except.pure]

/-- Steps end well with one value for every item, in the order of the items. -/
theorem mapM_eq_ok_iff {step : α → Except ε β} {items : List α} {results : List β} :
    items.mapM step = .ok results ↔ items.map step = results.map .ok := by
  induction items generalizing results with
  | nil =>
      have empty : ([] : List α).mapM step = .ok [] := rfl
      cases results <;> simp [empty]
  | cons item rest ih =>
      rw [List.mapM_cons, bind_eq_ok_iff]
      constructor
      · rintro ⟨first, head, wentWell⟩
        obtain ⟨others, tail, done⟩ := bind_eq_ok_iff.mp wentWell
        cases done
        rw [List.map_cons, List.map_cons, head, ih.mp tail]
      · intro same
        cases results with
        | nil => simp at same
        | cons first others =>
            simp only [List.map_cons, List.cons.injEq] at same
            exact ⟨first, same.1, bind_eq_ok_iff.mpr ⟨others, ih.mpr same.2, rfl⟩⟩

/-- The same for steps that fail without saying why. -/
theorem mapM_eq_some_iff {step : α → Option β} {items : List α} {results : List β} :
    items.mapM step = some results ↔ items.map step = results.map some := by
  induction items generalizing results with
  | nil => cases results <;> simp
  | cons item rest ih =>
      rw [List.mapM_cons, Option.bind_eq_bind, Option.bind_eq_some_iff]
      constructor
      · rintro ⟨first, head, wentWell⟩
        obtain ⟨others, tail, done⟩ := Option.bind_eq_some_iff.mp wentWell
        cases done
        rw [List.map_cons, List.map_cons, head, ih.mp tail]
      · intro same
        cases results with
        | nil => simp at same
        | cons first others =>
            simp only [List.map_cons, List.cons.injEq] at same
            exact ⟨first, same.1, Option.bind_eq_some_iff.mpr ⟨others, ih.mpr same.2, rfl⟩⟩

theorem mapM_eq_ok_iff_forall₂ {step : α → Except ε β} {items : List α} {results : List β} :
    items.mapM step = .ok results ↔
      List.Forall₂ (fun item result => step item = .ok result) items results := by
  rw [mapM_eq_ok_iff, ← List.forall₂_eq_eq_eq, List.forall₂_map_left_iff,
    List.forall₂_map_right_iff]

/-- All steps go well if each does on its own. -/
theorem exists_mapM_eq_ok_iff {step : α → Except ε β} {items : List α} :
    (∃ results, items.mapM step = .ok results) ↔ ∀ item ∈ items, ∃ result, step item = .ok result := by
  induction items with
  | nil => exact ⟨by simp, fun _ => ⟨[], rfl⟩⟩
  | cons item rest ih =>
      simp only [mapM_eq_ok_iff_forall₂, List.forall₂_cons_left_iff] at ih ⊢
      rw [List.forall_mem_cons, ← ih]
      constructor
      · rintro ⟨_, first, others, head, tail, rfl⟩
        exact ⟨⟨first, head⟩, others, tail⟩
      · rintro ⟨⟨first, head⟩, others, tail⟩
        exact ⟨first :: others, first, others, head, tail, rfl⟩

/-- Steps that fail end with the error of the first item whose step does. -/
theorem mapM_eq_error_iff {step : α → Except ε β} {items : List α} {error : ε} :
    items.mapM step = .error error ↔
      ∃ before item after, items = before ++ item :: after ∧
        (∀ earlier ∈ before, ∃ value, step earlier = .ok value) ∧ step item = .error error := by
  induction items with
  | nil =>
      have empty : ([] : List α).mapM step = .ok [] := rfl
      simp [empty]
  | cons item rest ih =>
      rw [List.mapM_cons, bind_eq_error_iff]
      constructor
      · rintro (failed | ⟨first, head, failed⟩)
        · exact ⟨[], item, rest, rfl, by simp, failed⟩
        · rcases bind_eq_error_iff.mp failed with later | ⟨others, -, done⟩
          · obtain ⟨before, bad, after, split, good, last⟩ := ih.mp later
            subst split
            exact ⟨item :: before, bad, after, rfl,
              List.forall_mem_cons.mpr ⟨⟨first, head⟩, good⟩, last⟩
          · cases done
      · rintro ⟨before, bad, after, split, good, failed⟩
        cases before with
        | nil =>
            cases split
            exact Or.inl failed
        | cons head before =>
            cases split
            rw [List.forall_mem_cons] at good
            obtain ⟨⟨first, head⟩, good⟩ := good
            have later := ih.mpr ⟨before, bad, after, rfl, good, failed⟩
            exact Or.inr ⟨first, head, bind_eq_error_iff.mpr (Or.inl later)⟩

/-- Items that are written one by one are read back one by one. -/
theorem mapM_map_eq_ok {write : α → β} {read : β → Except ε α} {items : List α}
    (reread : ∀ item ∈ items, read (write item) = .ok item) :
    (items.map write).mapM read = .ok items := by
  rw [mapM_eq_ok_iff, List.map_map]
  exact List.map_congr_left reread

/-- Every result comes from an item. -/
theorem exists_of_mem_mapM {step : α → Except ε β} {items : List α} {results : List β}
    (wentWell : items.mapM step = .ok results) {result : β} (present : result ∈ results) :
    ∃ item ∈ items, step item = .ok result := by
  have known : (.ok result : Except ε β) ∈ results.map .ok := List.mem_map_of_mem present
  rw [← mapM_eq_ok_iff.mp wentWell] at known
  exact List.mem_map.mp known

theorem foldlM_cons_of_ok {step : β → α → Except ε β} {item : α} {rest : List α} {state next : β}
    (wentWell : step state item = .ok next) :
    (item :: rest).foldlM step state = rest.foldlM step next := by
  rw [List.foldlM_cons, wentWell]
  rfl

/-- Where the state has no say in it, a run goes well exactly if every item's step does. -/
theorem exists_foldlM_eq_ok_iff (step : β → α → Except ε β) {fits : α → Prop} {items : List α}
    (one : ∀ item ∈ items, ∀ state, (∃ next, step state item = .ok next) ↔ fits item) (start : β) :
    (∃ result, items.foldlM step start = .ok result) ↔ ∀ item ∈ items, fits item := by
  induction items generalizing start with
  | nil => exact ⟨by simp, fun _ => ⟨start, rfl⟩⟩
  | cons item rest ih =>
      have later := ih fun other present => one other (List.mem_cons_of_mem _ present)
      rw [List.forall_mem_cons, ← one item List.mem_cons_self start]
      constructor
      · rintro ⟨result, wentWell⟩
        rw [List.foldlM_cons] at wentWell
        obtain ⟨next, head, tail⟩ := bind_eq_ok_iff.mp wentWell
        exact ⟨⟨next, head⟩, (later next).mp ⟨result, tail⟩⟩
      · rintro ⟨⟨next, head⟩, each⟩
        rw [foldlM_cons_of_ok head]
        exact (later next).mpr each

/-- What holds at the start and is kept by every step that goes well holds at the end. -/
theorem foldlM_invariant {step : β → α → Except ε β} {holds : β → Prop}
    (kept : ∀ {state item next}, holds state → step state item = .ok next → holds next)
    {items : List α} {start result : β} (initially : holds start)
    (wentWell : items.foldlM step start = .ok result) : holds result := by
  induction items generalizing start with
  | nil =>
      cases wentWell
      exact initially
  | cons item rest ih =>
      rw [List.foldlM_cons] at wentWell
      obtain ⟨next, head, wentWell⟩ := bind_eq_ok_iff.mp wentWell
      exact ih (kept initially head) wentWell

end TransferHistory
