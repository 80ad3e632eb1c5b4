import TransferHistory.Config.Setting
import TransferHistory.Proofs.Ordered

/-!
# Settings in a tree of layers

What a layer does to one setting of one section when it is laid over a tree. Every entry of a layer
leads to a place. It sets the setting if that is the setting's own place; it may take another value
away from the setting only if the place is the section as a whole or an item of it
(`Place.decides`). What stands below the setting turns it into a table or a list, which no text can
be read from.

Results:
1. `Regular.layOver`: a tree of layers holds no name twice, at its top and in its sections.
2. `stands_layOver`: what stands for a setting that one entry of a layer sets.
-/

namespace TransferHistory

/-- A place at which a value decides on a setting: that of the setting itself, that of its section,
and those of the section's items. -/
def Place.decides (group key : String) (place : Place) : Bool :=
  place.top == group &&
    match place.steps with
    | [] => true
    | .item _ :: _ => true
    | [.entry name] => name == key
    | .entry _ :: _ :: _ => false

namespace Setting

open Ordered (Distinct get?)

/-- A value laid over a place of a tree. -/
def put (place : Place) (value : Setting) (entries : Ordered Setting) : Ordered Setting :=
  Ordered.set place.top (putAt value place.steps (get? place.top entries)) entries

theorem layOver_cons (entries : Ordered Setting) (entry : String × Setting) (rest : Layer) :
    layOver entries (entry :: rest) = layOver (put (Place.ofKey entry.1) entry.2 entries) rest :=
  rfl

theorem layOver_append (entries : Ordered Setting) (front rest : Layer) :
    layOver entries (front ++ rest) = layOver (layOver entries front) rest :=
  List.foldl_append

/-! ## Names -/

/-- No name comes twice, neither at the top of a tree nor in one of its sections. -/
structure Regular (entries : Ordered Setting) : Prop where
  groups : Distinct entries
  settings : ∀ group, Distinct (entriesOf (get? group entries))

theorem distinct_nil : Distinct ([] : Ordered Setting) :=
  List.nodup_nil

theorem Regular.nil : Regular [] :=
  ⟨distinct_nil, fun _ => distinct_nil⟩

theorem distinct_overlayEntries {before : Ordered Setting} (distinct : Distinct before)
    (entries : List (String × Setting)) : Distinct (overlayEntries before entries) := by
  induction entries generalizing before with
  | nil => simpa [overlayEntries] using distinct
  | cons entry rest ih =>
      rw [overlayEntries]
      exact ih (Ordered.distinct_set distinct)

theorem distinct_entriesOf_overlay {before : Option Setting} (distinct : Distinct (entriesOf before))
    (value : Setting) : Distinct (entriesOf (some (overlay before value))) := by
  cases value with
  | table entries =>
      rw [overlay]
      exact distinct_overlayEntries distinct entries
  | _ => simpa [overlay, entriesOf] using distinct_nil

theorem distinct_entriesOf_putAt {before : Option Setting} (distinct : Distinct (entriesOf before))
    (value : Setting) (steps : List PlaceStep) :
    Distinct (entriesOf (some (putAt value steps before))) := by
  rcases steps with _ | ⟨name | position, steps⟩
  · exact distinct_entriesOf_overlay distinct value
  · exact Ordered.distinct_set distinct
  · exact distinct_nil

theorem Regular.put {entries : Ordered Setting} (regular : Regular entries) (place : Place)
    (value : Setting) : Regular (put place value entries) := by
  refine ⟨Ordered.distinct_set regular.groups, fun group => ?_⟩
  by_cases same : group = place.top
  · subst same
    rw [Setting.put, Ordered.get?_set_self]
    exact distinct_entriesOf_putAt (regular.settings _) value place.steps
  · rw [Setting.put, Ordered.get?_set_of_ne same]
    exact regular.settings group

theorem Regular.layOver {entries : Ordered Setting} (regular : Regular entries) (layer : Layer) :
    Regular (layOver entries layer) := by
  induction layer generalizing entries with
  | nil => exact regular
  | cons entry rest ih => exact ih (regular.put (Place.ofKey entry.1) entry.2)

/-! ## What stands for a setting -/

/-- A table or a list. -/
def isCompound : Setting → Bool
  | .table _ | .list _ => true
  | _ => false

/-- What a tree has for a setting of a section. -/
def held? (group key : String) (entries : Ordered Setting) : Option Setting :=
  get? key (entriesOf (get? group entries))

/-- A value stands for a setting, or else a table or a list does. -/
def Stands (group key : String) (value : Setting) (entries : Ordered Setting) : Prop :=
  ∃ found, held? group key entries = some found ∧ (found = value ∨ found.isCompound = true)

theorem overlay_of_not_isCompound {value : Setting} (simple : value.isCompound = false)
    (before : Option Setting) : overlay before value = value := by
  cases value with
  | table entries => cases simple
  | _ => simp [overlay]

theorem isCompound_putAt (value : Setting) (step : PlaceStep) (steps : List PlaceStep)
    (before : Option Setting) : (putAt value (step :: steps) before).isCompound = true := by
  cases step <;> rfl

variable {group key : String} {value : Setting} {entries : Ordered Setting}

/-- A value at the place of a setting stands for it. -/
theorem stands_put_self (simple : value.isCompound = false) :
    Stands group key value (put ⟨group, [.entry key]⟩ value entries) := by
  refine ⟨value, ?_, Or.inl rfl⟩
  simp only [held?, put, Ordered.get?_set_self, putAt, entriesOf]
  rw [overlay_of_not_isCompound simple]

/-- A value at a place that does not decide on a setting leaves what stands for it, or makes it a table
or a list. -/
theorem held?_put_of_not_decides {place : Place} (apart : place.decides group key = false)
    (other : Setting) :
    held? group key (put place other entries) = held? group key entries ∨
      ∃ found, held? group key (put place other entries) = some found ∧ found.isCompound = true := by
  obtain ⟨top, steps⟩ := place
  by_cases same : top = group
  · subst same
    rcases steps with _ | ⟨name | position, steps⟩
    · simp [Place.decides] at apart
    · simp only [held?, put, Ordered.get?_set_self, putAt, entriesOf]
      by_cases named : name = key
      · subst named
        rcases steps with _ | ⟨step, steps⟩
        · simp [Place.decides] at apart
        · refine Or.inr ⟨_, Ordered.get?_set_self .., ?_⟩
          exact isCompound_putAt other step steps _
      · exact Or.inl (Ordered.get?_set_of_ne (Ne.symm named) ..)
    · simp [Place.decides] at apart
  · refine Or.inl ?_
    simp only [held?, put]
    rw [Ordered.get?_set_of_ne (Ne.symm same)]

theorem Stands.put (stands : Stands group key value entries) {place : Place} {other : Setting}
    (apart : place.decides group key = false) : Stands group key value (put place other entries) := by
  obtain ⟨found, held, kind⟩ := stands
  rcases held?_put_of_not_decides apart other with same | ⟨compound, now, whole⟩
  · exact ⟨found, same.trans held, kind⟩
  · exact ⟨compound, now, Or.inr whole⟩

/-- The entries of a layer that decide on a setting all give it the same value at its own place. -/
def Layer.Leaves (group key : String) (value : Setting) (layer : Layer) : Prop :=
  ∀ entry ∈ layer, (Place.ofKey entry.1).decides group key = true →
    Place.ofKey entry.1 = ⟨group, [.entry key]⟩ ∧ entry.2 = value

/-- A layer gives a setting a value and says nothing else about it. -/
structure Layer.Sets (group key : String) (value : Setting) (layer : Layer) : Prop where
  present : ∃ entry ∈ layer, Place.ofKey entry.1 = ⟨group, [.entry key]⟩
  leaves : layer.Leaves group key value

theorem Stands.layOver (stands : Stands group key value entries) (simple : value.isCompound = false)
    {layer : Layer} (leaves : layer.Leaves group key value) :
    Stands group key value (layOver entries layer) := by
  induction layer generalizing entries with
  | nil => exact stands
  | cons entry rest ih =>
      obtain ⟨first, others⟩ := List.forall_mem_cons.mp leaves
      rw [layOver_cons]
      refine ih ?_ others
      cases decides : (Place.ofKey entry.1).decides group key with
      | false => exact stands.put decides
      | true =>
          obtain ⟨place, given⟩ := first decides
          rw [place, given]
          exact stands_put_self simple

/-- What a layer sets is there in the end, whatever the tree was before. -/
theorem stands_layOver (simple : value.isCompound = false) {layer : Layer}
    (sets : layer.Sets group key value) (entries : Ordered Setting) :
    Stands group key value (layOver entries layer) := by
  obtain ⟨⟨entry, present, place⟩, leaves⟩ := sets
  obtain ⟨front, rest, rfl⟩ := List.append_of_mem present
  have own : (Place.ofKey entry.1).decides group key = true := by
    rw [place]
    simp [Place.decides]
  have given : entry.2 = value := (leaves entry present own).2
  rw [layOver_append, layOver_cons, place, given]
  -- what came before counts no more, and what comes later says the same or nothing about the setting
  refine (stands_put_self simple).layOver simple fun other later => ?_
  exact leaves other (List.mem_append_right _ (List.mem_cons_of_mem _ later))

end Setting

end TransferHistory
