import TransferHistory.Text.Split

/-!
# Parts of a split text

What stands before and behind the first separator, and how `cut`, `pieces` and `split` are made of
these two parts.

- `cut_eq`, `pieces_eq`: both functions from the two parts alone.
- `split_of_mem`, `split_of_not_mem`: a text has two or more pieces exactly if it holds the separator.
- `cut_none`, `cut_some`, `cut_join`: a text is cut at its first separator, if it has one.
- `pieces_join`, `pieces_of_not_mem`: the pieces of two texts with a separator between them.
- `allPieces_join`, `allPieces_replicate`: the same for all pieces as one list.
- `rejoin_eq_intercalate`, `mem_of_mem_intercalate`: what stands in pieces that are written together.
- `split_inj`: texts with the same pieces are the same.
- `behind?_eq_some_iff`: a text without its first character, as an equation between texts.
-/

namespace TransferHistory.Text

variable {α : Type} [DecidableEq α]

/-- The part before the first separator; everything where there is none. -/
def upTo (sep : α) (text : List α) : List α :=
  text.takeWhile (· ≠ sep)

/-- The part behind the first separator; nothing where there is none. -/
def past (sep : α) (text : List α) : List α :=
  (text.dropWhile (· ≠ sep)).tail

theorem upTo_cons_self (sep : α) (rest : List α) : upTo sep (sep :: rest) = [] := by
  simp [upTo]

theorem past_cons_self (sep : α) (rest : List α) : past sep (sep :: rest) = rest := by
  simp [past]

theorem upTo_cons_of_ne {sep c : α} (ne : c ≠ sep) (rest : List α) :
    upTo sep (c :: rest) = c :: upTo sep rest := by
  simp [upTo, ne]

theorem past_cons_of_ne {sep c : α} (ne : c ≠ sep) (rest : List α) :
    past sep (c :: rest) = past sep rest := by
  simp [past, ne]

/-- The two parts of a cut. -/
theorem cut_eq (sep : α) (text : List α) :
    cut sep text = (upTo sep text, if sep ∈ text then some (past sep text) else none) := by
  induction text with
  | nil => rfl
  | cons c rest ih =>
      by_cases h : c = sep
      · subst h
        simp [cut, upTo_cons_self, past_cons_self]
      · simp only [cut, h, if_false, ih, upTo_cons_of_ne h, past_cons_of_ne h, List.mem_cons,
          Ne.symm h, false_or]

/-- The first piece is what stands before the first separator, and the others are the pieces of what
stands behind it. -/
theorem pieces_eq (sep : α) (text : List α) :
    pieces sep text =
      (upTo sep text,
        if sep ∈ text then (pieces sep (past sep text)).1 :: (pieces sep (past sep text)).2
        else []) := by
  induction text with
  | nil => rfl
  | cons c rest ih =>
      by_cases h : c = sep
      · subst h
        simp [pieces, upTo_cons_self, past_cons_self]
      · simp only [pieces, h, if_false, upTo_cons_of_ne h, past_cons_of_ne h, List.mem_cons,
          Ne.symm h, false_or]
        rw [ih]

theorem upTo_of_not_mem {sep : α} {text : List α} (absent : sep ∉ text) : upTo sep text = text := by
  induction text with
  | nil => rfl
  | cons c rest ih =>
      simp only [List.mem_cons, not_or] at absent
      rw [upTo_cons_of_ne (Ne.symm absent.1), ih absent.2]

theorem not_mem_upTo (sep : α) (text : List α) : sep ∉ upTo sep text := by
  induction text with
  | nil => exact List.not_mem_nil
  | cons c rest ih =>
      by_cases h : c = sep
      · rw [h, upTo_cons_self]
        exact List.not_mem_nil
      · rw [upTo_cons_of_ne h, List.mem_cons, not_or]
        exact ⟨Ne.symm h, ih⟩

theorem upTo_append_past {sep : α} {text : List α} (present : sep ∈ text) :
    upTo sep text ++ sep :: past sep text = text := by
  induction text with
  | nil => exact absurd present List.not_mem_nil
  | cons c rest ih =>
      by_cases h : c = sep
      · rw [h, upTo_cons_self, past_cons_self, List.nil_append]
      · have later : sep ∈ rest := (List.mem_cons.mp present).resolve_left (Ne.symm h)
        rw [upTo_cons_of_ne h, past_cons_of_ne h, List.cons_append, ih later]

/-- A text that cannot be cut has no separator. -/
theorem cut_none {sep : α} {text before : List α} (uncut : cut sep text = (before, none)) :
    text = before ∧ sep ∉ before := by
  rw [cut_eq, Prod.mk.injEq] at uncut
  obtain ⟨rfl, none⟩ := uncut
  have absent : sep ∉ text := fun present => by simp [present] at none
  exact ⟨(upTo_of_not_mem absent).symm, not_mem_upTo sep text⟩

/-- A text is cut at its first separator. -/
theorem cut_some {sep : α} {text before behind : List α}
    (found : cut sep text = (before, some behind)) :
    text = before ++ sep :: behind ∧ sep ∉ before := by
  rw [cut_eq, Prod.mk.injEq] at found
  obtain ⟨rfl, some⟩ := found
  obtain ⟨present, same⟩ := Option.ite_none_right_eq_some.mp some
  cases same
  exact ⟨(upTo_append_past present).symm, not_mem_upTo sep text⟩

/-- What stands in front of a separator is cut off there, if it holds none itself. -/
theorem cut_join {sep : α} {before : List α} (absent : sep ∉ before) (behind : List α) :
    cut sep (before ++ sep :: behind) = (before, some behind) := by
  induction before with
  | nil => simp [cut]
  | cons c rest ih =>
      obtain ⟨ne, later⟩ := not_or.mp fun present => absent (List.mem_cons.mpr present)
      simp [cut, Ne.symm ne, ih later]

/-- A sequence without the separator is its own first piece and has no others. -/
theorem pieces_of_not_mem {sep : α} {text : List α} (absent : sep ∉ text) :
    pieces sep text = (text, []) := by
  rw [pieces_eq, if_neg absent, upTo_of_not_mem absent]

omit [DecidableEq α] in
/-- Pieces written one behind the other, in the words of the standard library. -/
theorem rejoin_eq_intercalate (sep : α) (first : List α) (others : List (List α)) :
    rejoin sep first others = [sep].intercalate (first :: others) := by
  induction others generalizing first with
  | nil => exact List.intercalate_singleton.symm
  | cons next others ih =>
      rw [List.intercalate_cons_cons, ← ih, List.append_assoc, List.singleton_append]
      rfl

omit [DecidableEq α] in
/-- Between the pieces there is nothing but separators. -/
theorem mem_of_mem_intercalate {sep c : α} {pieces : List (List α)}
    (present : c ∈ [sep].intercalate pieces) : c = sep ∨ ∃ piece ∈ pieces, c ∈ piece := by
  induction pieces with
  | nil => exact absurd present List.not_mem_nil
  | cons first others ih =>
      cases others with
      | nil =>
          rw [List.intercalate_singleton] at present
          exact Or.inr ⟨first, List.mem_cons_self, present⟩
      | cons next others =>
          rw [List.intercalate_cons_cons, List.append_assoc, List.singleton_append] at present
          rcases List.mem_append.mp present with inFirst | behind
          · exact Or.inr ⟨first, List.mem_cons_self, inFirst⟩
          · rcases List.mem_cons.mp behind with same | later
            · exact Or.inl same
            · exact (ih later).imp_right fun ⟨piece, known, inPiece⟩ =>
                ⟨piece, List.mem_cons_of_mem _ known, inPiece⟩

/-- The pieces of two sequences with a separator between them are those of the one and of the
other. -/
theorem pieces_join (sep : α) (first rest : List α) :
    pieces sep (first ++ sep :: rest) =
      ((pieces sep first).1,
        (pieces sep first).2 ++ (pieces sep rest).1 :: (pieces sep rest).2) := by
  induction first with
  | nil => simp [pieces]
  | cons c others ih =>
      by_cases h : c = sep
      · simp [pieces, h, ih]
      · simp [pieces, h, ih]

/-- All pieces of a sequence, in order. -/
def allPieces (sep : α) (text : List α) : List (List α) :=
  (pieces sep text).1 :: (pieces sep text).2

theorem allPieces_join (sep : α) (first rest : List α) :
    allPieces sep (first ++ sep :: rest) = allPieces sep first ++ allPieces sep rest := by
  rw [allPieces, pieces_join]
  rfl

theorem allPieces_of_not_mem {sep : α} {text : List α} (absent : sep ∉ text) :
    allPieces sep text = [text] := by
  rw [allPieces, pieces_of_not_mem absent]

theorem allPieces_replicate (sep : α) (count : Nat) :
    allPieces sep (List.replicate count sep) = List.replicate (count + 1) [] := by
  induction count with
  | zero => rfl
  | succ count ih =>
      rw [List.replicate_succ, List.replicate_succ, ← ih]
      exact allPieces_join sep [] (List.replicate count sep)

/-- A sequence without the separator is not cut. -/
theorem cut_of_not_mem {sep : α} {text : List α} (absent : sep ∉ text) :
    cut sep text = (text, none) := by
  rw [cut_eq, if_neg absent, upTo_of_not_mem absent]

/-- A text with the separator has at least two pieces. -/
theorem split_of_mem {sep : Char} {text : String} (present : sep ∈ text.toList) :
    ∃ others, split sep text =
      String.ofList (upTo sep text.toList) ::
        String.ofList (upTo sep (past sep text.toList)) :: others := by
  have first := pieces_eq sep text.toList
  have second := pieces_eq sep (past sep text.toList)
  simp only [present, if_true] at first
  refine ⟨(pieces sep (past sep text.toList)).2.map String.ofList, ?_⟩
  simp only [split, first, List.map_cons]
  rw [second]

/-- A text without the separator is its own only piece. -/
theorem split_of_not_mem {sep : Char} {text : String} (absent : sep ∉ text.toList) :
    split sep text = [text] := by
  have only := pieces_eq sep text.toList
  simp only [absent, if_false] at only
  simp [split, only, upTo_of_not_mem absent]

/-- A text is known by its pieces. -/
theorem split_inj {sep : Char} {text other : String} (same : split sep text = split sep other) :
    text = other := by
  simp only [split, List.cons.injEq, String.ofList_inj] at same
  obtain ⟨first, others⟩ := same
  have others := (List.map_inj_right fun _ _ => String.ofList_inj.mp).mp others
  rw [← String.toList_inj, ← rejoin_pieces sep text.toList, ← rejoin_pieces sep other.toList, first,
    others]

/-- A text begins with a character where it is that character and the rest. -/
theorem behind?_eq_some_iff {first : Char} {text rest : String} :
    behind? first text = some rest ↔ text = first.toString ++ rest := by
  have expanded : text = first.toString ++ rest ↔ text.toList = first :: rest.toList := by
    rw [← String.toList_inj]
    simp
  rw [expanded]
  unfold behind?
  cases h : text.toList with
  | nil => simp
  | cons c others =>
      by_cases same : c = first
      · subst same
        simp only [if_true, Option.some.injEq, List.cons.injEq, true_and]
        constructor
        · intro equal
          rw [← equal, String.toList_ofList]
        · intro equal
          rw [equal, String.ofList_toList]
      · simp [same]

end TransferHistory.Text
