import TransferHistory.Proofs.Ordered.Collecting
import TransferHistory.Proofs.Text.Split
import TransferHistory.Proofs.Text.Utf8
import TransferHistory.Query.Compiled
import TransferHistory.Query.Form

/-!
# Query strings

What a query string may be built from. Two of them can be joined, and the parameters of the second one
are then set on those of the first one. And every request has a query string, in which each byte of its
names and values is a triplet, so that no name or value is taken apart on the way.

Results:
1. `Form.pairs_join`: the pairs of two query strings with an `&` between them.
2. `Params.ofForm_composes`: the parameters of such a query string, and those of any list of pairs.
3. `Form.readTriplets_flatMap`, `Form.decode_encode`: what is written in triplets is read back.
4. `Params.pairs_toForm`, `Params.ofForm_formText`: a request is read back from its query string.
-/

namespace TransferHistory

/-! ## Query strings joined -/

/-- The pairs of two query strings come one behind the other. -/
theorem Form.pairs_join (first rest : List UInt8) :
    pairs (first ++ 0x26 :: rest) = pairs first ++ pairs rest := by
  unfold pairs
  rw [Text.pieces_join]
  exact List.filterMap_append (l := _ :: _)

namespace Params

theorem entries_foldl_set (pairs : List (String × String)) (params : Params) :
    (pairs.foldl (fun params pair => params.set pair.1 pair.2) params).entries =
      params.entries.setAll pairs := by
  induction pairs generalizing params with
  | nil => rfl
  | cons pair rest ih => exact ih (params.set pair.1 pair.2)

/-- Two query strings joined by `&` give the parameters of the first one with those of the second one
set on them, one by one and in order. The parameters of any list of pairs are its names, each where it
first came and with the value that it had last; that value is what the name is looked up as, unless it
is empty. There are as many parameters as different names. -/
theorem ofForm_composes (first second : String) (pairs : List (String × String)) :
    ofForm (first ++ "&" ++ second) =
        (ofForm second).entries.foldl (fun params entry => params.set entry.1 entry.2)
          (ofForm first) ∧
      (ofPairs pairs).entries.names = (pairs.map Prod.fst).eraseDups ∧
      (∀ name value, (name, value) ∈ (ofPairs pairs).entries ↔ Ordered.Last name value pairs) ∧
      (∀ name value, (ofPairs pairs).get? name = some value ↔
        Ordered.Last name value pairs ∧ value ≠ "") ∧
      (ofPairs pairs).size = (pairs.map Prod.fst).toFinset.card := by
  refine ⟨?_, Ordered.names_ofPairs pairs, fun name value => Ordered.mem_ofPairs_iff, ?_,
    Ordered.length_ofPairs pairs⟩
  · have bytes : Text.Utf8.encode (first ++ "&" ++ second).toList =
        Text.Utf8.encode first.toList ++ 0x26 :: Text.Utf8.encode second.toList := by
      have spelled : (first ++ "&" ++ second).toList = first.toList ++ '&' :: second.toList := by
        simp
      rw [spelled]
      exact Text.Utf8.encode_join (by decide) _ _
    apply eq_of_entries
    rw [entries_foldl_set]
    show Ordered.ofPairs (Form.pairs (Text.Utf8.encode (first ++ "&" ++ second).toList)) =
      (ofForm first).entries.setAll (Ordered.ofPairs _)
    rw [bytes, Form.pairs_join, Ordered.ofPairs_append, Ordered.setAll_ofPairs]
    rfl
  · intro name value
    rw [get?_eq_some_iff]
    exact and_congr_left fun _ => Ordered.get?_ofPairs_eq_some_iff

end Params

/-! ## Requests written as query strings -/

namespace Form

/-- The bytes that triplets are made of. -/
def tripletBytes : List UInt8 :=
  0x25 :: (List.range 16).map fun value => hexDigit (UInt8.ofNat value)

theorem hexDigit_mem {value : UInt8} (small : value.toNat < 16) : hexDigit value ∈ tripletBytes := by
  have known := List.mem_map_of_mem (f := fun value => hexDigit (UInt8.ofNat value))
    (List.mem_range.mpr small)
  rw [UInt8.ofNat_toNat] at known
  exact List.mem_cons_of_mem _ known

/-- The two halves of a byte are digits. -/
theorem halves (byte : UInt8) :
    (byte / 16).toNat < 16 ∧ (byte % 16).toNat < 16 ∧ byte / 16 * 16 + byte % 16 = byte := by
  have below := byte.toNat_lt
  have high : (byte / 16).toNat = byte.toNat / 16 := UInt8.toNat_div byte 16
  have low : (byte % 16).toNat = byte.toNat % 16 := UInt8.toNat_mod byte 16
  refine ⟨by omega, by omega, ?_⟩
  apply UInt8.toNat_inj.mp
  rw [UInt8.toNat_add, UInt8.toNat_mul, high, low]
  simp only [UInt8.reduceToNat]
  omega

theorem mem_tripletBytes_of_mem_writeTriplet {byte written : UInt8}
    (present : written ∈ writeTriplet byte) : written ∈ tripletBytes := by
  obtain ⟨high, low, -⟩ := halves byte
  simp only [writeTriplet, List.mem_cons, List.not_mem_nil, or_false] at present
  rcases present with rfl | rfl | rfl
  · exact List.mem_cons_self
  · exact hexDigit_mem high
  · exact hexDigit_mem low

theorem mem_tripletBytes_of_mem_encode {text : String} {written : UInt8}
    (present : written ∈ encode text) : written ∈ tripletBytes := by
  obtain ⟨byte, -, inTriplet⟩ := List.mem_flatMap.mp present
  exact mem_tripletBytes_of_mem_writeTriplet inTriplet

/-- None of these bytes separates anything, stands for a space, or needs more than seven bits. -/
theorem plain_of_mem_tripletBytes :
    ∀ written ∈ tripletBytes,
      written ≠ 0x26 ∧ written ≠ 0x3D ∧ written ≠ 0x2B ∧ written.toNat < 128 := by
  decide +kernel

theorem hexValue?_hexDigit {value : UInt8} (small : value.toNat < 16) :
    hexValue? (hexDigit value) = some value := by
  have all : ∀ n < 16, hexValue? (hexDigit (UInt8.ofNat n)) = some (UInt8.ofNat n) := by decide
  have read := all value.toNat small
  rwa [UInt8.ofNat_toNat] at read

theorem triplet?_digits (byte : UInt8) :
    triplet? (hexDigit (byte / 16)) (hexDigit (byte % 16)) = some byte := by
  obtain ⟨high, low, whole⟩ := halves byte
  unfold triplet?
  rw [hexValue?_hexDigit high, hexValue?_hexDigit low]
  exact congrArg some whole

/-- Bytes written as triplets are read back, whatever follows them. -/
theorem readTriplets_flatMap_append (bytes rest : List UInt8) :
    readTriplets (bytes.flatMap writeTriplet ++ rest) = bytes ++ readTriplets rest := by
  induction bytes with
  | nil => rfl
  | cons byte others ih =>
      rw [List.flatMap_cons, List.append_assoc]
      show readTriplets (0x25 :: hexDigit (byte / 16) :: hexDigit (byte % 16) ::
        (others.flatMap writeTriplet ++ rest)) = byte :: (others ++ readTriplets rest)
      rw [readTriplets, triplet?_digits]
      exact congrArg (byte :: ·) ih

theorem readTriplets_flatMap (bytes : List UInt8) :
    readTriplets (bytes.flatMap writeTriplet) = bytes := by
  have read := readTriplets_flatMap_append bytes []
  rwa [readTriplets, List.append_nil, List.append_nil] at read

/-- A name or a value is read back from its triplets. -/
theorem decode_encode (text : String) : decode (encode text) = text := by
  have spaceless : ((encode text).map fun b => if b = 0x2B then 0x20 else b) = encode text := by
    refine (List.map_congr_left fun written present => ?_).trans (List.map_id' _)
    exact if_neg (plain_of_mem_tripletBytes _ (mem_tripletBytes_of_mem_encode present)).2.2.1
  have read : readTriplets (encode text) = Text.Utf8.encode text.toList := readTriplets_flatMap _
  unfold decode
  dsimp only
  rw [spaceless, read, Text.Utf8.decode_encode, String.ofList_toList]

/-- The piece of one parameter. -/
def piece (entry : String × String) : List UInt8 :=
  encode entry.1 ++ 0x3D :: encode entry.2

theorem not_mem_encode (text : String) : 0x26 ∉ encode text ∧ 0x3D ∉ encode text := by
  constructor
  · intro present
    exact (plain_of_mem_tripletBytes _ (mem_tripletBytes_of_mem_encode present)).1 rfl
  · intro present
    exact (plain_of_mem_tripletBytes _ (mem_tripletBytes_of_mem_encode present)).2.1 rfl

theorem low_of_mem_piece {entry : String × String} {written : UInt8}
    (present : written ∈ piece entry) : written.toNat < 128 := by
  rcases List.mem_append.mp present with inName | behind
  · exact (plain_of_mem_tripletBytes _ (mem_tripletBytes_of_mem_encode inName)).2.2.2
  · rcases List.mem_cons.mp behind with rfl | inValue
    · decide
    · exact (plain_of_mem_tripletBytes _ (mem_tripletBytes_of_mem_encode inValue)).2.2.2

theorem pair?_piece (entry : String × String) : pair? (piece entry) = some entry := by
  have filled : (piece entry).isEmpty = false := by
    unfold piece
    cases encode entry.1 <;> rfl
  unfold pair?
  rw [filled, piece, Text.cut_join (not_mem_encode entry.1).2]
  show some (decode (encode entry.1), decode (encode entry.2)) = some entry
  rw [decode_encode, decode_encode]

/-- A single piece is a single pair. -/
theorem pairs_piece (entry : String × String) : pairs (piece entry) = [entry] := by
  have whole : 0x26 ∉ piece entry := by
    simp [piece, not_mem_encode]
  unfold pairs
  rw [Text.pieces_of_not_mem whole]
  show [piece entry].filterMap pair? = [entry]
  rw [List.filterMap_cons_some (pair?_piece entry), List.filterMap_nil]

/-- Every piece gives its parameter, and the separators between the pieces give nothing. -/
theorem pairs_intercalate (entries : List (String × String)) :
    pairs ([0x26].intercalate (entries.map piece)) = entries := by
  induction entries with
  | nil => rfl
  | cons first others ih =>
      -- A separator stands in front of every piece but the first one.
      cases others with
      | nil =>
          rw [List.map_singleton, List.intercalate_singleton]
          exact pairs_piece first
      | cons next others =>
          rw [List.map_cons, List.map_cons] at *
          rw [List.intercalate_cons_cons, List.append_assoc, List.singleton_append, pairs_join,
            pairs_piece, ih, List.singleton_append]

end Form

namespace Params

/-- A query string is the pieces of its parameters with `&` between them. -/
theorem toForm_eq (params : Params) :
    params.toForm = [0x26].intercalate (params.entries.map Form.piece) := by
  unfold toForm
  cases params.entries with
  | nil => rfl
  | cons first others => exact Text.rejoin_eq_intercalate _ _ _

/-- The pairs of a request's query string are its parameters. -/
theorem pairs_toForm (params : Params) : Form.pairs params.toForm = params.entries := by
  rw [toForm_eq, Form.pairs_intercalate]

/-- The query string of a request, with every byte of its names and values as a triplet. -/
def formText (params : Params) : String :=
  String.ofList (params.toForm.map fun byte => Char.ofNat byte.toNat)

theorem low_of_mem_toForm {params : Params} {written : UInt8} (present : written ∈ params.toForm) :
    written.toNat < 128 := by
  rw [toForm_eq] at present
  rcases Text.mem_of_mem_intercalate present with rfl | ⟨piece, known, inPiece⟩
  · decide
  · obtain ⟨entry, -, rfl⟩ := List.mem_map.mp known
    exact Form.low_of_mem_piece inPiece

theorem encode_formText (params : Params) :
    Text.Utf8.encode params.formText.toList = params.toForm := by
  unfold formText
  rw [String.toList_ofList, Text.Utf8.encode_map_ofNat fun _ => low_of_mem_toForm]

/-- Every request has a query string that gives it back: each parameter as its name, `=` and its value,
with every byte of the two as a triplet, and `&` between the parameters. So it asks for the same
there. -/
theorem ofForm_formText (params : Params) :
    Text.Utf8.encode params.formText.toList =
        [0x26].intercalate (params.entries.map fun entry =>
          Form.encode entry.1 ++ 0x3D :: Form.encode entry.2) ∧
      ofForm params.formText = params ∧
      CompiledQuery.ofParams (ofForm params.formText) = CompiledQuery.ofParams params ∧
      ResponseFlags.ofParams (ofForm params.formText) = ResponseFlags.ofParams params := by
  have same : ofForm params.formText = params := by
    apply eq_of_entries
    show Ordered.ofPairs (Form.pairs (Text.Utf8.encode params.formText.toList)) = params.entries
    rw [encode_formText, pairs_toForm, Ordered.ofPairs_of_distinct params.distinct]
  rw [same]
  exact ⟨(encode_formText params).trans params.toForm_eq, rfl, rfl, rfl⟩

example : (ofPairs [("a+b", "=&é"), ("", "")]).formText = "%61%2B%62=%3D%26%C3%A9&=" := by
  decide +kernel

end Params

end TransferHistory
