import TransferHistory.Net.Url
import TransferHistory.Proofs.Query.Form

/-!
# Segments of a path

A path is carried out segment by segment, so what stands in front of a slash does not depend on what
follows it. A segment shows some characters as triplets; reading the triplets gives its text back, unless
the text has triplets of its own.

Results:
1. `Url.resolve_append`: segments in front of others are carried out first.
2. `Url.decodeSegment_encoded`: the text of a segment is read back.
3. `Url.pathOf_append_pair`, `Url.pathOf_append_replicate`: the path when two segments, or slashes, are
   written behind it.
-/

namespace TransferHistory

namespace UrlPath

/-- The segments of a path in front of the last one. -/
def stem : UrlPath → List String
  | .segments texts => texts.dropLast
  | .flat _ => []

/-- The segments of a path without the slashes at its end. -/
def withoutEnd : UrlPath → List String
  | .segments texts => (texts.reverse.dropWhile (· == "")).reverse
  | .flat _ => []

/-- Empty segments behind one that is not are the slashes at the end of a path. -/
theorem withoutEnd_append_replicate {texts : List String} (ends : texts.getLast? ≠ some "")
    (count : Nat) : withoutEnd (.segments (texts ++ List.replicate count "")) = texts := by
  have empty : ∀ text ∈ (List.replicate count "").reverse, (text == "") = true := by
    intro text present
    rw [List.eq_of_mem_replicate (List.mem_reverse.mp present)]
    rfl
  rw [withoutEnd, List.reverse_append, List.dropWhile_append_of_pos empty]
  rcases texts.eq_nil_or_concat' with rfl | ⟨front, last, rfl⟩
  · rfl
  · have stays : ¬ (last == "") = true := by
      intro same
      exact ends (by simp [beq_iff_eq.mp same])
    rw [List.reverse_append, List.reverse_singleton, List.singleton_append,
      List.dropWhile_cons_of_neg (p := (· == "")) stays, List.reverse_cons, List.reverse_reverse]

end UrlPath

namespace Url

/-! ## Carrying out -/

/-- A segment as it is shown. -/
def encoded (segment : List Char) : String :=
  String.ofList (encodeChars isEncodedInPath segment)

/-- A segment that has no meaning of its own. -/
def isPlain (segment : List Char) : Bool :=
  !isAbove segment && !isHere segment

/-- The segments before, the last one first, when one more has been carried out. -/
def settle (before : List String) (segment : List Char) : List String :=
  if isAbove segment then before.tail
  else if isHere segment then before
  else encoded segment :: before

theorem resolve_cons (before : List String) (segment next : List Char) (rest : List (List Char)) :
    resolve before (segment :: next :: rest) = resolve (settle before segment) (next :: rest) := by
  simp only [resolve, settle]
  split
  · rfl
  · split <;> rfl

/-- Segments in front of others are carried out first. -/
theorem resolve_append (before : List String) (front : List (List Char)) {rest : List (List Char)}
    (more : rest ≠ []) : resolve before (front ++ rest) = resolve (front.foldl settle before) rest := by
  induction front generalizing before with
  | nil => rfl
  | cons segment others ih =>
      have follows : others ++ rest ≠ [] := List.append_ne_nil_of_right_ne_nil others more
      obtain ⟨next, later, split⟩ := List.exists_cons_of_ne_nil follows
      rw [List.cons_append, split, resolve_cons, ← split, ih]
      rfl

theorem settle_of_isPlain {segment : List Char} (plain : isPlain segment = true)
    (before : List String) : settle before segment = encoded segment :: before := by
  simp only [isPlain, Bool.and_eq_true, Bool.not_eq_true'] at plain
  simp [settle, plain.1, plain.2]

/-- A segment at the end leaves an empty one where it has a meaning of its own. -/
theorem resolve_singleton (before : List String) (segment : List Char) :
    resolve before [segment] =
      (settle before segment).reverse ++ if isPlain segment then [] else [""] := by
  by_cases up : isAbove segment = true
  · simp [resolve, settle, isPlain, up]
  · by_cases here : isHere segment = true
    · simp [resolve, settle, isPlain, up, here]
    · simp [resolve, settle, isPlain, up, here, encoded]

theorem resolve_singleton_of_isPlain {segment : List Char} (plain : isPlain segment = true)
    (before : List String) : resolve before [segment] = before.reverse ++ [encoded segment] := by
  rw [resolve_singleton, settle_of_isPlain plain, if_pos plain, List.append_nil, List.reverse_cons]

theorem isPlain_nil : isPlain [] = true := by
  decide +kernel

/-- Empty segments are kept. -/
theorem resolve_replicate (before : List String) (count : Nat) :
    resolve before (List.replicate (count + 1) []) = before.reverse ++ List.replicate (count + 1) "" := by
  induction count generalizing before with
  | zero => exact resolve_singleton_of_isPlain isPlain_nil before
  | succ count ih =>
      rw [List.replicate_succ, List.replicate_succ, resolve_cons, ← List.replicate_succ, ih,
        settle_of_isPlain isPlain_nil, List.reverse_cons, List.append_assoc]
      rfl

/-- Two plain segments behind others are the last ones. -/
theorem resolve_append_pair {first last : List Char} (plainFirst : isPlain first = true)
    (plainLast : isPlain last = true) (front : List (List Char)) :
    resolve [] (front ++ [first, last]) =
      (front.foldl settle []).reverse ++ [encoded first, encoded last] := by
  rw [resolve_append [] front (List.cons_ne_nil _ _), resolve_cons, settle_of_isPlain plainFirst,
    resolve_singleton_of_isPlain plainLast, List.reverse_cons, List.append_assoc]
  rfl

/-! ## Reading back -/

/-- The text of a segment, its triplets read. -/
def decodeSegment (segment : String) : String :=
  String.ofList (Text.Utf8.decode (Form.readTriplets (Text.Utf8.encode segment.toList)))

/-- Two hexadecimal digits stand at the front of a text. -/
def beginsHex : List Char → Bool
  | high :: low :: _ => Text.isHex high && Text.isHex low
  | _ => false

/-- A percent sign stands in front of two hexadecimal digits. -/
def hasTriplet : List Char → Bool
  | [] => false
  | c :: rest => (c == '%' && beginsHex rest) || hasTriplet rest

/-- A text has a triplet as soon as one stands in front of what is no digit. -/
theorem hasTriplet_append {c : Char} {text rest : List Char} (digitless : Text.isHex c = false)
    (free : hasTriplet text = false) (freeRest : hasTriplet (c :: rest) = false) :
    hasTriplet (text ++ c :: rest) = false := by
  induction text with
  | nil => exact freeRest
  | cons first others ih =>
      rw [hasTriplet, Bool.or_eq_false_iff] at free
      have begins : beginsHex (others ++ c :: rest) = beginsHex others := by
        rcases others with _ | ⟨high, _ | ⟨low, others⟩⟩
        · cases rest <;> simp [beginsHex, digitless]
        · simp [beginsHex, digitless]
        · rfl
      rw [List.cons_append, hasTriplet, begins, free.1, ih free.2]
      rfl

/-- The bytes of a segment as it is shown. -/
def shownBytes (segment : List Char) : List UInt8 :=
  Text.Utf8.encode (encodeChars isEncodedInPath segment)

theorem shownBytes_cons_of_encoded {c : Char} (is : isEncodedInPath c = true) (rest : List Char) :
    shownBytes (c :: rest) =
      (String.utf8EncodeChar c).flatMap Form.writeTriplet ++ shownBytes rest := by
  have bytes : Form.encode c.toString = (String.utf8EncodeChar c).flatMap Form.writeTriplet := by
    simp [Form.encode, Text.Utf8.encode]
  have low : ∀ byte ∈ Form.encode c.toString, byte.toNat < 128 := fun byte present =>
    (Form.plain_of_mem_tripletBytes byte (Form.mem_tripletBytes_of_mem_encode present)).2.2.2
  rw [shownBytes, encodeChars, List.flatMap_cons, if_pos is, Text.Utf8.encode_append,
    Text.Utf8.encode_map_ofNat low, bytes]
  rfl

theorem toNat_lt_of_not_encoded {c : Char} (not : isEncodedInPath c = false) : c.toNat < 128 := by
  simp only [isEncodedInPath, Bool.or_eq_false_iff, decide_eq_false_iff_not] at not
  omega

theorem shownBytes_cons_of_not_encoded {c : Char} (not : isEncodedInPath c = false)
    (rest : List Char) : shownBytes (c :: rest) = UInt8.ofNat c.toNat :: shownBytes rest := by
  have stays : ¬ isEncodedInPath c = true := by simp [not]
  rw [shownBytes, encodeChars, List.flatMap_cons, if_neg stays, Text.Utf8.encode_append,
    Text.Utf8.encode_cons, Text.Utf8.utf8EncodeChar_of_lt (toNat_lt_of_not_encoded not)]
  rfl

/-- Where a digit is the first byte that is shown, it is the first character. -/
theorem exists_of_shownBytes {segment : List Char} {byte : UInt8} {bytes : List UInt8}
    (shown : shownBytes segment = byte :: bytes) (digit : Form.hexValue? byte ≠ none) :
    ∃ c rest, segment = c :: rest ∧ Text.isHex c = true ∧ bytes = shownBytes rest := by
  rcases segment with _ | ⟨c, rest⟩
  · cases shown
  · cases is : isEncodedInPath c with
    | true =>
        obtain ⟨first, others, written, -⟩ := Text.Utf8.exists_first_byte c
        rw [shownBytes_cons_of_encoded is, written] at shown
        cases (List.cons.inj shown).1
        exact absurd rfl digit
    | false =>
        have hex : ∀ n, n < 128 → Form.hexValue? (UInt8.ofNat n) ≠ none →
            Text.isHex (Char.ofNat n) = true := by decide +kernel
        rw [shownBytes_cons_of_not_encoded is] at shown
        obtain ⟨rfl, rfl⟩ := List.cons.inj shown
        have isHex := hex c.toNat (toNat_lt_of_not_encoded is) digit
        rw [Char.ofNat_toNat] at isHex
        exact ⟨c, rest, rfl, isHex, rfl⟩

theorem readTriplets_cons {byte : UInt8} {rest : List UInt8}
    (apart : byte = 0x25 → ∀ high low others, rest = high :: low :: others →
      Form.triplet? high low = none) :
    Form.readTriplets (byte :: rest) = byte :: Form.readTriplets rest := by
  rw [Form.readTriplets.eq_def]
  split
  · rename_i same
    cases same
  · rename_i high low others same
    cases same
    rw [apart rfl high low others rfl]
  · rename_i same
    cases same
    rfl

/-- Where two bytes that are shown make up a triplet with a percent sign, so do two characters. -/
theorem beginsHex_of_shownBytes {segment : List Char} {high low : UInt8} {others : List UInt8}
    (shown : shownBytes segment = high :: low :: others) (pair : Form.triplet? high low ≠ none) :
    beginsHex segment = true := by
  have digits : Form.hexValue? high ≠ none ∧ Form.hexValue? low ≠ none := by
    unfold Form.triplet? at pair
    cases first : Form.hexValue? high with
    | none => simp [first] at pair
    | some _ =>
        cases second : Form.hexValue? low with
        | none => simp [second] at pair
        | some _ => exact ⟨Option.some_ne_none _, Option.some_ne_none _⟩
  obtain ⟨_, rest, rfl, hexHigh, shownRest⟩ := exists_of_shownBytes shown digits.1
  obtain ⟨_, _, rfl, hexLow, -⟩ := exists_of_shownBytes shownRest.symm digits.2
  rw [beginsHex, hexHigh, hexLow]
  rfl

theorem readTriplets_shownBytes {segment : List Char} (free : hasTriplet segment = false) :
    Form.readTriplets (shownBytes segment) = Text.Utf8.encode segment := by
  induction segment with
  | nil => rfl
  | cons c rest ih =>
      rw [hasTriplet, Bool.or_eq_false_iff] at free
      rw [Text.Utf8.encode_cons]
      cases is : isEncodedInPath c with
      | true => rw [shownBytes_cons_of_encoded is, Form.readTriplets_flatMap_append, ih free.2]
      | false =>
          have below := toNat_lt_of_not_encoded is
          rw [shownBytes_cons_of_not_encoded is, readTriplets_cons, ih free.2,
            Text.Utf8.utf8EncodeChar_of_lt below]
          · rfl
          · -- digits that are shown behind a percent sign are digits of the text itself
            intro percent high low others shown
            by_contra pair
            have code : c.toNat = '%'.toNat := by
              rw [← Text.Utf8.toNat_byte (Nat.lt_trans below (by decide)), percent]
              rfl
            rw [Char.toNat_inj.mp code, beginsHex_of_shownBytes shown pair] at free
            exact absurd free.1 (by decide)

/-- The text of a segment without triplets is read back from what is shown. -/
theorem decodeSegment_encoded {segment : List Char} (free : hasTriplet segment = false) :
    decodeSegment (encoded segment) = String.ofList segment := by
  unfold decodeSegment encoded
  rw [String.toList_ofList]
  have read := readTriplets_shownBytes free
  unfold shownBytes at read
  rw [read, Text.Utf8.decode_encode]

/-! ## Paths -/

/-- A text in which every slash, and what stands for one, is a slash. -/
def slashed (text : List Char) : List Char :=
  text.map fun c => if isSlash true c then '/' else c

theorem pathOf_cons (c : Char) (rest : List Char) :
    pathOf true (c :: rest) = .segments (resolve [] (Text.allPieces '/' (slashed rest))) :=
  rfl

/-- The segments of a path once all of them have been carried out. -/
def above : List Char → List String
  | [] => []
  | _ :: rest => ((Text.allPieces '/' (slashed rest)).foldl settle []).reverse

theorem slashed_append (front rest : List Char) :
    slashed (front ++ rest) = slashed front ++ slashed rest :=
  List.map_append

theorem slashed_of_forall {text : List Char} (free : ∀ c ∈ text, isSlash true c = false) :
    slashed text = text := by
  refine (List.map_congr_left fun c present => ?_).trans (List.map_id' _)
  simp [free c present]

theorem slashed_replicate (count : Nat) :
    slashed (List.replicate count '/') = List.replicate count '/' := by
  rw [slashed, List.map_replicate]
  rfl

/-- Pieces of a path that another slash follows. -/
theorem allPieces_slashed_join (front rest : List Char) :
    Text.allPieces '/' (slashed (front ++ '/' :: rest)) =
      Text.allPieces '/' (slashed front) ++ Text.allPieces '/' (slashed rest) := by
  rw [slashed_append]
  exact Text.allPieces_join '/' (slashed front) (slashed rest)

/-- Two plain segments written behind a path come behind all segments of the path. -/
theorem pathOf_append_pair {first last : List Char} (text : List Char)
    (free : ∀ c ∈ first, isSlash true c = false) (freeLast : ∀ c ∈ last, isSlash true c = false)
    (plainFirst : isPlain first = true) (plainLast : isPlain last = true) :
    pathOf true (text ++ '/' :: (first ++ '/' :: last)) =
      .segments (above text ++ [encoded first, encoded last]) := by
  have single {piece : List Char} (free : ∀ c ∈ piece, isSlash true c = false) :
      Text.allPieces '/' (slashed piece) = [piece] := by
    rw [slashed_of_forall free]
    exact Text.allPieces_of_not_mem fun slash => absurd (free _ slash) (by decide)
  have pair : Text.allPieces '/' (slashed (first ++ '/' :: last)) = [first, last] := by
    rw [allPieces_slashed_join, single free, single freeLast]
    rfl
  cases text with
  | nil =>
      rw [List.nil_append, pathOf_cons, pair]
      exact congrArg UrlPath.segments (resolve_append_pair plainFirst plainLast [])
  | cons slash rest =>
      rw [List.cons_append, pathOf_cons, allPieces_slashed_join, pair,
        resolve_append_pair plainFirst plainLast]
      rfl

/-- Every slash written behind a path leaves an empty segment. -/
theorem pathOf_append_replicate (text : List Char) (count : Nat) :
    pathOf true (text ++ List.replicate (count + 1) '/') =
      .segments (above text ++ List.replicate (count + 1) "") := by
  cases text with
  | nil =>
      rw [List.nil_append, List.replicate_succ, pathOf_cons, slashed_replicate,
        Text.allPieces_replicate, resolve_replicate]
      rfl
  | cons slash rest =>
      have more : List.replicate (count + 1) ([] : List Char) ≠ [] := List.cons_ne_nil _ _
      rw [List.cons_append, pathOf_cons, List.replicate_succ, allPieces_slashed_join,
        slashed_replicate, Text.allPieces_replicate, resolve_append [] _ more, resolve_replicate]
      rfl

/-- At its end a path may have an empty segment more than what is left of it once all its segments have
been carried out. -/
theorem exists_pathOf (text : List Char) :
    ∃ count, pathOf true text = .segments (above text ++ List.replicate count "") := by
  cases text with
  | nil => exact ⟨1, rfl⟩
  | cons slash rest =>
      rcases (Text.allPieces '/' (slashed rest)).eq_nil_or_concat' with nothing | ⟨front, piece, split⟩
      · cases nothing
      · rw [pathOf_cons, above, split, resolve_append [] front (List.cons_ne_nil _ _),
          resolve_singleton, List.foldl_append]
        cases isPlain piece with
        | true => exact ⟨0, rfl⟩
        | false => exact ⟨1, rfl⟩

end Url

end TransferHistory
