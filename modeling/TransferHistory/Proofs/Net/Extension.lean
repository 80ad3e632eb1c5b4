import Mathlib.Data.List.TakeWhile
import TransferHistory.Proofs.Net.Segments
import TransferHistory.Proofs.Result

/-!
# Addresses that are written on

An address is read from left to right, so what is written behind its path changes nothing in front of
it: the scheme, the user, the host and the port stay, and the path goes on. This fails where the address
goes on after its path, and where a part of its end is dropped that counts once more is written.

Results:
1. `Url.scheme_of_extended`: the scheme of an address stays, whatever is written behind it.
2. `Url.parse?_append`: what an address that is written on is read as.
3. `Url.exists_parts`: it keeps its authority, and its path goes on.
4. `Url.exists_extended`: the address when two segments are written behind it.
-/

namespace TransferHistory

namespace Url

/-! ## Characters that count -/

/-- A text without what is dropped at its front and inside. -/
def inner (text : List Char) : List Char :=
  (text.dropWhile isOuter).filter (!isDropped ·)

/-- A text without what is dropped at either end and inside. -/
def kept (text : List Char) : List Char :=
  ((text.dropWhile isOuter).reverse.dropWhile isOuter).reverse.filter (!isDropped ·)

/-- A text ends in a character that is not dropped there. -/
def EndsVisibly (text : List Char) : Prop :=
  ∃ last, text.getLast? = some last ∧ isOuter last = false

theorem kept_prefix_inner (text : List Char) : kept text <+: inner text := by
  refine List.IsPrefix.filter _ ?_
  rw [← List.reverse_suffix, List.reverse_reverse]
  exact List.dropWhile_suffix _

theorem exists_dropWhile_concat {last : Char} (shown : isOuter last = false) (init : List Char) :
    ∃ front, (init ++ [last]).dropWhile isOuter = front ++ [last] := by
  rw [List.dropWhile_append]
  split
  · exact ⟨[], by simp [shown]⟩
  · exact ⟨_, rfl⟩

theorem kept_of_endsVisibly {text : List Char} (visible : EndsVisibly text) : kept text = inner text := by
  obtain ⟨last, ends, shown⟩ := visible
  obtain ⟨init, rfl⟩ := List.getLast?_eq_some_iff.mp ends
  obtain ⟨front, split⟩ := exists_dropWhile_concat shown init
  have visible : ¬ isOuter last = true := by simp [shown]
  rw [kept, inner, split, List.reverse_append, List.reverse_singleton, List.singleton_append,
    List.dropWhile_cons_of_neg visible, List.reverse_cons, List.reverse_reverse]

theorem inner_append {front : List Char} {c : Char} (present : c ∈ front) (shown : isOuter c = false)
    (rest : List Char) : inner (front ++ rest) = inner front ++ rest.filter (!isDropped ·) := by
  have some_char : ¬ (front.dropWhile isOuter).isEmpty = true := by
    rw [List.isEmpty_iff, List.dropWhile_eq_nil_iff]
    intro all
    rw [all c present] at shown
    cases shown
  rw [inner, inner, List.dropWhile_append, if_neg some_char, List.filter_append]

/-! ## Schemes -/

/-- A scheme is told by what stands in front of the first colon alone. -/
theorem exists_of_scheme? {text rest : List Char} {scheme : String}
    (read : scheme? text = some (scheme, rest)) :
    ∃ front, text = front ++ ':' :: rest ∧
      ∀ other, scheme? (front ++ ':' :: other) = some (scheme, other) := by
  unfold scheme? at read
  split at read
  · rename_i first others behind found
    obtain ⟨whole, absent⟩ := Text.cut_some found
    obtain ⟨wellFormed, same⟩ := Option.ite_none_right_eq_some.mp read
    cases same
    refine ⟨first :: others, whole, fun other => ?_⟩
    unfold scheme?
    rw [Text.cut_join absent]
    exact if_pos wellFormed
  · cases read

/-- What is told of the texts of an address: the scheme, and what follows its colon. -/
theorem parse?_of_scheme? {text : String} {scheme : String} {rest : List Char}
    (read : scheme? (kept text.toList) = some (scheme, rest)) (noFragment : '#' ∉ rest)
    (noQuery : '?' ∉ rest) : parse? text = ofBody scheme none rest := by
  unfold kept at read
  unfold parse?
  dsimp only
  rw [read]
  dsimp only
  rw [Text.cut_of_not_mem noFragment, Text.cut_of_not_mem noQuery]
  rfl

theorem exists_scheme?_of_parse? {text : String} {url : Url} (read : parse? text = .ok url) :
    ∃ scheme rest query body, scheme? (kept text.toList) = some (scheme, rest) ∧
      ofBody scheme query body = .ok url := by
  unfold parse? at read
  dsimp only at read
  split at read
  · cases read
  · rename_i scheme rest found
    exact ⟨scheme, rest, _, _, found, read⟩

theorem scheme_ofFileBody {query : Option String} {body : List Char} {url : Url}
    (read : ofFileBody query body = .ok url) : url.scheme = "file" := by
  unfold ofFileBody at read
  split at read
  · split at read
    · dsimp only at read
      split at read
      · cases read
        rfl
      · split at read
        · cases read
          rfl
        · obtain ⟨host, -, made⟩ := bind_eq_ok_iff.mp read
          split at made <;> cases made <;> rfl
    · cases read
      rfl
  · cases read
    rfl

theorem scheme_ofBody {scheme : String} {query : Option String} {body : List Char} {url : Url}
    (read : ofBody scheme query body = .ok url) : url.scheme = scheme := by
  unfold ofBody at read
  split at read
  · rename_i same
    rw [scheme_ofFileBody read, same]
  · split at read
    · dsimp only at read
      obtain ⟨_, -, made⟩ := bind_eq_ok_iff.mp read
      cases made
      rfl
    · split at read
      · dsimp only at read
        split at read
        · cases read
          rfl
        · obtain ⟨_, -, made⟩ := bind_eq_ok_iff.mp read
          cases made
          rfl
      · cases read
        rfl
      · cases read
        rfl

theorem mem_of_mem_inner {text : List Char} {c : Char} (present : c ∈ inner text) : c ∈ text :=
  (List.dropWhile_sublist _).mem (List.mem_filter.mp present).1

/-- An address has a colon behind its scheme. -/
theorem colon_mem_of_parse? {text : String} {url : Url} (read : parse? text = .ok url) :
    ':' ∈ text.toList := by
  obtain ⟨scheme, rest, query, body, told, -⟩ := exists_scheme?_of_parse? read
  obtain ⟨front, whole, -⟩ := exists_of_scheme? told
  have present : ':' ∈ kept text.toList := by simp [whole]
  exact mem_of_mem_inner ((kept_prefix_inner text.toList).subset present)

/-- In front of its last slashes an address has a scheme and a colon. -/
theorem exists_inner_eq {text : List Char} {count : Nat} {url : Url}
    (read : parse? (String.ofList (text ++ List.replicate count '/')) = .ok url) :
    ∃ front body, inner text = front ++ ':' :: body ∧
      ∀ other, scheme? (front ++ ':' :: other) = some (url.scheme, other) := by
  obtain ⟨scheme, rest, query, body, told, made⟩ := exists_scheme?_of_parse? read
  rw [String.toList_ofList] at told
  obtain ⟨front, whole, tells⟩ := exists_of_scheme? told
  rw [scheme_ofBody made]
  obtain ⟨dropped, more⟩ := kept_prefix_inner (text ++ List.replicate count '/')
  -- slashes have no colon, so the first one stands in front of them
  have noSlash : ':' ∉ (List.replicate count '/').filter (!isDropped ·) := by
    intro present
    have same := List.eq_of_mem_replicate (List.mem_filter.mp present).1
    exact absurd same (by decide)
  have colon : ':' ∈ text := by
    have present := colon_mem_of_parse? read
    rw [String.toList_ofList] at present
    rcases List.mem_append.mp present with inText | slash
    · exact inText
    · exact absurd (List.eq_of_mem_replicate slash) (by decide)
  rw [inner_append colon (by decide), whole, List.append_assoc, List.cons_append] at more
  rcases List.append_eq_append_iff.mp more with ⟨between, split, behind⟩ | ⟨between, split, behind⟩
  · rcases between with _ | ⟨c, between⟩
    · rw [List.nil_append] at behind
      exact absurd (behind ▸ List.mem_cons_self) noSlash
    · obtain ⟨rfl, -⟩ := List.cons.inj behind
      exact ⟨front, between, split, tells⟩
  · exact absurd (by simp [behind]) noSlash

theorem colon_mem {text front body : List Char} (split : inner text = front ++ ':' :: body) :
    ':' ∈ text := by
  apply mem_of_mem_inner
  rw [split]
  exact List.mem_append_right _ List.mem_cons_self

theorem endsVisibly_append {rest : List Char} (visible : EndsVisibly rest) (text : List Char) :
    EndsVisibly (text ++ rest) := by
  obtain ⟨last, ends, shown⟩ := visible
  exact ⟨last, by simp [List.getLast?_append, ends], shown⟩

/-- The scheme of an address stays, whatever is written behind it in the place of its last slashes. -/
theorem scheme_of_extended {text rest : List Char} {count : Nat} {whole url : Url}
    (read : parse? (String.ofList (text ++ List.replicate count '/')) = .ok whole)
    (visible : EndsVisibly rest) (extended : parse? (String.ofList (text ++ rest)) = .ok url) :
    url.scheme = whole.scheme := by
  obtain ⟨front, body, split, tells⟩ := exists_inner_eq read
  obtain ⟨scheme, _, _, _, told, made⟩ := exists_scheme?_of_parse? extended
  rw [String.toList_ofList, kept_of_endsVisibly (endsVisibly_append visible text),
    inner_append (colon_mem split) (by decide) rest, split, List.append_assoc, List.cons_append,
    tells] at told
  cases told
  exact scheme_ofBody made

/-! ## Authorities and paths -/

/-- The authority in the text behind the colon of a web address. -/
def placeOf (body : List Char) : List Char :=
  (body.dropWhile (isSlash true)).takeWhile (!isSlash true ·)

/-- The path in the text behind the colon of a web address. -/
def tailOf (body : List Char) : List Char :=
  (body.dropWhile (isSlash true)).dropWhile (!isSlash true ·)

/-- The address that an authority and a path make up. -/
def ofParts (scheme : String) (parts : Option String × Host × Option Nat) (path : List Char) : Url where
  scheme := scheme
  user := parts.1
  host := some parts.2.1
  port := parts.2.2
  path := pathOf true path

theorem ofBody_eq {scheme : String} (web : scheme = "http" ∨ scheme = "https") (body : List Char) :
    ofBody scheme none body =
      (authority scheme true (placeOf body)).map fun parts => ofParts scheme parts (tailOf body) := by
  have special : ∀ scheme, scheme = "http" ∨ scheme = "https" →
      isSpecial scheme = true ∧ scheme ≠ "file" := by
    rintro scheme (rfl | rfl) <;> decide +kernel
  obtain ⟨is, ne⟩ := special scheme web
  unfold ofBody
  rw [if_neg ne, if_pos is]
  show (authority scheme true (placeOf body) >>= fun parts => pure (ofParts scheme parts (tailOf body))) = _
  cases authority scheme true (placeOf body) <;> rfl

/-- A web address has a host in front of its path. -/
theorem exists_host {scheme : String} {body : List Char} {parts : Option String × Host × Option Nat}
    (read : authority scheme true (placeOf body) = .ok parts) :
    ∃ c ∈ body, isSlash true c = false := by
  by_contra all
  have slashes : ∀ c ∈ body, isSlash true c = true := by
    intro c present
    by_contra other
    exact all ⟨c, present, Bool.eq_false_iff.mpr other⟩
  rw [placeOf, List.dropWhile_eq_nil_iff.mpr slashes] at read
  cases read

/-- What is written behind a host or a path, and begins with a slash if it is anything, goes on with the
path. -/
theorem parts_append {body rest : List Char} {c : Char} (present : c ∈ body)
    (host : isSlash true c = false)
    (begins : ∀ first, rest.head? = some first → isSlash true first = true) :
    placeOf (body ++ rest) = placeOf body ∧ tailOf (body ++ rest) = tailOf body ++ rest := by
  have some_char : ¬ (body.dropWhile (isSlash true)).isEmpty = true := by
    rw [List.isEmpty_iff, List.dropWhile_eq_nil_iff]
    intro all
    rw [all c present] at host
    cases host
  have ended : rest.takeWhile (!isSlash true ·) = [] ∧ rest.dropWhile (!isSlash true ·) = rest := by
    cases rest with
    | nil => exact ⟨rfl, rfl⟩
    | cons first others => simp [begins first rfl]
  unfold placeOf tailOf
  rw [List.dropWhile_append, if_neg some_char, List.takeWhile_append, List.dropWhile_append, ended.1,
    ended.2]
  constructor
  · split
    · rename_i whole
      rw [List.append_nil]
      exact ((List.takeWhile_prefix _).eq_of_length whole).symm
    · rfl
  · split
    · rename_i empty
      rw [List.isEmpty_iff.mp empty, List.nil_append]
    · rfl

/-! ## Writing on -/

/-- An address behind which more can be written in the place of its last slashes: it ends with its path,
and nothing but tabs and line breaks is dropped at its end. -/
structure Extensible (text : List Char) (count : Nat) : Prop where
  noQuery : '?' ∉ text
  noFragment : '#' ∉ text
  shown : kept (text ++ List.replicate count '/') = inner (text ++ List.replicate count '/')

/-- What can be written behind an address. -/
structure Follows (text rest : List Char) : Prop where
  begins : ∀ first, rest.head? = some first → isSlash true first = true
  each : ∀ c ∈ rest, isDropped c = false ∧ c ≠ '?' ∧ c ≠ '#'
  shown : kept (text ++ rest) = inner (text ++ rest)

variable {text : List Char} {count : Nat}

theorem follows_replicate (shown : kept (text ++ List.replicate count '/') =
    inner (text ++ List.replicate count '/')) : Follows text (List.replicate count '/') where
  begins := by
    intro first leads
    rw [List.eq_of_mem_replicate (List.mem_of_mem_head? leads)]
    decide
  each := by
    intro c present
    rw [List.eq_of_mem_replicate present]
    decide
  shown := shown

/-- What an address is read as that is written on behind its colon. -/
theorem parse?_append {front body rest : List Char} {scheme : String}
    (web : scheme = "http" ∨ scheme = "https") (split : inner text = front ++ ':' :: body)
    (tells : ∀ other, scheme? (front ++ ':' :: other) = some (scheme, other)) (noQuery : '?' ∉ text)
    (noFragment : '#' ∉ text) (follows : Follows text rest) :
    parse? (String.ofList (text ++ rest)) =
      (authority scheme true (placeOf (body ++ rest))).map fun parts =>
        ofParts scheme parts (tailOf (body ++ rest)) := by
  have within {c : Char} (present : c ∈ body) : c ∈ text := by
    apply mem_of_mem_inner
    rw [split]
    exact List.mem_append_right _ (List.mem_cons_of_mem _ present)
  have all : rest.filter (!isDropped ·) = rest :=
    List.filter_eq_self.mpr fun c present => by simp [(follows.each c present).1]
  have told : scheme? (kept (String.ofList (text ++ rest)).toList) = some (scheme, body ++ rest) := by
    rw [String.toList_ofList, follows.shown, inner_append (colon_mem split) (by decide), all, split,
      List.append_assoc, List.cons_append, tells]
  rw [parse?_of_scheme? told, ofBody_eq web]
  · intro present
    rcases List.mem_append.mp present with inBody | inRest
    · exact noFragment (within inBody)
    · exact (follows.each _ inRest).2.2 rfl
  · intro present
    rcases List.mem_append.mp present with inBody | inRest
    · exact noQuery (within inBody)
    · exact (follows.each _ inRest).2.1 rfl

/-- An address that is written on keeps its authority, and its path goes on. -/
theorem exists_parts (extensible : Extensible text count) {whole : Url}
    (read : parse? (String.ofList (text ++ List.replicate count '/')) = .ok whole)
    (web : whole.scheme = "http" ∨ whole.scheme = "https") :
    ∃ parts path, ∀ rest, Follows text rest →
      parse? (String.ofList (text ++ rest)) = .ok (ofParts whole.scheme parts (path ++ rest)) := by
  obtain ⟨front, body, split, tells⟩ := exists_inner_eq read
  have parsed {rest : List Char} (follows : Follows text rest) :=
    parse?_append web split tells extensible.noQuery extensible.noFragment follows
  have slashes := follows_replicate extensible.shown
  rw [parsed slashes] at read
  cases found : authority whole.scheme true (placeOf (body ++ List.replicate count '/')) with
  | error error =>
      rw [found] at read
      cases read
  | ok parts =>
      -- the host stands in front of the last slashes, so the authority ends before them
      obtain ⟨c, present, host⟩ := exists_host found
      have inBody : c ∈ body := by
        rcases List.mem_append.mp present with inBody | slash
        · exact inBody
        · rw [List.eq_of_mem_replicate slash] at host
          exact absurd host (by decide)
      rw [(parts_append inBody host slashes.begins).1] at found
      refine ⟨parts, tailOf body, fun rest follows => ?_⟩
      obtain ⟨samePlace, goesOn⟩ := parts_append inBody host follows.begins
      rw [parsed follows, samePlace, goesOn, found]
      rfl

/-- A character that stands within a segment: it ends neither the segment nor the path, and is not
dropped. -/
def isWithin (c : Char) : Bool :=
  !isSlash true c && !isDropped c && c != '?' && c != '#'

theorem isWithin_iff {c : Char} :
    isWithin c = true ↔ isSlash true c = false ∧ isDropped c = false ∧ c ≠ '?' ∧ c ≠ '#' := by
  simp [isWithin, and_assoc]

/-- The text of one segment without a meaning of its own. -/
structure IsSegment (segment : List Char) : Prop where
  within : segment.all isWithin = true
  plain : isPlain segment = true

theorem IsSegment.each {segment : List Char} (is : IsSegment segment) {c : Char} (present : c ∈ segment) :
    isSlash true c = false ∧ isDropped c = false ∧ c ≠ '?' ∧ c ≠ '#' :=
  isWithin_iff.mp (List.all_eq_true.mp is.within c present)

theorem follows_pair {first last : List Char} (isFirst : IsSegment first) (isLast : IsSegment last)
    (visible : EndsVisibly last) (text : List Char) :
    Follows text ('/' :: (first ++ '/' :: last)) where
  begins := by
    intro c leads
    cases leads
    decide
  each := by
    have slash : isDropped '/' = false ∧ '/' ≠ '?' ∧ '/' ≠ '#' := by decide
    intro c present
    rcases List.mem_cons.mp present with rfl | present
    · exact slash
    · rcases List.mem_append.mp present with inFirst | present
      · exact (isFirst.each inFirst).2
      · rcases List.mem_cons.mp present with rfl | inLast
        · exact slash
        · exact (isLast.each inLast).2
  shown := by
    have ends := endsVisibly_append visible (text ++ '/' :: (first ++ ['/']))
    exact kept_of_endsVisibly (by simpa using ends)

/-- Where two segments are written behind an address, in the place of its last slashes, they come
behind its path, and nothing else changes. -/
theorem exists_extended (extensible : Extensible text count) {whole : Url}
    (read : parse? (String.ofList (text ++ List.replicate count '/')) = .ok whole)
    (web : whole.scheme = "http" ∨ whole.scheme = "https") :
    ∃ base, parse? (String.ofList (text ++ ['/'])) = .ok base ∧ whole.query = none ∧
      (∃ empty, whole.path = .segments (base.path.stem ++ List.replicate empty "")) ∧
      ∀ first last, IsSegment first → IsSegment last → EndsVisibly last →
        parse? (String.ofList (text ++ '/' :: (first ++ '/' :: last))) =
          .ok { whole with path := .segments (base.path.stem ++ [encoded first, encoded last]) } := by
  obtain ⟨parts, path, goesOn⟩ := exists_parts extensible read web
  have slash : Follows text (List.replicate 1 '/') :=
    follows_replicate (kept_of_endsVisibly (endsVisibly_append ⟨'/', rfl, by decide⟩ text))
  have stem : (ofParts whole.scheme parts (path ++ ['/'])).path.stem = above path := by
    show (pathOf true (path ++ List.replicate 1 '/')).stem = above path
    rw [pathOf_append_replicate]
    exact List.dropLast_concat
  have same := goesOn _ (follows_replicate extensible.shown)
  rw [read, Except.ok.injEq] at same
  refine ⟨_, goesOn _ slash, congrArg Url.query same, ?_, ?_⟩
  · have ends : ∃ empty, pathOf true (path ++ List.replicate count '/') =
        .segments (above path ++ List.replicate empty "") := by
      cases count with
      | zero =>
          rw [List.replicate_zero, List.append_nil]
          exact exists_pathOf path
      | succ count => exact ⟨_, pathOf_append_replicate path count⟩
    obtain ⟨empty, ends⟩ := ends
    refine ⟨empty, (congrArg Url.path same).trans (ends.trans ?_)⟩
    exact congrArg (fun texts => UrlPath.segments (texts ++ _)) stem.symm
  · intro first last isFirst isLast visible
    rw [goesOn _ (follows_pair isFirst isLast visible text)]
    have both := pathOf_append_pair path (fun c present => (isFirst.each present).1)
      (fun c present => (isLast.each present).1) isFirst.plain isLast.plain
    rw [← stem] at both
    generalize whole.scheme = scheme at *
    subst same
    rw [ofParts, both]
    rfl

end Url

end TransferHistory
