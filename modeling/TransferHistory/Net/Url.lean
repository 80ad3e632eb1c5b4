import TransferHistory.Net.Host

/-!
# Web addresses

A web address is read from left to right: a scheme, for most schemes a host with an optional user
and port, a path, a query and a fragment. The special schemes always have a host, that of files
excepted, and take a backslash for a slash. A path is a list of segments in which `.` and `..` have been
carried out, or one opaque text where the scheme has no hierarchy. What cannot stand in an address as
it is becomes percent triplets.

`Url.target` is what a request line shows of an address: the path and the query.
-/

namespace TransferHistory

/-- The path of a web address. -/
inductive UrlPath where
  | segments (texts : List String)
  | flat (text : String)
  deriving DecidableEq, Repr

/-- A web address. The fragment is not kept. The user stands as it was written, with a password behind a
colon. -/
structure Url where
  scheme : String
  user : Option String := none
  host : Option Host := none
  port : Option Nat := none
  path : UrlPath
  query : Option String := none
  deriving DecidableEq, Repr

namespace Url

/-! ## Characters -/

/-- A character that is dropped wherever it stands. -/
def isDropped (c : Char) : Bool :=
  c == '\t' || c == '\n' || c == '\r'

/-- A character that is dropped at either end. -/
def isOuter (c : Char) : Bool :=
  c.toNat ≤ 0x20

/-- A character that a path shows as triplets. -/
def isEncodedInPath (c : Char) : Bool :=
  c.toNat ≤ 0x20 || 0x7F ≤ c.toNat || "\"#<>?`\x7b\x7d".toList.contains c

/-- A character that a query shows as triplets. -/
def isEncodedInQuery (special : Bool) (c : Char) : Bool :=
  c.toNat ≤ 0x20 || 0x7F ≤ c.toNat || "\"#<>".toList.contains c || (special && c == '\'')

/-- A text with some of its characters as triplets. -/
def encodeChars (isEncoded : Char → Bool) (text : List Char) : List Char :=
  text.flatMap fun c =>
    if isEncoded c then
      (Form.encode c.toString).map fun byte => Char.ofNat byte.toNat
    else [c]

/-! ## Parts -/

/-- The default port of a special scheme. -/
def specialPorts : List (String × Nat) :=
  [("http", 80), ("https", 443), ("ws", 80), ("wss", 443), ("ftp", 21)]

/-- A scheme that takes a backslash for a slash. All of them but that of files always have a host. -/
def isSpecial (scheme : String) : Bool :=
  scheme == "file" || (specialPorts.lookup scheme).isSome

/-- A character behind the first one of a scheme. -/
def isSchemeChar (c : Char) : Bool :=
  c.isAlphanum || c == '+' || c == '-' || c == '.'

/-- The scheme of a text, in small letters, and what follows its colon. -/
def scheme? (text : List Char) : Option (String × List Char) :=
  match Text.cut ':' text with
  | (first :: others, some rest) =>
      if first.isAlpha && others.all isSchemeChar then
        some (String.ofList ((first :: others).map Char.toLower), rest)
      else none
  | _ => none

/-- A slash, or what stands for one. -/
def isSlash (special : Bool) (c : Char) : Bool :=
  c == '/' || (special && c == '\\')

/-- The authority of a text and its path. -/
def splitAuthority (special : Bool) (text : List Char) : List Char × List Char :=
  (text.takeWhile (!isSlash special ·), text.dropWhile (!isSlash special ·))

/-- What stands before the last occurrence of a character, and what stands behind it. -/
def cutLast? (sep : Char) (text : List Char) : Option (List Char × List Char) :=
  match Text.cut sep text.reverse with
  | (behind, some before) => some (before.reverse, behind.reverse)
  | (_, none) => none

/-- The host of an authority and the text of its port, which stands behind the first colon outside
brackets. -/
def splitPort : Bool → List Char → List Char × Option (List Char)
  | _, [] => ([], none)
  | inside, c :: rest =>
      if c = ':' ∧ inside = false then ([], some rest)
      else
        let (host, port) := splitPort (if c = '[' then true else if c = ']' then false else inside) rest
        (c :: host, port)

/-- The port that digits denote, unless it is the default one. -/
def port? (scheme : String) (digits : List Char) : Except UrlError (Option Nat) :=
  if digits.all Char.isDigit then
    let number := Text.natural digits
    if 65535 < number then .error .badPort
    else if digits.isEmpty ∨ specialPorts.lookup scheme = some number then .ok none
    else .ok (some number)
  else .error .badPort

/-- A segment that stands for the place where it is. -/
def isHere (segment : List Char) : Bool :=
  [".", "%2e"].contains (String.ofList (segment.map Char.toLower))

/-- A segment that stands for the place above. -/
def isAbove (segment : List Char) : Bool :=
  ["..", ".%2e", "%2e.", "%2e%2e"].contains (String.ofList (segment.map Char.toLower))

/-- The segments of a path once `.` and `..` have been carried out; the first argument holds the ones
before, the last of them first. At the end such a segment leaves an empty one. -/
def resolve (before : List String) : List (List Char) → List String
  | [] => before.reverse
  | [last] =>
      if isAbove last then ("" :: before.tail).reverse
      else if isHere last then ("" :: before).reverse
      else (String.ofList (encodeChars isEncodedInPath last) :: before).reverse
  | segment :: rest =>
      if isAbove segment then resolve before.tail rest
      else if isHere segment then resolve before rest
      else resolve (String.ofList (encodeChars isEncodedInPath segment) :: before) rest

/-- The path of a text that begins with a slash or is empty. -/
def pathOf (special : Bool) (text : List Char) : UrlPath :=
  let slashed := text.map fun c => if isSlash special c then '/' else c
  match slashed with
  | [] => .segments (if special then [""] else [])
  | _ :: rest =>
      let (first, others) := Text.pieces '/' rest
      .segments (resolve [] (first :: others))

/-! ## Whole addresses -/

/-- The user, the host and the port of an authority. -/
def authority (scheme : String) (special : Bool) (text : List Char) :
    Except UrlError (Option String × Host × Option Nat) := do
  let (user, place) ←
    match cutLast? '@' text with
    | none => pure (none, text)
    | some (user, place) =>
        if place.isEmpty then .error .emptyHost
        else pure (if user.isEmpty then none else some (String.ofList user), place)
  let (host, port) := splitPort false place
  if host.isEmpty && (special || port.isSome) then .error .emptyHost
  else
    let host ← Host.parse? special host
    let port ← port? scheme (port.getD [])
    return (user, host, port)

/-- The letter of a drive, which a file's address may have in the place of a host. -/
def isDrive : List Char → Bool
  | [letter, mark] => letter.isAlpha && (mark == ':' || mark == '|')
  | _ => false

/-- The address of a file on the machine itself, which counts as no host. The path begins with a slash
in any case. -/
def ofLocalFile (query : Option String) (path : List Char) : Url :=
  { scheme := "file", query
    path := pathOf true (if path.head?.any (isSlash true) then path else '/' :: path) }

/-- The address of a file and the text between the colon of the scheme and the query. -/
def ofFileBody (query : Option String) (body : List Char) : Except UrlError Url := do
  match body with
  | first :: second :: rest =>
      if isSlash true first && isSlash true second then
        let (place, path) := splitAuthority true rest
        if isDrive place then return ofLocalFile query rest
        else if place.isEmpty then return ofLocalFile query path
        else
          let host ← Host.parse? true place
          if host = .name "localhost" then return ofLocalFile query path
          else return { ofLocalFile query path with host := some host }
      else return ofLocalFile query body
  | _ => return ofLocalFile query body

/-- The address of a scheme and the text between its colon and the query. -/
def ofBody (scheme : String) (query : Option String) (body : List Char) : Except UrlError Url := do
  if scheme = "file" then ofFileBody query body
  else if isSpecial scheme then
    let (place, rest) := splitAuthority true (body.dropWhile (isSlash true))
    let (user, host, port) ← authority scheme true place
    return { scheme, user, host, port, path := pathOf true rest, query }
  else
    match body with
    | '/' :: '/' :: rest =>
        let (place, rest) := splitAuthority false rest
        if place.isEmpty then return { scheme, path := pathOf false rest, query }
        else
          let (user, host, port) ← authority scheme false place
          return { scheme, user, host, port, path := pathOf false rest, query }
    | '/' :: rest => return { scheme, path := pathOf false ('/' :: rest), query }
    | text =>
        return { scheme, path := .flat (String.ofList (encodeChars (fun c => c.toNat < 0x20 ||
          0x7F ≤ c.toNat) text)), query }

/-- The address that a text denotes. -/
def parse? (text : String) : Except UrlError Url :=
  let outer := (text.toList.dropWhile isOuter).reverse.dropWhile isOuter
  let kept := outer.reverse.filter (!isDropped ·)
  match scheme? kept with
  | none => .error .relative
  | some (scheme, rest) =>
      let (body, query) := Text.cut '?' (Text.cut '#' rest).1
      ofBody scheme
        (query.map fun query => String.ofList (encodeChars (isEncodedInQuery (isSpecial scheme)) query))
        body

/-- The text of a path. -/
def pathText : UrlPath → String
  | .segments texts => String.join (texts.map ("/" ++ ·))
  | .flat text => text

/-- The path and the query, as a request line shows them. -/
def target (url : Url) : String :=
  pathText url.path ++ (url.query.map ("?" ++ ·)).getD ""

/-- An address with one more name and value in its query. -/
def withPair (name value : String) (url : Url) : Url :=
  let before := match url.query with
    | none | some "" => ""
    | some query => query ++ "&"
  { url with query := some (before ++ name ++ "=" ++ value) }

end Url

end TransferHistory
