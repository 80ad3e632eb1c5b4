import TransferHistory.Toml.Scalar
import TransferHistory.Toml.Table

/-!
# Settings files

A settings file is a sequence of lines: `key = value`, `[table]`, `[[list of tables]]`, with comments
behind `#`. A value is a single one, or a list in brackets or a table in braces, which may go over
several lines. `parse?` gives the tree of a whole file, or none where anything in it is ill formed.
-/

namespace TransferHistory.Toml

/-- How many names a key may have, and how deep lists and tables in values may be nested. -/
def deepest : Nat := 80

/-! ## Keys -/

/-- A character of a key without quotes. -/
def isKeyChar (c : Char) : Bool :=
  c.isAlphanum || c == '_' || c == '-'

/-- One name at the front of a text. -/
def readName (text : List Char) : Option (String × List Char) :=
  match text with
  | '"' :: rest => (readQuoted rest).map fun (name, rest) => (String.ofList name, rest)
  | '\'' :: rest => (readLiteral rest).map fun (name, rest) => (String.ofList name, rest)
  | _ =>
      match text.takeWhile isKeyChar with
      | [] => none
      | name => some (String.ofList name, text.dropWhile isKeyChar)

/-- Names with points between them: the path and the last name. The first argument bounds their
number. -/
def readNames : Nat → List Char → Option ((List String × String) × List Char)
  | 0, _ => none
  | bound + 1, text => do
      let (name, text) ← readName text
      match text.dropWhile Text.isGap with
      | '.' :: rest =>
          let ((path, last), rest) ← readNames bound (rest.dropWhile Text.isGap)
          return ((name :: path, last), rest)
      | rest => return (([], name), rest)

/-- A key: the path and the last name. -/
def readKey (text : List Char) : Option ((List String × String) × List Char) :=
  readNames deepest text

/-! ## Values -/

/-- A text without the blanks, line breaks and comments at its front. The first argument tells that
the front is inside a comment. -/
def skipLines : Bool → List Char → List Char
  | _, [] => []
  | false, '#' :: rest => skipLines true rest
  | _, '\n' :: rest => skipLines false rest
  | _, '\r' :: '\n' :: rest => skipLines false rest
  | true, c :: rest => if isControl c then c :: rest else skipLines true rest
  | false, c :: rest => if Text.isGap c then skipLines false rest else c :: rest

mutual

/-- A value at the front of a text. The first argument bounds the number of steps, the second one how
deep the value may be nested. -/
def readValue : Nat → Nat → List Char → Option (Setting × List Char)
  | 0, _, _ => none
  | steps + 1, room, text =>
      match text, room with
      | '[' :: rest, room + 1 =>
          (readItems steps room rest).map fun (items, rest) => (.list items, rest)
      | '\x7b' :: rest, room + 1 =>
          (readPairs steps room [] rest).map fun (entries, rest) =>
            (.table (Node.finishEntries entries), rest)
      | '[' :: _, 0 | '\x7b' :: _, 0 => none
      | text, _ => readScalar text

/-- The items of a list up to its end. A comma may stand behind the last one. -/
def readItems : Nat → Nat → List Char → Option (List Setting × List Char)
  | 0, _, _ => none
  | steps + 1, room, text =>
      match skipLines false text with
      | ']' :: rest => some ([], rest)
      | text => do
          let (item, text) ← readValue steps room text
          match skipLines false text with
          | ',' :: rest =>
              (readItems steps room rest).map fun (items, rest) => (item :: items, rest)
          | ']' :: rest => some ([item], rest)
          | _ => none

/-- The keys and values of a table in braces, up to its end. A comma may stand behind the last one, and
a line may end anywhere but within a key. -/
def readPairs : Nat → Nat → Entries → List Char → Option (Entries × List Char)
  | 0, _, _, _ => none
  | steps + 1, room, entries, text =>
      match skipLines false text with
      | '\x7d' :: rest => some (entries, rest)
      | text => do
          let ((path, name), text) ← readKey text
          match skipLines false text with
          | '=' :: text =>
              let (value, text) ← readValue steps room (skipLines false text)
              let (_, entries) ← Entries.putKey path name value .header entries
              match skipLines false text with
              | ',' :: rest => readPairs steps room entries rest
              | '\x7d' :: rest => some (entries, rest)
              | _ => none
          | _ => none

end

/-! ## Lines -/

/-- What follows the end of a line, which may be the end of the text. -/
def afterLine? (text : List Char) : Option (List Char) :=
  let text :=
    match text.dropWhile Text.isGap with
    | '#' :: rest => rest.dropWhile (!isControl ·)
    | rest => rest
  match text with
  | [] => some []
  | text => afterBreak? text

/-- The key of a header and what follows its closing brackets. -/
def readHeader (closing : List Char) (text : List Char) :
    Option ((List String × String) × List Char) := do
  let (key, text) ← readKey (text.dropWhile Text.isGap)
  if closing.isPrefixOf text then return (key, text.drop closing.length) else none

/-- The lines of a file: the tree so far, and the header that is in force. The first argument bounds
the number of lines. -/
def readLines : Nat → List String → Entries → List Char → Option Entries
  | 0, _, _, _ => none
  | lines + 1, header, entries, text =>
      match skipLines false text with
      | [] => some entries
      | '[' :: '[' :: text => do
          let ((path, name), text) ← readHeader [']', ']'] text
          let entries ← entries.atHeader path (Entries.openNext name)
          readLines lines (path ++ [name]) entries (← afterLine? text)
      | '[' :: text => do
          let ((path, name), text) ← readHeader [']'] text
          let entries ← entries.atHeader path (Entries.openTable name)
          readLines lines (path ++ [name]) entries (← afterLine? text)
      | text => do
          let ((path, name), text) ← readKey text
          match text with
          | '=' :: text =>
              let (value, text) ← readValue (2 * text.length + 2) deepest (text.dropWhile Text.isGap)
              let entries ← entries.atHeader header (Entries.putKey path name value)
              readLines lines header entries (← afterLine? text)
          | _ => none

/-- The entries of a whole file. A byte-order mark in front of it is skipped. -/
def parse? (text : String) : Option (Ordered Setting) :=
  let text := Text.withoutMark text.toList
  (readLines (text.length + 1) [] [] text).map Node.finishEntries

end TransferHistory.Toml
