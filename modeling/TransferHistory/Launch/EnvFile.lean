import TransferHistory.Config.Environment
import TransferHistory.Text.Utf8

/-!
# Variables from a file

A file of lines `NAME=value` adds to the environment; a variable that is already set keeps its value.
A text in quotes may go over several lines, `#` behind a blank begins a comment, and `$NAME` or
`${NAME}` stands for the value of a variable. Nothing stands for something between single quotes.

Reading stops at the first line that is ill formed; what stood before it counts.
-/

namespace TransferHistory.EnvFile

/-- A line that is ill formed, and the place in it where that showed. -/
structure Defect where
  line : String
  place : Nat
  deriving DecidableEq, Repr

/-- The wording of a defect. -/
def Defect.message (defect : Defect) : String :=
  "Error parsing line: '" ++ defect.line ++ "', error at line index: " ++
    Json.renderInt defect.place

/-- The number of bytes of a text. -/
def byteCount (text : List Char) : Nat :=
  (Text.Utf8.encode text).length

/-! ## Lines -/

/-- Where a line is, as far as its end is concerned. -/
inductive Position where
  | plain
  | blank
  | escape
  | double
  | doubleEscape
  | single
  | singleEscape
  | comment
  deriving DecidableEq, Repr

namespace Position

/-- The position behind an ordinary character. -/
def opened (c : Char) : Position :=
  if c = '\\' then .escape
  else if c = '"' then .double
  else if c = '\'' then .single
  else .plain

/-- The position behind a character. -/
def next (c : Char) : Position → Position
  | .plain => if Text.isBlank c ∧ c ≠ '\n' ∧ c ≠ '\r' then .blank else opened c
  | .blank => if c = '#' then .comment else opened c
  | .escape => .plain
  | .double => if c = '\\' then .doubleEscape else if c = '"' then .plain else .double
  | .doubleEscape => .double
  | .single => if c = '\\' then .singleEscape else if c = '\'' then .plain else .single
  | .singleEscape => .single
  | .comment => .comment

/-- The part of a text in front of a comment, and the position at the end. -/
def scan (position : Position) : List Char → List Char × Position
  | [] => ([], position)
  | c :: rest =>
      match next c position with
      | .comment => ([], .comment)
      | position =>
          let (kept, last) := scan position rest
          (c :: kept, last)

end Position

/-- The lines of a text, each with its line feed. -/
def rawLines (text : List Char) : List (List Char) :=
  let (first, others) := Text.pieces '\n' text
  let all := first :: others
  let last := all.getLast?.getD []
  all.dropLast.map (· ++ ['\n']) ++ (if last.isEmpty then [] else [last])

/-- A line without its line feed. -/
def withoutBreak (line : List Char) : List Char :=
  match line.reverse with
  | '\n' :: '\r' :: rest => rest.reverse
  | '\n' :: rest => rest.reverse
  | _ => line

/-- Lines put together where something is left open at the end of one; the first argument holds what
was kept so far. What is still open at the end of the text is a defect. -/
def joinLines (kept : List Char) (position : Position) :
    List (List Char) → List (Except Defect (List Char))
  | [] =>
      if position = .plain then [] else [.error ⟨String.ofList kept, byteCount kept⟩]
  | line :: rest =>
      if (Text.trimStart (kept ++ line)).head? = some '#' then .ok [] :: joinLines [] .plain rest
      else
        match Position.scan position line with
        | (_, .plain) => .ok (withoutBreak (kept ++ line)) :: joinLines [] .plain rest
        | (front, .comment) => .ok (kept ++ front) :: joinLines [] .plain rest
        | (_, position) => joinLines (kept ++ line) position rest

/-! ## Values -/

/-- Ranges of characters beyond ASCII that are no letters and no digits. -/
def symbols : List (Nat × Nat) :=
  [(0x80, 0xA9), (0xAB, 0xB1), (0xB4, 0xB4), (0xB6, 0xB8), (0xBB, 0xBB), (0xBF, 0xBF), (0xD7, 0xD7),
    (0xF7, 0xF7), (0x2000, 0x206F), (0x20A0, 0x20CF), (0x2190, 0x245F), (0x2500, 0x2BFF),
    (0x3000, 0x3004), (0xD800, 0xF8FF), (0xFE00, 0xFE6F), (0xFFF0, 0xFFFF), (0x1F000, 0x1FAFF)]

/-- A letter or a digit. Of the characters beyond ASCII those outside the ranges of symbols count. -/
def isNameChar (c : Char) : Bool :=
  c.isAlphanum ||
    (0x80 ≤ c.toNat && !Text.isBlank c &&
      symbols.all fun range => c.toNat < range.1 || range.2 < c.toNat)

/-- What the characters of a value are part of. -/
inductive Part where
  | text
  | escape
  | single
  /-- Behind the value, where only a comment may follow. -/
  | behind
  | comment
  /-- The name of a variable, between braces or not. -/
  | name (braces : Bool) (name : List Char)
  deriving DecidableEq, Repr

/-- A value while it is read: what it is so far, and whether double quotes are open. -/
structure Partial where
  part : Part := .text
  double : Bool := false
  value : List Char := []
  deriving DecidableEq, Repr

namespace Partial

/-- One more character of the value. -/
def push (c : Char) (read : Partial) : Partial :=
  { read with part := .text, value := read.value ++ [c] }

/-- The value of a variable added. -/
def pushVariable (environment : Environment) (name : List Char) (read : Partial) : Partial :=
  { read with
    part := .text
    value := read.value ++ ((Ordered.get? (String.ofList name) environment).getD "").toList }

/-- A character of the text itself. -/
def pushText (c : Char) (read : Partial) : Partial :=
  if c = '$' then { read with part := .name false [] }
  else if c = '\\' then { read with part := .escape }
  else if c = '"' then { read with double := !read.double }
  else if read.double then read.push c
  else if c = '\'' then { read with part := .single }
  else if c = ' ' ∨ c = '\t' then { read with part := .behind }
  else read.push c

/-- A character behind the name of a variable without braces. -/
def endName (environment : Environment) (name : List Char) (c : Char) (read : Partial) : Partial :=
  if c = '\x7b' ∧ name = [] then { read with part := .name true [] }
  else
    let read := read.pushVariable environment name
    if c = '$' then { read with part := .name false [] } else read.push c

/-- The next character, unless it cannot stand where it does. -/
def next? (environment : Environment) (c : Char) (read : Partial) : Option Partial :=
  match read.part with
  | .text => some (read.pushText c)
  | .escape =>
      if ['\\', '\'', '"', '$', ' '].contains c then some (read.push c)
      else if c = 'n' then some (read.push '\n')
      else none
  | .single => some (if c = '\'' then { read with part := .text } else
      { read.push c with part := .single })
  | .behind =>
      if c = ' ' ∨ c = '\t' then some read
      else if c = '#' then some { read with part := .comment }
      else none
  | .comment => some read
  | .name braces name =>
      if isNameChar c then some { read with part := .name braces (name ++ [c]) }
      else if !braces then some (read.endName environment name c)
      else if c = '\x7d' then some (read.pushVariable environment name)
      else some { read with part := .name braces (name ++ [c]) }

/-- The value at the end of a line, if nothing is left open. -/
def finish? (environment : Environment) (read : Partial) : Option (List Char) :=
  match read.part with
  | .single => none
  | .name true _ => none
  | .name false name =>
      if read.double then none else some (read.pushVariable environment name).value
  | _ => if read.double then none else some read.value

end Partial

/-- The characters of a value, of which `place` were read before; the defect is the place of the first
character that cannot stand where it does. -/
def readChars (environment : Environment) (place : Nat) (read : Partial) :
    List Char → Except Nat Partial
  | [] => .ok read
  | c :: rest =>
      match read.next? environment c with
      | some read => readChars environment (place + 1) read rest
      | none => .error place

/-- The value that makes up the rest of a line. -/
def readValue (environment : Environment) (text : List Char) : Except Defect String :=
  match readChars environment 0 {} text with
  | .error place => .error ⟨String.ofList text, place⟩
  | .ok read =>
      match read.finish? environment with
      | some value => .ok (String.ofList value)
      | none => .error ⟨String.ofList text, byteCount text - 1⟩

/-! ## Entries -/

/-- The name at the front of a text. -/
def readName? (text : List Char) : Option (List Char × List Char) :=
  let isInner (c : Char) : Bool := c.isAlphanum || c == '_' || c == '.'
  match text with
  | first :: _ =>
      if first.isAlpha || first == '_' then some (text.takeWhile isInner, text.dropWhile isInner)
      else none
  | [] => none

/-- The name of an entry and what follows its equals sign; the defect is the rest of the line that has
neither. The word `export` may stand in front. -/
def readTarget (text : List Char) : Except (List Char) (List Char × List Char) :=
  match readName? text with
  | none => .error text
  | some (name, rest) =>
      match Text.trimStart rest with
      | '=' :: rest => .ok (name, rest)
      | rest =>
          if name ≠ "export".toList then .error rest
          else
            match readName? rest with
            | none => .error rest
            | some (name, rest) =>
                match Text.trimStart rest with
                | '=' :: rest => .ok (name, rest)
                | rest => .error rest

/-- The name and the value on a line; nothing on a line that is blank or a comment. -/
def readEntry (environment : Environment) (line : List Char) :
    Except Defect (Option (String × String)) :=
  let whole := Text.trimEnd line
  let start := Text.trimStart whole
  if start.isEmpty || start.head? == some '#' then .ok none
  else
    match readTarget start with
    | .error rest => .error ⟨String.ofList line, byteCount whole - byteCount rest⟩
    | .ok (name, rest) =>
        let text := Text.trimStart rest
        if text.isEmpty || text.head? == some '#' then .ok (some (String.ofList name, ""))
        else
          match readValue environment text with
          | .ok value => .ok (some (String.ofList name, value))
          | .error defect => .error defect

/-- A variable set, unless it already is. -/
def define (name value : String) (environment : Environment) : Environment :=
  if (Ordered.get? name environment).isSome then environment
  else Ordered.set name value environment

/-- The environment after some lines, and the defect that ended the reading. -/
def loadLines (environment : Environment) :
    List (Except Defect (List Char)) → Environment × Option Defect
  | [] => (environment, none)
  | .error defect :: _ => (environment, some defect)
  | .ok line :: rest =>
      match readEntry environment line with
      | .error defect => (environment, some defect)
      | .ok none => loadLines environment rest
      | .ok (some (name, value)) => loadLines (define name value environment) rest

/-- The environment with the variables of a file, and the defect that ended the reading. A byte-order
mark in front of the file is skipped. -/
def load (environment : Environment) (text : String) : Environment × Option Defect :=
  let text := match text.toList with
    | '\uFEFF' :: rest => rest
    | rest => rest
  loadLines environment (joinLines [] .plain (rawLines text))

end TransferHistory.EnvFile
