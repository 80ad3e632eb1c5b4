import TransferHistory.Number.Binary64
import TransferHistory.Text.Quoted

/-!
# Log entries

What the service has to tell while it works: a message at a level, from a named part of the service
(its target), with named values. An entry may stand inside a span, which carries values of its own.
A measured time is kept as a number, and how it is shown is decided when the line is written.
-/

namespace TransferHistory.Log

/-- How serious an entry is. -/
inductive Level where
  | error
  | warn
  | info
  | debug
  | trace
  deriving DecidableEq, Repr

/-- The number of levels up to this one, from the most serious on. -/
def Level.rank : Level → Nat
  | .error => 1
  | .warn => 2
  | .info => 3
  | .debug => 4
  | .trace => 5

/-- The name of a level at the front of a line. -/
def Level.label : Level → String
  | .error => "ERROR"
  | .warn => "WARN"
  | .info => "INFO"
  | .debug => "DEBUG"
  | .trace => "TRACE"

/-- A value in an entry. -/
inductive Value where
  /-- A text shown as it is. -/
  | plain (text : String)
  /-- A text shown between quotes. -/
  | quoted (text : String)
  /-- A time that was measured, in milliseconds, with a unit behind it. -/
  | measured (milliseconds : Binary64) (unit : String)
  deriving DecidableEq, Repr

/-- Values under names. -/
abbrev Fields := List (String × Value)

/-- The work inside which entries stand. -/
structure Span where
  level : Level
  target : String
  name : String
  fields : Fields
  deriving DecidableEq, Repr

/-- One thing to tell. -/
structure Entry where
  level : Level
  target : String
  message : String
  fields : Fields := []
  span : Option Span := none
  deriving DecidableEq, Repr

/-- An entry inside a span. -/
def Entry.within (span : Span) (entry : Entry) : Entry :=
  { entry with span := some span }

/-- A value as shown. -/
def Value.text (showTime : Binary64 → String) : Value → String
  | .plain text => text
  | .quoted text => Text.quoted text
  | .measured milliseconds unit => showTime milliseconds ++ unit

/-- Named values with blanks between them. -/
def Fields.text (showTime : Binary64 → String) (fields : Fields) : String :=
  " ".intercalate (fields.map fun (name, value) => name ++ "=" ++ value.text showTime)

/-- A span as shown in front of its entries. -/
def Span.text (showTime : Binary64 → String) (span : Span) : String :=
  span.name ++ "\x7b" ++ Fields.text showTime span.fields ++ "\x7d: "

/-- The line of an entry, with its span or without. -/
def Entry.line (showTime : Binary64 → String) (withSpan : Bool) (entry : Entry) : String :=
  let span := if withSpan then (entry.span.map (Span.text showTime)).getD "" else ""
  let fields := if entry.fields.isEmpty then "" else " " ++ Fields.text showTime entry.fields
  entry.level.label ++ " " ++ span ++ entry.target ++ ": " ++ entry.message ++ fields

end TransferHistory.Log
