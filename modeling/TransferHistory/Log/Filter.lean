import TransferHistory.Log.Entry
import TransferHistory.Text.Blank
import TransferHistory.Text.Digits
import TransferHistory.Text.Split

/-!
# Log filters

A filter says, for each target, how serious an entry has to be to be written. It is a list of
directives with commas between them: `level`, for all targets, or `target=level`, for the targets
that begin so; `target` alone lets everything through. Of the directives for a target the one with
the longest name decides, and of two with the same name the later one. A target without a directive
is silent. A list without any directive lets errors through.

- `Filter.parse?` refuses a list with a malformed directive, `Filter.parseLossy` skips those.
- `directives` chooses between the list given from outside and the configured level.
-/

namespace TransferHistory.Log

/-- One directive: a target, or all of them, and the greatest rank written. -/
structure Directive where
  target : Option String
  rank : Nat
  deriving DecidableEq, Repr

/-- A list of directives. -/
structure Filter where
  directives : List Directive
  deriving DecidableEq, Repr

namespace Directive

/-- The ranks of the named levels. -/
def ranks : List (String × Nat) :=
  [("off", 0), ("error", 1), ("warn", 2), ("info", 3), ("debug", 4), ("trace", 5)]

/-- A rank written as a number. -/
def numericRank? (text : List Char) : Option Nat :=
  let digits := Text.withoutPlus text
  if Text.isNatural digits && Text.natural digits ≤ 5 then some (Text.natural digits) else none

/-- The rank that a level stands for. -/
def rank? (text : String) : Option Nat :=
  match numericRank? text.toList with
  | some rank => some rank
  | none => if text = "" then some 1 else ranks.lookup (Text.lowerAscii text)

/-- A character that may begin a directive. -/
def isInitial (c : Char) : Bool :=
  c.isAlphanum || c == '-' || c == ':' || c == '_' || 0x80 ≤ c.toNat

/-- A directive. Blanks around it do not count for finding the equals sign, but for what stands
before and behind it. Conditions on spans are not known. -/
def parse? (text : String) : Option Directive :=
  let written := text.toList
  let trimmed := Text.trimEnd (Text.trimStart written)
  match trimmed with
  | [] => none
  | first :: _ =>
      if !isInitial first || trimmed.contains '[' then none
      else
        match Text.cut '=' trimmed with
        | (_, none) =>
            match rank? text with
            | some rank => some ⟨none, rank⟩
            | none => some ⟨some text, 5⟩
        | (before, some _) =>
            let target := String.ofList (written.take before.length)
            match written.drop (before.length + 1) with
            | [] => some ⟨some target, 5⟩
            | level => (rank? (String.ofList level)).map fun rank => ⟨some target, rank⟩

/-- The number of characters by which a directive names its target. -/
def weight (directive : Directive) : Nat :=
  (directive.target.map String.length).getD 0

/-- A directive is meant for a target. -/
def covers (target : String) (directive : Directive) : Bool :=
  match directive.target with
  | none => true
  | some start => start.toList.isPrefixOf target.toList

end Directive

namespace Filter

/-- The parts of a list that are not empty. -/
def parts (text : String) : List String :=
  (Text.split ',' text).filter (· ≠ "")

/-- A list without any directive lets errors through. -/
def ofDirectives (directives : List Directive) : Filter :=
  ⟨if directives.isEmpty then [⟨none, 1⟩] else directives⟩

/-- The filter of a list in which every directive is well formed. -/
def parse? (text : String) : Option Filter :=
  ((parts text).mapM Directive.parse?).map ofDirectives

/-- The filter of the well-formed directives of a list. -/
def parseLossy (text : String) : Filter :=
  ofDirectives ((parts text).filterMap Directive.parse?)

/-- The directive that decides for a target: a later one wins unless it names less of the target. A
directive for all targets names nothing of it. -/
def decisive? (filter : Filter) (target : String) : Option Directive :=
  (filter.directives.filter (Directive.covers target)).foldl
    (fun best directive =>
      match best with
      | none => some directive
      | some known => if directive.weight < known.weight then best else some directive)
    none

/-- Entries of a target and a level are written. -/
def enabled (filter : Filter) (target : String) (level : Level) : Bool :=
  match filter.decisive? target with
  | some directive => level.rank ≤ directive.rank
  | none => false

/-- The line of an entry, if it is written. A span that would not be written itself is left out. -/
def line? (showTime : Binary64 → String) (filter : Filter) (entry : Entry) : Option String :=
  if filter.enabled entry.target entry.level then
    let withSpan := match entry.span with
      | some span => filter.enabled span.target span.level
      | none => false
    some (entry.line showTime withSpan)
  else none

/-- The lines of entries, in order. -/
def lines (showTime : Binary64 → String) (filter : Filter) (entries : List Entry) :
    List String :=
  entries.filterMap (filter.line? showTime)

end Filter

/-- The directives in force: those given from outside, unless they are blank, else the configured
level. -/
def directives (level : String) (given : Option String) : String :=
  match given.map Text.trim with
  | some text => if text ≠ "" then text else Text.lowerAscii level
  | none => Text.lowerAscii level

/-- The filter in force. Malformed directives give way to the configured level. -/
def filterOf (level : String) (given : Option String) : Filter :=
  match Filter.parse? (directives level given) with
  | some filter => filter
  | none => Filter.parseLossy level

end TransferHistory.Log
