import TransferHistory.Config.Setting

/-!
# Tables of a settings file

The tree that a settings file builds up, line by line. A table remembers how it came about (`Origin`),
because that decides what may still be added to it:

- a header makes a table, or takes over one that only stood on the way to an earlier header; it cannot
  name a table twice;
- a key with points makes tables on its way, and may only pass through tables made so;
- nothing is added to a value, and no key is given twice.
-/

namespace TransferHistory.Toml

/-- How a table came about. -/
inductive Origin where
  /-- A header names it. -/
  | header
  /-- It stands on the way to a table that a header names. -/
  | implied
  /-- A key with points names it. -/
  | dotted
  deriving DecidableEq, Repr

/-- A part of the tree. -/
inductive Node where
  | value (setting : Setting)
  | table (origin : Origin) (entries : List (String × Node))
  /-- A list of tables, the last of which is the one that is added to. -/
  | tables (before : List (List (String × Node))) (last : List (String × Node))
  deriving Inhabited

/-- The entries of a table. -/
abbrev Entries := Ordered Node

namespace Node

mutual

/-- The finished value of a part of the tree. -/
def finish : Node → Setting
  | .value setting => setting
  | .table _ entries => .table (finishEntries entries)
  | .tables before last => .list (finishTables before ++ [.table (finishEntries last)])

/-- The finished values of entries. -/
def finishEntries : List (String × Node) → List (String × Setting)
  | [] => []
  | (name, node) :: rest => (name, finish node) :: finishEntries rest

/-- The finished values of a list of tables. -/
def finishTables : List (List (String × Node)) → List Setting
  | [] => []
  | entries :: rest => .table (finishEntries entries) :: finishTables rest

end

end Node

namespace Entries

/-- A change of the table at the end of a path, which `dotted` tells to be that of a key with points;
tables on the way are made where they are missing. -/
def change (dotted : Bool) (act : Origin → Entries → Option (Origin × Entries)) :
    List String → Origin → Entries → Option (Origin × Entries)
  | [], origin, entries => act origin entries
  | name :: path, origin, entries => do
      let node ←
        match Ordered.get? name entries with
        | none => do
            let (origin, below) ← change dotted act path (if dotted then .dotted else .implied) []
            some (Node.table origin below)
        | some (.table origin below) =>
            if dotted && origin == .header then none
            else do
              let (origin, below) ← change dotted act path origin below
              some (Node.table origin below)
        | some (.tables before last) => do
            let (_, below) ← change dotted act path .header last
            some (Node.tables before below)
        | some (.value _) => none
      return (origin, Ordered.set name node entries)

/-- A new value under a name. Behind a key with points, the table has to be made by such a key. -/
def put (name : String) (setting : Setting) (behindPoints : Bool) (origin : Origin)
    (entries : Entries) : Option (Origin × Entries) :=
  if behindPoints && origin != .dotted then none
  else if (Ordered.get? name entries).isSome then none
  else some (origin, Ordered.set name (.value setting) entries)

/-- A new value under a key, which is a path and a name. -/
def putKey (path : List String) (name : String) (setting : Setting) (origin : Origin)
    (entries : Entries) : Option (Origin × Entries) :=
  change true (put name setting (!path.isEmpty)) path origin entries

/-- The table that a header names. -/
def openTable (name : String) (origin : Origin) (entries : Entries) : Option (Origin × Entries) :=
  match Ordered.get? name entries with
  | none => some (origin, Ordered.set name (.table .header []) entries)
  | some (.table .implied below) =>
      some (origin, Ordered.set name (.table .header below) entries)
  | some _ => none

/-- One more table in the list that a header names. -/
def openNext (name : String) (origin : Origin) (entries : Entries) : Option (Origin × Entries) :=
  match Ordered.get? name entries with
  | none => some (origin, Ordered.set name (.tables [] []) entries)
  | some (.tables before last) =>
      some (origin, Ordered.set name (.tables (before ++ [last]) []) entries)
  | some _ => none

/-- A change of the whole tree, at the end of a path of headers. -/
def atHeader (path : List String) (act : Origin → Entries → Option (Origin × Entries))
    (entries : Entries) : Option Entries :=
  (change false act path .header entries).map Prod.snd

end Entries

end TransferHistory.Toml
