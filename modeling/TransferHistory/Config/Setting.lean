import TransferHistory.Config.Place
import TransferHistory.Config.Reading
import TransferHistory.Number.Extended

/-!
# Layered settings

Settings come in layers, each a tree of values under names. A later layer is laid over the earlier
ones: two tables are merged entry by entry, and anything else replaces what was there (`overlay`). A
layer may also name a place inside the tree (`putAt`). What stands in its way gives way to a table or a
list, and a list that is too short grows.

Values in a layer are read leniently (`Setting.lenient`): a number or a truth value may stand for a
text, and a text for a number.
-/

namespace TransferHistory

/-- A value in a layer of settings. -/
inductive Setting where
  | null
  | bool (value : Bool)
  | int (value : Int)
  | real (value : Extended)
  | text (value : String)
  | list (items : List Setting)
  | table (entries : List (String × Setting))
  deriving Repr, Inhabited

namespace Setting

/-! ## Layers -/

/-- The entries of a table; anything else has none. -/
def entriesOf : Option Setting → Ordered Setting
  | some (.table entries) => entries
  | _ => []

mutual

/-- A value laid over what was there before. -/
def overlay (before : Option Setting) : Setting → Setting
  | .table entries => .table (overlayEntries (entriesOf before) entries)
  | value => value

/-- Entries laid over a table, one after the other. -/
def overlayEntries (before : Ordered Setting) : List (String × Setting) → Ordered Setting
  | [] => before
  | (name, value) :: rest =>
      overlayEntries (Ordered.set name (overlay (Ordered.get? name before) value) before) rest

end

/-- The items of a list; anything else has none. -/
def itemsOf : Option Setting → List Setting
  | some (.list items) => items
  | _ => []

/-- A list that has an item at a position, and the place of that item. A list that is too short grows
at its end, or at its front for a position below zero. -/
def makeRoom (items : List Setting) : Int → List Setting × Nat
  | .ofNat index => (items ++ List.replicate (index + 1 - items.length) .null, index)
  | .negSucc back =>
      (List.replicate (back + 1 - items.length) .null ++ items, items.length - (back + 1))

/-- A value laid over the place that some steps lead to. -/
def putAt (value : Setting) : List PlaceStep → Option Setting → Setting
  | [], before => overlay before value
  | .entry name :: steps, before =>
      let entries := entriesOf before
      .table (Ordered.set name (putAt value steps (Ordered.get? name entries)) entries)
  | .item position :: steps, before =>
      let (items, index) := makeRoom (itemsOf before) position
      .list (items.set index (putAt value steps items[index]?))

/-- A layer: keys, each with a value. -/
abbrev Layer := List (String × Setting)

/-- A layer laid over the entries of a tree. -/
def layOver (entries : Ordered Setting) (layer : Layer) : Ordered Setting :=
  layer.foldl (fun entries (key, value) =>
    let place := Place.ofKey key
    Ordered.set place.top (putAt value place.steps (Ordered.get? place.top entries)) entries) entries

/-- The tree of several layers, the first one lowest. -/
def ofLayers (layers : List Layer) : Setting :=
  .table (layers.foldl layOver [])

/-! ## Lenient reading -/

/-- Why a value cannot stand where it does. -/
inductive Misfit where
  | notAText
  | notANumber
  | outOfRange
  | notASection (name : String)
  deriving DecidableEq, Repr

/-- A value as a text. -/
def toText : Setting → Except Misfit String
  | .text value => .ok value
  | .bool value => .ok (if value then "true" else "false")
  | .int value => .ok (Json.renderInt value)
  | .real value => .ok value.render
  | .null | .list _ | .table _ => .error .notAText

/-- The unsigned integer that a text denotes; words of consent count one and their opposites zero. -/
def wordOfText (text : String) : Except Misfit UInt64 :=
  let word := Text.lowerAscii text
  if ["true", "on", "yes"].contains word then .ok 1
  else if ["false", "off", "no"].contains word then .ok 0
  else
    let digits := Text.withoutPlus text.toList
    if !Text.isNatural digits then .error .notANumber
    else if Text.natural digits < values64 then .ok (UInt64.ofNat (Text.natural digits))
    else .error .outOfRange

/-- A value as an unsigned integer of 64 bits. -/
def toWord64 : Setting → Except Misfit UInt64
  | .int value =>
      if 0 ≤ value ∧ value < values64 then .ok (UInt64.ofNat value.toNat) else .error .outOfRange
  | .bool value => .ok (if value then 1 else 0)
  | .real value => .ok value.toWord64
  | .text value => wordOfText value
  | .null | .list _ | .table _ => .error .notANumber

/-- A value as an unsigned integer of 16 bits. -/
def toWord16 (value : Setting) : Except Misfit UInt16 :=
  match value.toWord64 with
  | .error misfit => .error misfit
  | .ok number => if number.toNat < values16 then .ok number.toUInt16 else .error .outOfRange

/-- How the values of layered settings are read. A list may hold more values than its section has
settings. -/
def lenient : Reading Setting Misfit where
  shape
    | .table entries => .table entries
    | .list items => .list items
    | _ => .other
  text := toText
  word16 := toWord16
  word64 := toWord64
  size := toWord64
  isNull
    | .null => true
    | _ => false
  notASection name _ := .notASection name
  tooLong? _ := none

end Setting

end TransferHistory
