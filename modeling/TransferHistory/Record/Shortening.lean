import TransferHistory.Record.Basic

/-!
# Shortening payloads

A request without binary data gets payloads whose long texts are cut. Only the texts directly under
an object payload are cut, and a text is long when it has more than 256 characters.
-/

namespace TransferHistory

namespace Payload

/-- The greatest number of characters of a text that stays whole. -/
def threshold : Nat := 256

/-- The number of characters kept of a longer text. -/
def kept : Nat := 32

/-- What stands for the rest of a cut text. -/
def ellipsis : String := "..."

/-- A text, cut if it is long. -/
def shortenText (text : String) : String :=
  if threshold < text.length then String.ofList (text.toList.take kept) ++ ellipsis else text

/-- A value directly under the payload, cut if it is a long text. -/
def shortenMember : Json → Json
  | .string text => .string (shortenText text)
  | other => other

/-- A payload with its long texts cut. -/
def shorten : Json → Json
  | .object members => .object (members.map fun (name, value) => (name, shortenMember value))
  | other => other

end Payload

/-- A record with its payload shortened. -/
def Record.shorten (record : Record) : Record :=
  { record with act := { record.act with data := Payload.shorten record.act.data } }

end TransferHistory
