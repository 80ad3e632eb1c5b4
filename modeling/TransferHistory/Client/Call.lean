import TransferHistory.Json.Written
import TransferHistory.Log.Entry
import TransferHistory.Net.Base64
import TransferHistory.Net.Url
import TransferHistory.Search.Failure

/-!
# Calls of the collaborators

Both collaborators are asked over HTTP. A `Call` is what is sent, an `Answer` is what comes back, and a
`Network` carries calls out or says why it could not. An address that cannot be called counts like a
collaborator that is not reached. A user that an address names is not sent as a part of it: the call is
authorized in that name, before any other.
-/

namespace TransferHistory.Client

/-- One request to a collaborator. -/
structure Call where
  method : String := "POST"
  url : Url
  /-- The values of the headers that authorize the call, in the order in which they are sent. -/
  authorizations : List String := []
  body : Option Json := none
  deriving DecidableEq, Repr

namespace Call

/-- The text of the body; nothing where there is none. -/
def bodyText (call : Call) : String :=
  (call.body.map Json.render).getD ""

/-- The type of the body, where there is one. -/
def contentType (call : Call) : Option String :=
  call.body.map fun _ => "application/json"

/-- How a call is authorized in the name of a user, who may have a password. -/
def basicAuthorization (user : String) (password : Option String) : String :=
  let bytes := Text.Utf8.encode (user ++ ":" ++ password.getD "").toList
  "Basic " ++ String.ofList (Base64.encode bytes)

/-- The name of a user as an address has it, and the password if one stands behind the colon. A name that
is no text is nobody's, and a password that is none counts as not given. -/
def login? (user : String) : Option (String × Option String) := do
  let (user, password) := Text.cut ':' user.toList
  let user ← Form.percentDecoded? user
  let password := (password.filter (· ≠ [])).bind Form.percentDecoded?
  if user = [] ∧ password = none then none
  else some (String.ofList user, password.map String.ofList)

/-- The user that an address names. -/
def namedIn? (url : Url) : Option (String × Option String) :=
  url.user.bind login?

/-- A call at an address, in the name of the user there. -/
def ofUrl (url : Url) : Call where
  url := { url with user := if (namedIn? url).isSome then none else url.user }
  authorizations := ((namedIn? url).map fun (user, password) =>
    basicAuthorization user password).toList

end Call

/-- What a collaborator sends back. A body that breaks off before its end counts like an empty one. -/
structure Answer where
  status : Nat
  body : List UInt8
  deriving DecidableEq, Repr

namespace Answer

/-- The collaborator did what it was asked to. -/
def isSuccess (answer : Answer) : Bool :=
  200 ≤ answer.status && answer.status < 300

/-- The body as a text, without a byte-order mark. -/
def text (answer : Answer) : String :=
  match Text.Utf8.decode answer.body with
  | '\uFEFF' :: rest => String.ofList rest
  | text => String.ofList text

/-- The body as a JSON value. -/
def json? (answer : Answer) : Option Json :=
  ((Text.Utf8.decodeStrict answer.body).bind Json.Written.read).bind Json.Written.value?

/-- The body taken apart as JSON with every byte as a character of its own. The bytes of a text that
nobody asks for need not be characters at all. -/
def bytewise? (answer : Answer) : Option Json.Written :=
  Json.Written.read (answer.body.map fun byte => Char.ofNat byte.toNat)

/-- The failure that an answer without success stands for. -/
def failure (answer : Answer) : Failure :=
  .backend answer.status answer.text

end Answer

/-- What carries calls out: the answer, or why there is none. -/
abbrev Network := Call → Except String Answer

/-- A call that was made, where one could be, its result, and what was logged. -/
structure Exchange (α : Type) where
  call : Option Call
  result : Except Failure α
  entries : List Log.Entry := []

/-- A base address without the slashes at its end. -/
def trimSlashes (base : String) : String :=
  String.ofList (base.toList.reverse.dropWhile (· == '/')).reverse

/-- The address of a resource below a base address, if it can be called. -/
def address? (base resource : String) : Option Url :=
  match Url.parse? (trimSlashes base ++ resource) with
  | .ok url => if url.scheme = "http" ∨ url.scheme = "https" then some url else none
  | .error _ => none

/-- A call at an address, which may be none that can be called. -/
def exchange {α : Type} (network : Network) (call? : Option Call)
    (read : Answer → Except Failure α) (log : Answer → List Log.Entry) : Exchange α :=
  match call? with
  | none => { call := none, result := .error (.connection "builder error") }
  | some call =>
      match network call with
      | .error reason => { call := some call, result := .error (.connection reason) }
      | .ok answer =>
          { call := some call, result := read answer, entries := log answer }

end TransferHistory.Client
