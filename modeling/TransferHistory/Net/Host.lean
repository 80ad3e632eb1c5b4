import TransferHistory.Net.Address
import TransferHistory.Net.Domain
import TransferHistory.Number.Power
import TransferHistory.Query.Form
import TransferHistory.ResultEq

/-!
# Hosts

The host of an address on the web. Between brackets it is an address of the sixth version; a name
whose last label is a number is one of the fourth version, which may be written in several ways;
anything else is a name. The percent triplets of a name are read first, and the characters that mean
something elsewhere in a web address are refused, as is what is no domain name. A name with letters beyond
ASCII is kept in these letters; see the module on domain names.
-/

namespace TransferHistory

/-- Why a text is no web address. -/
inductive UrlError where
  | relative
  | emptyHost
  | badPort
  | badIpv6
  | badIpv4
  | badName
  | badCharacter
  deriving DecidableEq, Repr

/-- The wording of the error. -/
def UrlError.message : UrlError → String
  | .relative => "relative URL without a base"
  | .emptyHost => "empty host"
  | .badPort => "invalid port number"
  | .badIpv6 => "invalid IPv6 address"
  | .badIpv4 => "invalid IPv4 address"
  | .badName => "invalid international domain name"
  | .badCharacter => "invalid domain character"

/-- The host of a web address. -/
inductive Host where
  | name (text : String)
  | address (numeric : IpAddress)
  deriving DecidableEq, Repr

namespace Host

/-- A character that no host may hold as such. -/
def isForbidden (c : Char) : Bool :=
  c.toNat == 0 || "\t\n\r #/:<>?@[\\]^|".toList.contains c

/-- A character that no name may hold. -/
def isForbiddenInName (c : Char) : Bool :=
  isForbidden c || c.toNat < 0x20 || c == '%' || c.toNat == 0x7F

/-- The number that a part of an address stands for: decimal, hexadecimal behind `0x`, or octal
behind `0`. -/
def partNumber? (part : List Char) : Option Nat :=
  let (base, digits) :=
    match part with
    | '0' :: 'x' :: rest | '0' :: 'X' :: rest => (16, rest)
    | '0' :: second :: rest => (8, second :: rest)
    | digits => (10, digits)
  if part.isEmpty then none
  else if digits.all fun c => Text.isHex c && Text.digitValue c < base then
    some (Text.numberIn base digits)
  else none

/-- The labels of a name, without the empty one behind a last point. -/
def labels (name : List Char) : List (List Char) :=
  let (first, others) := Text.pieces '.' name
  let all := first :: others
  if others.getLast? = some [] then all.dropLast else all

/-- The last label of a name is a number. -/
def endsInNumber (name : List Char) : Bool :=
  match (labels name).getLast? with
  | none => false
  | some last => (!last.isEmpty && last.all Char.isDigit) || (partNumber? last).isSome

/-- The address that numbers stand for: each but the last is one byte, and the last one fills the
remaining bytes. -/
def assemble? (numbers : List Nat) : Option IpAddress :=
  let last := numbers.getLast?.getD 0
  let front := numbers.dropLast
  if 3 < front.length || front.any (255 < ·) || twoTo (8 * (4 - front.length)) ≤ last then none
  else
    let total := (front ++ List.replicate (3 - front.length) 0).foldl (· * 256 + ·) 0 * 256 + last
    some (.v4 (total / twoTo 24) (total / twoTo 16 % 256) (total / 256 % 256) (total % 256))

/-- The host that a name stands for. Which texts are domain names is what `Domain.ofText?` says, with parts
of the standard's tables only; a name with letters beyond ASCII keeps them instead of its ASCII form. -/
def ofName? (text : List Char) : Except UrlError Host :=
  match (Form.percentDecoded? text).bind Domain.ofText? with
  | none => .error .badName
  | some domain =>
      if domain.any isForbiddenInName then .error .badName
      else if domain.isEmpty then .error .emptyHost
      else if endsInNumber domain then
        match (labels domain).mapM partNumber? with
        | none => .error .badIpv4
        | some numbers =>
            match assemble? numbers with
            | some numeric => .ok (.address numeric)
            | none => .error .badIpv4
      else .ok (.name (String.ofList domain))

/-- The host of a text. The name of a scheme that is not special is passed on unread. -/
def parse? (special : Bool) (text : List Char) : Except UrlError Host :=
  match text with
  | '[' :: rest =>
      if rest.getLast? = some ']' then
        match IpAddress.readV6? rest.dropLast with
        | some groups => .ok (.address (.v6 groups))
        | none => .error .badIpv6
      else .error .badIpv6
  | text =>
      if special then ofName? text
      else if text.any isForbidden then .error .badCharacter
      else .ok (.name (String.ofList text))

end Host

end TransferHistory
