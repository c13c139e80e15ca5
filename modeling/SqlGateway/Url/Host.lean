import SqlGateway.Url.Domain
import SqlGateway.Url.Ipv6
import SqlGateway.Url.Percent

/-!
# Hosts of URLs

A host in brackets is an IPv6 address. Any other host of a database URL is kept as it is written,
with its control characters and its characters beyond ASCII percent-encoded. The schemes of the web
have hosts of a narrower kind: domain names and IPv4 addresses.
-/

namespace SqlGateway.Url

inductive Problem where
  | emptyHost
  | invalidDomain
  | invalidPort
  | invalidIpv4
  | invalidIpv6
  | invalidHostCharacter
  | noScheme
deriving DecidableEq, Repr

def Problem.message : Problem → String
  | .emptyHost => "empty host"
  | .invalidDomain => "invalid international domain name"
  | .invalidPort => "invalid port number"
  | .invalidIpv4 => "invalid IPv4 address"
  | .invalidIpv6 => "invalid IPv6 address"
  | .invalidHostCharacter => "invalid domain character"
  | .noScheme => "relative URL without a base"

namespace Host

def forbidden : List Char :=
  ['\x00', '\t', '\n', '\r', ' ', '#', '/', ':', '<', '>', '?', '@', '[', '\\', ']', '^', '|']

def isKept (character : Char) : Bool := 32 ≤ character.toNat && character.toNat < 127

def bracketed (inner : List Char) : Except Problem (List Char) :=
  match inner.reverse with
  | ']' :: address =>
    match Ipv6.parse? address.reverse with
    | some numbers => .ok ('[' :: Ipv6.render numbers ++ [']'])
    | none => .error .invalidIpv6
  | _ => .error .invalidIpv6

def plain (text : List Char) : Except Problem (List Char) :=
  match text with
  | '[' :: inner => bracketed inner
  | _ =>
    if text.any forbidden.contains then .error .invalidHostCharacter
    else .ok (Percent.encode isKept text)

/-! ## Hosts of the web -/

def ipv4Number? (text : List Char) : Option Nat :=
  let value (base : Nat) (digits : List Char) : Option Nat :=
    digits.foldlM (fun total digit =>
      match Text.hexValue? digit with
      | some value => if value < base then some (total * base + value) else none
      | none => none) 0
  match text with
  | [] => none
  | '0' :: 'x' :: digits | '0' :: 'X' :: digits => value 16 digits
  | '0' :: first :: digits => value 8 (first :: digits)
  | digits => value 10 digits

def nameParts (text : List Char) : List (List Char) :=
  match (Text.pieces '.' text).reverse with
  | [] :: next :: rest => (next :: rest).reverse
  | parts => parts.reverse

def endsInNumber (text : List Char) : Bool :=
  match (nameParts text).getLast? with
  | none => false
  | some last => (!last.isEmpty && last.all Char.isDigit) ||
      (match last with
      | '0' :: 'x' :: _ | '0' :: 'X' :: _ => (ipv4Number? last).isSome
      | _ => false)

/-- Whether a name is an IPv4 address: at most four numbers, bytes but for the last one, which
fills what is left. -/
def isIpv4 (text : List Char) : Bool :=
  let parts := nameParts text
  match parts.mapM ipv4Number? with
  | none => false
  | some numbers =>
    parts.length ≤ 4 && numbers.dropLast.all (· ≤ 255) &&
      numbers.getLast?.getD 0 < Nat.pow 256 (5 - parts.length)

def webName? (text : List Char) : Option (List Char) := do
  let name ← Text.Utf8.decode? (Percent.decodeBytes text)
  let labels ← Domain.labels? name
  return Text.joinChars '.' labels

def checkWeb (text : List Char) : Except Problem Unit :=
  match text with
  | '[' :: inner => (bracketed inner).map fun _ => ()
  | _ =>
    match webName? text with
    | none => .error .invalidDomain
    | some [] => .error .emptyHost
    | some name => if endsInNumber name && !isIpv4 name then .error .invalidIpv4 else .ok ()

end Host

end SqlGateway.Url
