import SqlGateway.Text.Split

/-!
# Universally unique identifiers

An identifier is sixteen octets. It is written in hexadecimal digits, in groups of 8, 4, 4, 4 and 12
with hyphens between them.
-/

namespace SqlGateway

def hexPair (octet : UInt8) : List Char :=
  [Nat.digitChar (octet.toNat / 16), Nat.digitChar (octet.toNat % 16)]

def hexChars (octets : List UInt8) : List Char := octets.flatMap hexPair

def cutGroups : List Nat → List Char → List (List Char)
  | [], _ => []
  | length :: lengths, text => text.take length :: cutGroups lengths (text.drop length)

structure Uuid where
  octets : List UInt8
  length : octets.length = 16
deriving DecidableEq, Repr

namespace Uuid

def groups : List Nat := [8, 4, 4, 4, 12]

def chars (uuid : Uuid) : List Char := Text.joinChars '-' (cutGroups groups (hexChars uuid.octets))

def text (uuid : Uuid) : String := String.ofList uuid.chars

end Uuid

end SqlGateway
