import SqlGateway.Text.Digit
import SqlGateway.Text.Utf8

/-!
# Percent encoding

Characters that have a meaning of their own in a URL, or that are not ASCII, are written as the
bytes of their UTF-8 form, each as a percent sign and two hexadecimal digits. Reading leaves alone
a percent sign that no two hexadecimal digits follow, and puts the replacement character where the
bytes are not UTF-8.
-/

namespace SqlGateway.Url.Percent

def digit (value : Nat) : Char :=
  if value < 10 then Char.ofNat ('0'.toNat + value) else Char.ofNat ('A'.toNat + (value - 10))

def encodeByte (byte : UInt8) : List Char :=
  ['%', digit (byte.toNat / 16), digit (byte.toNat % 16)]

/-- The text with every character written in full for which `keep` does not hold. -/
def encode (keep : Char → Bool) (text : List Char) : List Char :=
  text.flatMap fun character =>
    if keep character then [character] else (Text.Utf8.encodeChar character).flatMap encodeByte

def decodeBytes : List Char → List UInt8
  | [] => []
  | '%' :: high :: low :: rest =>
    match Text.hexValue? high, Text.hexValue? low with
    | some highValue, some lowValue =>
      (highValue * 16 + lowValue).toUInt8 :: decodeBytes rest
    | _, _ => Text.Utf8.encodeChar '%' ++ decodeBytes (high :: low :: rest)
  | character :: rest => Text.Utf8.encodeChar character ++ decodeBytes rest

def decode (text : List Char) : String := String.ofList (Text.Utf8.decodeLossy (decodeBytes text))

example : decode "p%40s%s%4".toList = "p@s%s%4" := by decide +kernel
example : encode Char.isAlphanum "é/".toList = "%C3%A9%2F".toList := by decide +kernel

end SqlGateway.Url.Percent
