/-!
# UTF-8

`encode` writes characters as bytes. `step` reads one character from the front of a byte list:
either a well-formed sequence, or the number of bytes that a reader gives up on at once. `decode?`
accepts well-formed text only; `decodeLossy` puts the replacement character for each piece it gives
up on.
-/

namespace SqlGateway.Text.Utf8

def encodeChar (character : Char) : List UInt8 :=
  let code := character.toNat
  if code < 0x80 then [code.toUInt8]
  else if code < 0x800 then
    [(0xC0 + code / 64).toUInt8, (0x80 + code % 64).toUInt8]
  else if code < 0x10000 then
    [(0xE0 + code / 4096).toUInt8, (0x80 + code / 64 % 64).toUInt8, (0x80 + code % 64).toUInt8]
  else
    [(0xF0 + code / 262144).toUInt8, (0x80 + code / 4096 % 64).toUInt8,
      (0x80 + code / 64 % 64).toUInt8, (0x80 + code % 64).toUInt8]

def encode (characters : List Char) : List UInt8 := characters.flatMap encodeChar

inductive Front where
  | character (value : Char) (length : Nat)
  /-- No well-formed sequence starts here; this many bytes are given up together. -/
  | malformed (length : Nat)
deriving DecidableEq, Repr

/-- How many continuation bytes follow a first byte, with the range of the first of them. -/
def continuation (first : UInt8) : Option (Nat × UInt8 × UInt8) :=
  if 0xC2 ≤ first && first ≤ 0xDF then some (1, 0x80, 0xBF)
  else if first = 0xE0 then some (2, 0xA0, 0xBF)
  else if first = 0xED then some (2, 0x80, 0x9F)
  else if 0xE1 ≤ first && first ≤ 0xEF then some (2, 0x80, 0xBF)
  else if first = 0xF0 then some (3, 0x90, 0xBF)
  else if first = 0xF4 then some (3, 0x80, 0x8F)
  else if 0xF1 ≤ first && first ≤ 0xF3 then some (3, 0x80, 0xBF)
  else none

/-- The code point bits of a first byte that `count` continuation bytes follow. -/
def leadingBits (first : UInt8) (count : Nat) : Nat :=
  match count with
  | 1 => first.toNat % 32
  | 2 => first.toNat % 16
  | _ => first.toNat % 8

/-- Reads continuation bytes, the next one within `low` and `high`, and stops at the first byte
that is none. `taken` counts the bytes of the sequence so far. -/
def continueWith (code taken : Nat) (low high : UInt8) : Nat → List UInt8 → Front
  | 0, _ => .character (Char.ofNat code) taken
  | _ + 1, [] => .malformed taken
  | count + 1, byte :: rest =>
    if low ≤ byte && byte ≤ high then
      continueWith (code * 64 + byte.toNat % 64) (taken + 1) 0x80 0xBF count rest
    else .malformed taken

def front (first : UInt8) (rest : List UInt8) : Front :=
  if first < 0x80 then .character (Char.ofNat first.toNat) 1
  else
    match continuation first with
    | none => .malformed 1
    | some (count, low, high) => continueWith (leadingBits first count) 1 low high count rest

/-- The bytes cut into fronts: at most `fuel` of them. -/
def fronts : Nat → List UInt8 → List Front
  | 0, _ => []
  | _ + 1, [] => []
  | fuel + 1, first :: rest =>
    match front first rest with
    | .character value length => .character value length :: fronts fuel (rest.drop (length - 1))
    | .malformed length => .malformed length :: fronts fuel (rest.drop (length - 1))

def decodeLossy (bytes : List UInt8) : List Char :=
  (fronts bytes.length bytes).map fun
    | .character value _ => value
    | .malformed _ => '\uFFFD'

def decode? (bytes : List UInt8) : Option (List Char) :=
  (fronts bytes.length bytes).mapM fun
    | .character value _ => some value
    | .malformed _ => none

example : encode "aé日😀".toList =
    [97, 0xC3, 0xA9, 0xE6, 0x97, 0xA5, 0xF0, 0x9F, 0x98, 0x80] := by decide
example : decode? [97, 0xC3, 0xA9, 0xF0, 0x9F, 0x98, 0x80] = some "aé😀".toList := by decide
example : decodeLossy [0xF0, 0x9F, 97, 0xFF] = "\uFFFDa\uFFFD".toList := by decide

end SqlGateway.Text.Utf8
