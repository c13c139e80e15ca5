import SqlGateway.Json.Value
import SqlGateway.Text.Quoted

/-!
# Writing JSON

`compact` writes a value without blanks; `pretty` writes each item and member on a line of its own,
indented by two spaces, with empty containers on one line.
-/

namespace SqlGateway.Json

/-- Positional from five places behind the point to sixteen before it; a positive exponent carries
its sign. -/
def floatLayout : Number.Layout := ⟨-5, 15, ['+']⟩

def stringChar (character : Char) : List Char :=
  match character with
  | '"' => ['\\', '"']
  | '\\' => ['\\', '\\']
  | '\x08' => ['\\', 'b']
  | '\x0c' => ['\\', 'f']
  | '\n' => ['\\', 'n']
  | '\r' => ['\\', 'r']
  | '\t' => ['\\', 't']
  | _ =>
    if character.toNat < 32 then
      ['\\', 'u', '0', '0'] ++
        (if character.toNat < 16 then ['0'] else []) ++ Text.hexDigits character.toNat
    else [character]

def stringChars (text : String) : List Char :=
  '"' :: text.toList.flatMap stringChar ++ ['"']

def intChars (value : Int) : List Char :=
  if value < 0 then '-' :: Nat.toDigits 10 value.natAbs else Nat.toDigits 10 value.toNat

def Number.chars : Number → List Char
  | .integer value => intChars value.value
  | .float value => floatLayout.renderChars value

def boolChars (value : Bool) : List Char :=
  if value then ['t', 'r', 'u', 'e'] else ['f', 'a', 'l', 's', 'e']

mutual
def Value.compactChars : Value → List Char
  | .null => ['n', 'u', 'l', 'l']
  | .bool value => boolChars value
  | .number value => value.chars
  | .string value => stringChars value
  | .array items => '[' :: compactItems items ++ [']']
  | .object members => '\x7b' :: compactMembers members ++ ['\x7d']

def compactItems : List Value → List Char
  | [] => []
  | [last] => last.compactChars
  | item :: rest => item.compactChars ++ ',' :: compactItems rest

def compactMembers : List (String × Value) → List Char
  | [] => []
  | [(name, value)] => stringChars name ++ ':' :: value.compactChars
  | (name, value) :: rest =>
    stringChars name ++ ':' :: value.compactChars ++ ',' :: compactMembers rest
end

def Value.compact (value : Value) : String := String.ofList value.compactChars

def lineBreak (level : Nat) : List Char := '\n' :: List.replicate (2 * level) ' '

mutual
def Value.prettyChars (level : Nat) : Value → List Char
  | .array (first :: rest) =>
    '[' :: prettyItems (level + 1) (first :: rest) ++ lineBreak level ++ [']']
  | .object (first :: rest) =>
    '\x7b' :: prettyMembers (level + 1) (first :: rest) ++ lineBreak level ++ ['\x7d']
  | .array [] => ['[', ']']
  | .object [] => ['\x7b', '\x7d']
  | .null => ['n', 'u', 'l', 'l']
  | .bool value => boolChars value
  | .number value => value.chars
  | .string value => stringChars value

def prettyItems (level : Nat) : List Value → List Char
  | [] => []
  | [last] => lineBreak level ++ last.prettyChars level
  | item :: rest => lineBreak level ++ item.prettyChars level ++ ',' :: prettyItems level rest

def prettyMembers (level : Nat) : List (String × Value) → List Char
  | [] => []
  | [(name, value)] =>
    lineBreak level ++ stringChars name ++ ':' :: ' ' :: value.prettyChars level
  | (name, value) :: rest =>
    lineBreak level ++ stringChars name ++ ':' :: ' ' :: value.prettyChars level ++
      ',' :: prettyMembers level rest
end

def Value.pretty (value : Value) : String := String.ofList (value.prettyChars 0)

end SqlGateway.Json
