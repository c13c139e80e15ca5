import SqlGateway.Text.Hidden

/-!
# Texts shown in quotes

Messages show a name or a character in quotes, so that blanks and invisible characters can be seen.
The quote in use and the backslash are written with a backslash before them, the common controls by
a letter, and every other hidden character by its code point in hexadecimal.
-/

namespace SqlGateway.Text

def hexDigits (number : Nat) : List Char := Nat.toDigits 16 number

def quotedChar (quote character : Char) : List Char :=
  match character with
  | '\x00' => ['\\', '0']
  | '\t' => ['\\', 't']
  | '\r' => ['\\', 'r']
  | '\n' => ['\\', 'n']
  | '\\' => ['\\', '\\']
  | _ =>
    if character = quote then ['\\', quote]
    else if isHidden character then
      ['\\', 'u', '\x7b'] ++ hexDigits character.toNat ++ ['\x7d']
    else [character]

def quoted (text : String) : String :=
  String.ofList ('"' :: text.toList.flatMap (quotedChar '"') ++ ['"'])

def quotedCharacter (character : Char) : String :=
  String.ofList ('\'' :: quotedChar '\'' character ++ ['\''])

example : quoted "a\"b" = "\"a\\\"b\"" := by decide
example : quotedCharacter '\'' = "'\\''" := by decide

end SqlGateway.Text
