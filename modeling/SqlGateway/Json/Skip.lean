import SqlGateway.Json.Reader

/-!
# Passing over JSON values

A value that nobody asks for is passed over by its form alone. Its numbers may leave every range, an
escape may name half of a character, and containers may be nested without a limit.
-/

namespace SqlGateway.Json.Reader

/-! ## Strings and numbers -/

def skipEscape : List Char → Step Unit
  | [] => stop .endInString []
  | letter :: rest =>
    if letter = 'u' then (hexUnit rest).andThen fun _ rest => .ok ((), rest)
    else (escape (letter :: rest)).andThen fun _ rest => .ok ((), rest)

def skipStringBody : Nat → List Char → Step Unit
  | 0, text => stop .endInString text
  | _ + 1, [] => stop .endInString []
  | fuel + 1, character :: rest =>
    if character = '"' then .ok ((), rest)
    else if character = '\\' then
      (skipEscape rest).andThen fun _ rest => skipStringBody fuel rest
    else if character.toNat < 32 then stop .controlCharacter (character :: rest)
    else skipStringBody fuel rest

def skipString (text : List Char) : Step Unit := skipStringBody (text.length + 1) text

def skipExponent (text : List Char) : Step Unit :=
  match text with
  | [] => .ok ((), [])
  | mark :: rest =>
    if mark = 'e' || mark = 'E' then
      let digits :=
        match rest with
        | '+' :: digits | '-' :: digits => digits
        | digits => digits
      match digits with
      | [] => stop .invalidNumber []
      | digit :: more =>
        if digit.isDigit then .ok ((), more.dropWhile Char.isDigit)
        else stopAhead .invalidNumber (digit :: more)
    else .ok ((), mark :: rest)

def skipFraction (text : List Char) : Step Unit :=
  match text with
  | '.' :: [] => stop .invalidNumber []
  | '.' :: digit :: rest =>
    if digit.isDigit then skipExponent (rest.dropWhile Char.isDigit)
    else stopAhead .invalidNumber (digit :: rest)
  | other => skipExponent other

def skipNumber (text : List Char) : Step Unit :=
  match text with
  | [] => stop .invalidNumber []
  | '0' :: [] => .ok ((), [])
  | '0' :: next :: rest =>
    if next.isDigit then stopAhead .invalidNumber (next :: rest) else skipFraction (next :: rest)
  | digit :: rest =>
    if digit.isDigit then skipFraction (rest.dropWhile Char.isDigit)
    else stopAhead .invalidNumber (digit :: rest)

/-! ## Values -/

mutual
def skipWithin : Nat → List Char → Step Unit
  | 0, text => stopAhead .endInValue text
  | fuel + 1, text =>
    match skipSpace text with
    | '[' :: rest =>
      match skipSpace rest with
      | [] => stopAhead .endInList []
      | ']' :: rest => .ok ((), rest)
      | other => skipItems fuel other
    | '\x7b' :: rest =>
      match skipSpace rest with
      | [] => stopAhead .endInObject []
      | '\x7d' :: rest => .ok ((), rest)
      | other => skipMembers fuel other
    | '"' :: rest => skipString rest
    | '-' :: rest => skipNumber rest
    | next :: rest =>
      if next.isDigit then skipNumber (next :: rest)
      else (value .kept depthLimit (next :: rest)).andThen fun _ rest => .ok ((), rest)
    | [] => stopAhead .endInValue []

def skipItems : Nat → List Char → Step Unit
  | 0, text => stopAhead .endInList text
  | fuel + 1, text =>
    (skipWithin fuel text).andThen fun _ rest =>
    match skipSpace rest with
    | [] => stopAhead .endInList []
    | ']' :: rest => .ok ((), rest)
    | ',' :: rest => skipItems fuel rest
    | other => stopAhead .expectedListEnd other

def skipMembers : Nat → List Char → Step Unit
  | 0, text => stopAhead .endInObject text
  | fuel + 1, text =>
    match skipSpace text with
    | [] => stopAhead .endInObject []
    | '"' :: rest =>
      (skipString rest).andThen fun _ rest =>
      (colon rest).andThen fun _ rest =>
      (skipWithin fuel rest).andThen fun _ rest =>
      match skipSpace rest with
      | [] => stopAhead .endInObject []
      | '\x7d' :: rest => .ok ((), rest)
      | ',' :: rest => skipMembers fuel rest
      | other => stopAhead .expectedObjectEnd other
    | other => stopAhead .keyNotText other
end

/-- Passes over the next value. -/
def skip (text : List Char) : Step Unit := skipWithin (2 * text.length + 2) text

example : (skip "[1e999, \"\\ud800\"] x".toList).toOption = some ((), " x".toList) := by
  decide +kernel

end SqlGateway.Json.Reader
