import SqlGateway.Engine

/-!
# Quoted names and placeholders

A name stands in SQL between an opening and a closing quote of the engine, and a closing quote
inside it is written twice. `unquote` is the scanner for it: it ends at the first closing quote that
is not written twice.
-/

namespace SqlGateway.Sql

def openQuote : Engine → Char
  | .postgres => '"'
  | .mySql => '`'
  | .sqlServer => '['

def closeQuote : Engine → Char
  | .postgres => '"'
  | .mySql => '`'
  | .sqlServer => ']'

def doubled (quote : Char) (text : List Char) : List Char :=
  text.flatMap fun character => if character = quote then [quote, quote] else [character]

def quoteChars (engine : Engine) (name : String) : List Char :=
  openQuote engine :: doubled (closeQuote engine) name.toList ++ [closeQuote engine]

def quote (engine : Engine) (name : String) : String := String.ofList (quoteChars engine name)

/-- Reads up to the first `quote` that is not written twice: the text and what follows. -/
def scanDoubled (quote : Char) : List Char → Option (List Char × List Char)
  | [] => none
  | first :: rest =>
    if first = quote then
      match rest with
      | [] => some ([], [])
      | second :: more =>
        if second = quote then
          (scanDoubled quote more).map fun (text, after) => (quote :: text, after)
        else some ([], second :: more)
    else (scanDoubled quote rest).map fun (text, after) => (first :: text, after)

/-- Reads a quoted name: the name and what follows. -/
def unquote (engine : Engine) : List Char → Option (List Char × List Char)
  | [] => none
  | first :: rest => if first = openQuote engine then scanDoubled (closeQuote engine) rest else none

def quoteTableChars (engine : Engine) (schema : Option String) (table : String) : List Char :=
  match schema with
  | some schema => quoteChars engine schema ++ '.' :: quoteChars engine table
  | none => quoteChars engine table

def quoteTable (engine : Engine) (schema : Option String) (table : String) : String :=
  String.ofList (quoteTableChars engine schema table)

def commaSeparated : List (List Char) → List Char
  | [] => []
  | [last] => last
  | item :: rest => item ++ ',' :: ' ' :: commaSeparated rest

def quoteListChars (engine : Engine) (names : List String) : List Char :=
  commaSeparated (names.map (quoteChars engine))

def placeholder (engine : Engine) (number : Nat) : String :=
  match engine with
  | .postgres => "$" ++ toString number
  | .mySql => "?"
  | .sqlServer => "@P" ++ toString number

/-- The place of a parameter, with the type of its column where the engine wants it said. -/
def typedPlaceholder (engine : Engine) (number : Nat) (columnType : Option String) : String :=
  match engine, columnType with
  | .postgres, some columnType => "$" ++ toString number ++ "::" ++ columnType
  | _, _ => placeholder engine number

def stringLiteral (text : List Char) : List Char :=
  'N' :: '\'' :: doubled '\'' text ++ ['\'']

def createDatabase (engine : Engine) (name : String) : String :=
  String.ofList ("CREATE DATABASE ".toList ++ quoteChars engine name)

def dropDatabase (engine : Engine) (name : String) : String :=
  String.ofList ("DROP DATABASE ".toList ++ quoteChars engine name)

@[simp] theorem doubled_nil (quote : Char) : doubled quote [] = [] := rfl

theorem doubled_cons_self (quote : Char) (text : List Char) :
    doubled quote (quote :: text) = quote :: quote :: doubled quote text := by
  simp [doubled]

theorem doubled_cons_of_ne {quote first : Char} (other : first ≠ quote) (text : List Char) :
    doubled quote (first :: text) = first :: doubled quote text := by
  simp [doubled, other]

theorem scanDoubled_doubled (quote : Char) (text rest : List Char)
    (ends : rest.head? ≠ some quote) :
    scanDoubled quote (doubled quote text ++ quote :: rest) = some (text, rest) := by
  induction text with
  | nil =>
    cases rest with
    | nil => simp [scanDoubled]
    | cons next more =>
      have other : next ≠ quote := fun same => ends (by simp [same])
      simp [scanDoubled, other]
  | cons first more induction =>
    by_cases same : first = quote
    · subst same
      rw [doubled_cons_self]
      simp [scanDoubled, induction]
    · rw [doubled_cons_of_ne same, List.cons_append, scanDoubled.eq_def]
      simp [same, induction]

theorem unquote_quoteChars (engine : Engine) (name : String) (rest : List Char)
    (ends : rest.head? ≠ some (closeQuote engine)) :
    unquote engine (quoteChars engine name ++ rest) = some (name.toList, rest) := by
  simp [unquote, quoteChars, scanDoubled_doubled _ _ _ ends]

example : quote .sqlServer "a]b" = "[a]]b]" := by decide
example : quoteTable .postgres (some "s") "t" = "\"s\".\"t\"" := by decide

end SqlGateway.Sql
