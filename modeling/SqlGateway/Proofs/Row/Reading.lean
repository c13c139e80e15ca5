import SqlGateway.Proofs.Sql.Fragment
import SqlGateway.Proofs.Text.Digits
import SqlGateway.Row.Update

/-!
# Reading an update back

A reader takes the text of an `UPDATE` apart, knowing nothing of the request: the table, each
assigned column with the number of its placeholder, and the column that finds the row. Data types
behind placeholders may hold anything but dollar signs, quotes and commas included, so a data type
reaches to the first place where a further binding can be read: `readUpdate_statement`.
-/

namespace SqlGateway.RowUpdate

open Sql

abbrev Bound := String × Nat

structure Reading where
  schema : Option String
  table : String
  assigned : List Bound
  key : Bound
deriving DecidableEq, Repr

/-! ## The reader -/

def readNumber (text : List Char) : Option (Nat × List Char) :=
  match text.takeWhile Char.isDigit with
  | [] => none
  | digits => some (Text.digitsValue digits, text.dropWhile Char.isDigit)

/-- Reads a placeholder. MySQL does not number them, so there they have the numbers of their
places. -/
def readPlaceholder (engine : Engine) (place : Nat) (text : List Char) :
    Option (Nat × List Char) :=
  match engine with
  | .postgres => (text.dropPrefix? ['$']).bind readNumber
  | .sqlServer => (text.dropPrefix? ['@', 'P']).bind readNumber
  | .mySql => (text.dropPrefix? ['?']).map fun rest => (place, rest)

def readBound (engine : Engine) (place : Nat) (text : List Char) : Option (Bound × List Char) := do
  let (column, rest) ← unquote engine text
  let rest ← rest.dropPrefix? [' ', '=', ' ']
  let (number, rest) ← readPlaceholder engine place rest
  return ((String.ofList column, number), rest)

def separators : List (List Char) := [", ".toList, " WHERE ".toList]

def bindingFollows (engine : Engine) (place : Nat) (text : List Char) : Bool :=
  separators.any fun separator =>
    ((text.dropPrefix? separator).bind (readBound engine place)).isSome

def skipType (engine : Engine) (place : Nat) : List Char → List Char
  | [] => []
  | first :: rest =>
    if bindingFollows engine place (first :: rest) then first :: rest
    else skipType engine place rest

def skipCast (engine : Engine) (place : Nat) (text : List Char) : List Char :=
  match text.dropPrefix? [':', ':'] with
  | some rest => skipType engine place rest
  | none => text

def readBinding (engine : Engine) (place : Nat) (text : List Char) :
    Option (Bound × List Char) :=
  (readBound engine place text).map fun (bound, rest) => (bound, skipCast engine (place + 1) rest)

/-! A reader that has read something has less in front of it. -/

theorem eq_append_of_dropPrefix? {text lead rest : List Char}
    (dropped : text.dropPrefix? lead = some rest) : text = lead ++ rest := by
  rcases List.dropPrefix?_eq_some_iff.mp dropped with ⟨same, whole, equal⟩
  rw [whole, eq_of_beq equal]

theorem dropPrefix?_append (lead rest : List Char) :
    (lead ++ rest).dropPrefix? lead = some rest :=
  List.dropPrefix?_eq_some_iff.mpr ⟨lead, rfl, by simp⟩

theorem eq_of_readBound {engine : Engine} {place : Nat} {text rest : List Char} {bound : Bound}
    (read : readBound engine place text = some (bound, rest)) :
    ∃ marked, text = quoteChars engine bound.1 ++ (' ' :: '=' :: ' ' :: marked) ∧
      readPlaceholder engine place marked = some (bound.2, rest) := by
  simp only [readBound, Option.bind_eq_bind, Option.bind_eq_some_iff] at read
  rcases read with ⟨⟨column, behind⟩, unquoted, marked, dropped, ⟨number, after⟩, found, same⟩
  cases same
  have lead : behind = [' ', '=', ' '] ++ marked := eq_append_of_dropPrefix? dropped
  have whole := eq_of_unquote unquoted
  rw [lead] at whole
  exact ⟨marked, whole, found⟩

theorem length_of_readNumber {text rest : List Char} {number : Nat}
    (read : readNumber text = some (number, rest)) : rest.length ≤ text.length := by
  rw [readNumber] at read
  split at read
  · cases read
  · cases read
    exact (List.dropWhile_sublist _).length_le

theorem length_of_readPlaceholder {engine : Engine} {place number : Nat} {text rest : List Char}
    (read : readPlaceholder engine place text = some (number, rest)) :
    rest.length ≤ text.length := by
  cases engine with
  | postgres | sqlServer =>
    rcases Option.bind_eq_some_iff.mp read with ⟨digits, dropped, found⟩
    have shorter := length_of_readNumber found
    rw [eq_append_of_dropPrefix? dropped, List.length_append]
    omega
  | mySql =>
    rcases Option.map_eq_some_iff.mp read with ⟨behind, dropped, same⟩
    cases same
    rw [eq_append_of_dropPrefix? dropped, List.length_append]
    omega

theorem length_skipCast_le (engine : Engine) (place : Nat) (text : List Char) :
    (skipCast engine place text).length ≤ text.length := by
  have skipped (text : List Char) : (skipType engine place text).length ≤ text.length := by
    induction text with
    | nil => exact Nat.le_refl _
    | cons first rest induction =>
      rw [skipType]
      split
      · exact Nat.le_refl _
      · exact Nat.le_succ_of_le induction
  rw [skipCast]
  split
  · next rest dropped =>
    have shorter := skipped rest
    rw [eq_append_of_dropPrefix? dropped, List.length_append]
    omega
  · exact Nat.le_refl _

theorem length_of_readBinding {engine : Engine} {place : Nat} {text rest : List Char}
    {bound : Bound} (read : readBinding engine place text = some (bound, rest)) :
    rest.length < text.length := by
  rcases Option.map_eq_some_iff.mp read with ⟨⟨found, behind⟩, bounded, same⟩
  cases same
  rcases eq_of_readBound bounded with ⟨marked, whole, placed⟩
  have skipped := length_skipCast_le engine (place + 1) behind
  have shorter := length_of_readPlaceholder placed
  simp only [whole, List.length_append, List.length_cons]
  omega

/-- Reads bindings up to the one behind `WHERE`, with which the text ends. -/
def readBindings (engine : Engine) (place : Nat) (text : List Char) :
    Option (List Bound × Bound) :=
  match _read : readBinding engine place text with
  | none => none
  | some (bound, rest) =>
    match dropped : rest.dropPrefix? ", ".toList with
    | some more =>
      (readBindings engine (place + 1) more).map fun (others, key) => (bound :: others, key)
    | none => do
      let rest ← rest.dropPrefix? " WHERE ".toList
      let (key, rest) ← readBinding engine (place + 1) rest
      if rest = [] then some ([bound], key) else none
termination_by text.length
decreasing_by
  have shorter := length_of_readBinding _read
  rw [eq_append_of_dropPrefix? dropped, List.length_append] at shorter
  omega

def readTable (engine : Engine) (text : List Char) :
    Option (Option String × String × List Char) := do
  let (first, rest) ← unquote engine text
  match rest.dropPrefix? ['.'] with
  | none => return (none, String.ofList first, rest)
  | some rest =>
    let (second, rest) ← unquote engine rest
    return (some (String.ofList first), String.ofList second, rest)

def readUpdate (engine : Engine) (sql : String) : Option Reading := do
  let rest ← sql.toList.dropPrefix? "UPDATE ".toList
  let (schema, table, rest) ← readTable engine rest
  let rest ← rest.dropPrefix? " SET ".toList
  let (assigned, key) ← readBindings engine 1 rest
  return { schema, table, assigned, key }

/-! ## Numbers and placeholders -/

theorem readNumber_append {number : Nat} {rest : List Char}
    (ends : ∀ next ∈ rest.head?, next.isDigit = false) :
    readNumber ((toString number).toList ++ rest) = some (number, rest) := by
  have digits : ∀ digit ∈ Nat.toDigits 10 number, digit.isDigit = true :=
    fun _ => Text.isDigit_of_mem_toDigits
  rw [Nat.toString_eq_repr, Nat.toList_repr, readNumber, Text.takeWhile_run digits ends,
    Text.dropWhile_run digits ends]
  split
  · next empty => exact absurd empty Nat.toDigits_ne_nil
  · rw [Text.digitsValue_toDigits]

theorem readPlaceholder_append {engine : Engine} {number : Nat} {rest : List Char}
    (ends : ∀ next ∈ rest.head?, next.isDigit = false) :
    readPlaceholder engine number ((placeholder engine number).toList ++ rest) =
      some (number, rest) := by
  cases engine with
  | postgres =>
    have text : (placeholder .postgres number).toList ++ rest =
        ['$'] ++ ((toString number).toList ++ rest) := by
      simp [placeholder]
    rw [text, readPlaceholder, dropPrefix?_append]
    exact readNumber_append ends
  | sqlServer =>
    have text : (placeholder .sqlServer number).toList ++ rest =
        ['@', 'P'] ++ ((toString number).toList ++ rest) := by
      simp [placeholder]
    rw [text, readPlaceholder, dropPrefix?_append]
    exact readNumber_append ends
  | mySql =>
    have text : (placeholder .mySql number).toList ++ rest = ['?'] ++ rest := by
      simp [placeholder]
    rw [text, readPlaceholder, dropPrefix?_append]
    rfl

/-! ## Where a data type ends -/

/-- A text that ends, or that goes on with a separator and a binding of an accepted name. -/
inductive Follows (engine : Engine) (place : Nat) : List Char → Prop where
  | nothing : Follows engine place []
  | binding {separator marked : List Char} {column : String} (listed : separator ∈ separators)
      (accepted : checkName column = .ok ())
      (placed : (readPlaceholder engine place marked).isSome) :
      Follows engine place
        (separator ++ (quoteChars engine column ++ (' ' :: '=' :: ' ' :: marked)))

theorem eq_of_mem_separators {separator : List Char} (listed : separator ∈ separators) :
    separator = [',', ' '] ∨ separator = [' ', 'W', 'H', 'E', 'R', 'E', ' '] := by
  simpa [separators] using listed

section LoneQuotes

variable {quote left right : Char} {text behind : List Char}

theorem eq_quote_of_doubled_eq (equal : doubled quote text ++ [quote] = quote :: right :: behind) :
    right = quote := by
  cases text with
  | nil => cases equal
  | cons first more =>
    by_cases same : first = quote
    · rw [same, doubled_cons_self] at equal
      cases equal
      rfl
    · rw [doubled_cons_of_ne same] at equal
      exact absurd (List.cons.inj equal).1 same

theorem doubled_lone_quote {before : List Char}
    (equal : doubled quote text ++ [quote] = before ++ left :: quote :: right :: behind) :
    left = quote ∨ right = quote := by
  induction text generalizing before with
  | nil =>
    have lengths := congrArg List.length equal
    simp only [doubled_nil, List.nil_append, List.length_append, List.length_cons,
      List.length_nil] at lengths
    omega
  | cons first more induction =>
    by_cases same : first = quote
    · rw [same, doubled_cons_self] at equal
      rcases before with _ | ⟨_, _ | ⟨_, before⟩⟩
      · exact .inl (List.cons.inj equal).1.symm
      · exact .inl (List.cons.inj (List.cons.inj equal).2).1.symm
      · exact induction (List.cons.inj (List.cons.inj equal).2).2
    · rw [doubled_cons_of_ne same] at equal
      cases before with
      | nil => exact .inr (eq_quote_of_doubled_eq (List.cons.inj equal).2)
      | cons _ before => exact induction (List.cons.inj equal).2

end LoneQuotes

theorem eq_nil_of_separator_eq_append {separator other type : List Char}
    (listed : separator ∈ separators) (otherListed : other ∈ separators)
    (equal : separator = type ++ other) : type = [] := by
  have same : other = separator := by
    have ends : other <:+ separator := ⟨type, equal.symm⟩
    rcases eq_of_mem_separators listed with rfl | rfl <;>
      rcases eq_of_mem_separators otherListed with rfl | rfl
    · rfl
    · exact absurd ends (by decide)
    · exact absurd ends (by decide)
    · rfl
  rw [same] at equal
  exact List.self_eq_append_left.mp equal

theorem separated_quoteChars_ne {separator other type between : List Char} {name column : String}
    (listed : separator ∈ separators) (otherListed : other ∈ separators) (some : type ≠ [])
    (accepted : checkName column = .ok ()) :
    separator ++ (quoteChars .postgres name ++ [' ']) ≠
      type ++ (other ++ (quoteChars .postgres column ++ ' ' :: between)) := by
  intro equal
  -- The quote of `column` is a lone one: a blank stands before it, and no quote behind it.
  have blank : ∃ lead, other = lead ++ [' '] := by
    rcases eq_of_mem_separators otherListed with rfl | rfl
    · exact ⟨[','], rfl⟩
    · exact ⟨[' ', 'W', 'H', 'E', 'R', 'E'], rfl⟩
  have lone : ∃ first tail, quoteChars .postgres column ++ ' ' :: between = '"' :: first :: tail ∧
      tail ≠ [] ∧ first ≠ '"' := by
    cases chars : column.toList with
    | nil => exact absurd chars (toList_ne_nil_of_checkName accepted)
    | cons first more =>
      rw [quoteChars_of_checkName accepted, chars]
      refine ⟨first, more ++ '"' :: ' ' :: between, by simp [openQuote, closeQuote], by simp, ?_⟩
      rintro rfl
      exact not_mem_of_checkName accepted (by decide) (chars ▸ List.mem_cons_self)
  rcases blank with ⟨lead, rfl⟩
  rcases lone with ⟨first, tail, text, more, first_ne⟩
  have split : separator ++ (quoteChars .postgres name ++ [' ']) =
      (type ++ lead) ++ ' ' :: '"' :: first :: tail := by
    rw [equal, text]
    simp
  rcases List.append_eq_append_iff.mp split with ⟨before, whole, rest⟩ | ⟨cut, whole, rest⟩
  · -- The lone quote stands in the quoted text.
    rcases (List.eq_nil_or_concat tail).resolve_left more with ⟨init, last, rfl⟩
    have inside : quoteChars .postgres name ++ [' '] =
        (before ++ ' ' :: '"' :: first :: init) ++ [last] := by
      rw [rest]
      simp
    have quoted := (List.append_inj' inside rfl).1
    cases before with
    | nil => cases quoted
    | cons _ before =>
      rcases doubled_lone_quote (List.cons.inj quoted).2 with blank | same
      · cases blank
      · exact first_ne same
  · -- The lone quote opens the quoted text, or stands in the separator.
    rcases cut with _ | ⟨_, _ | ⟨second, cut⟩⟩
    · cases rest
    · rw [List.singleton_append, List.cons.injEq] at rest
      rw [← rest.1, List.append_assoc] at whole
      exact some (eq_nil_of_separator_eq_append listed otherListed whole)
    · have quote : '"' ∈ separator := by
        rw [(List.cons.inj (List.cons.inj rest).2).1, whole]
        simp
      rcases eq_of_mem_separators listed with rfl | rfl
      · exact absurd quote (by decide)
      · exact absurd quote (by decide)

theorem eq_of_bindingFollows {place : Nat} {text : List Char}
    (found : bindingFollows .postgres place text = true) :
    ∃ separator ∈ separators, ∃ name marked,
      text =
        (separator ++ (quoteChars .postgres name ++ [' '])) ++ '=' :: ' ' :: '$' :: marked := by
  simp only [bindingFollows, List.any_eq_true, Option.isSome_iff_exists,
    Option.bind_eq_some_iff] at found
  rcases found with ⟨separator, listed, ⟨bound, rest⟩, behind, dropped, read⟩
  rcases eq_of_readBound read with ⟨marked, whole, placed⟩
  rcases Option.bind_eq_some_iff.mp placed with ⟨digits, marks, -⟩
  refine ⟨separator, listed, bound.1, digits, ?_⟩
  rw [eq_append_of_dropPrefix? dropped, whole, eq_append_of_dropPrefix? marks]
  simp

/-- No binding begins within a data type, nor at its end and goes on behind it. -/
theorem bindingFollows_eq_false {place : Nat} {type rest : List Char} (some : type ≠ [])
    (dollarless : '$' ∉ type) (follows : Follows .postgres place rest) :
    bindingFollows .postgres place (type ++ rest) = false := by
  rw [Bool.eq_false_iff]
  intro found
  rcases eq_of_bindingFollows found with ⟨separator, listed, name, marked, whole⟩
  cases follows with
  | nothing =>
    rw [List.append_nil] at whole
    rw [whole] at dollarless
    simp at dollarless
  | @binding other otherMarked column otherListed accepted placed =>
    -- Neither a separator nor an accepted name has an equals sign, so the first one behind the data
    -- type is that of its binding, and the one that was found comes no earlier.
    have equalsless : '=' ∉ other ++ (quoteChars .postgres column ++ [' ']) := by
      rw [quoteChars_of_checkName accepted]
      have named : '=' ∉ column.toList := not_mem_of_checkName accepted (by decide)
      rcases eq_of_mem_separators otherListed with rfl | rfl <;>
        simp [openQuote, closeQuote, named]
    have signs : type ++ ((other ++ (quoteChars .postgres column ++ [' '])) ++
          '=' :: ' ' :: otherMarked) =
        (separator ++ (quoteChars .postgres name ++ [' '])) ++ '=' :: ' ' :: '$' :: marked := by
      rw [← whole]
      simp
    rcases List.append_eq_append_iff.mp signs with ⟨before, equal, behind⟩ | ⟨cut, equal, behind⟩
    · rcases split_of_not_mem equalsless behind with ⟨between, rfl, -⟩
      have joined : separator ++ (quoteChars .postgres name ++ [' ']) =
          type ++ (other ++ (quoteChars .postgres column ++ ' ' :: between)) := by
        rw [equal]
        simp
      exact separated_quoteChars_ne listed otherListed some accepted joined
    · -- The equals sign stands in the data type, and what follows cannot be a blank and a dollar.
      have long : ∃ first second third more, cut = first :: second :: third :: more := by
        rcases cut with _ | ⟨first, _ | ⟨second, _ | ⟨third, more⟩⟩⟩
        · rcases eq_of_mem_separators otherListed with rfl | rfl <;> simp at behind
        · rcases eq_of_mem_separators otherListed with rfl | rfl <;> simp at behind
        · rcases eq_of_mem_separators otherListed with rfl | rfl <;> simp at behind
        · exact ⟨first, second, third, more, rfl⟩
      rcases long with ⟨first, second, third, more, rfl⟩
      simp only [List.cons_append, List.cons.injEq] at behind
      rw [equal, ← behind.2.2.1] at dollarless
      simp at dollarless

theorem readBound_append {engine : Engine} {place number : Nat} (column : String)
    {marked rest : List Char} (placed : readPlaceholder engine place marked = some (number, rest)) :
    readBound engine place (quoteChars engine column ++ ' ' :: '=' :: ' ' :: marked) =
      some ((column, number), rest) := by
  have ends : (' ' :: '=' :: ' ' :: marked).head? ≠ some (closeQuote engine) :=
    blank_ne_closeQuote _
  have sign : (' ' :: '=' :: ' ' :: marked).dropPrefix? [' ', '=', ' '] = some marked :=
    dropPrefix?_append [' ', '=', ' '] marked
  simp only [readBound, unquote_quoteChars engine column _ ends, Option.bind_eq_bind,
    Option.bind_some, sign, placed, String.ofList_toList]
  rfl

namespace Follows

variable {engine : Engine} {place : Nat} {text : List Char} (follows : Follows engine place text)

include follows

theorem bindingFollows_eq_true (some : text ≠ []) : bindingFollows engine place text = true := by
  cases follows with
  | nothing => exact absurd rfl some
  | @binding separator marked column listed accepted placed =>
    rcases Option.isSome_iff_exists.mp placed with ⟨⟨number, rest⟩, read⟩
    rw [bindingFollows, List.any_eq_true]
    refine ⟨separator, listed, ?_⟩
    rw [dropPrefix?_append, Option.bind_some, readBound_append column read]
    rfl

theorem head_cases : text.head? = none ∨ text.head? = some ',' ∨ text.head? = some ' ' := by
  cases follows with
  | nothing => exact .inl rfl
  | binding listed =>
    rcases eq_of_mem_separators listed with rfl | rfl
    · exact .inr (.inl rfl)
    · exact .inr (.inr rfl)

theorem head_not_digit : ∀ next ∈ text.head?, next.isDigit = false := by
  intro next isHead
  rcases follows.head_cases with none | comma | blank
  · rw [none] at isHead
    cases isHead
  · rw [comma] at isHead
    cases isHead
    rfl
  · rw [blank] at isHead
    cases isHead
    rfl

theorem skipCast_eq : skipCast engine place text = text := by
  rw [skipCast]
  split
  · next rest dropped =>
    have colon : text.head? = some ':' := by
      rw [eq_append_of_dropPrefix? dropped]
      rfl
    rcases follows.head_cases with none | comma | blank <;> simp_all
  · rfl

end Follows

theorem skipType_append {place : Nat} {type rest : List Char} (dollarless : '$' ∉ type)
    (follows : Follows .postgres place rest) : skipType .postgres place (type ++ rest) = rest := by
  induction type with
  | nil =>
    cases rest with
    | nil => rfl
    | cons first rest => exact if_pos (follows.bindingFollows_eq_true (List.cons_ne_nil first rest))
  | cons first type induction =>
    have absent := bindingFollows_eq_false (List.cons_ne_nil first type) dollarless follows
    rw [List.cons_append] at absent ⊢
    rw [skipType, absent]
    exact induction (fun member => dollarless (List.mem_cons_of_mem first member))

/-! ## Bindings -/

def castChars (engine : Engine) (columnType : Option String) : List Char :=
  match engine, columnType with
  | .postgres, some columnType => ':' :: ':' :: columnType.toList
  | _, _ => []

theorem toList_typedPlaceholder (engine : Engine) (number : Nat) (columnType : Option String) :
    (typedPlaceholder engine number columnType).toList =
      (placeholder engine number).toList ++ castChars engine columnType := by
  cases engine <;> cases columnType <;> simp [typedPlaceholder, placeholder, castChars]

/-- No type among those that PostgreSQL is told holds a dollar sign. -/
def Dollarless (engine : Engine) (types : ColumnTypes) : Prop :=
  engine = .postgres → ∀ entry ∈ types, '$' ∉ entry.2.toList

theorem mem_of_lookup {column type : String} {types : ColumnTypes}
    (found : Entries.lookup column types = some type) : (column, type) ∈ types := by
  induction types with
  | nil => cases found
  | cons entry rest induction =>
    rw [Entries.lookup] at found
    split at found
    · next same =>
      cases found
      rw [← same]
      exact List.mem_cons_self
    · exact List.mem_cons_of_mem entry (induction found)

section Bindings

variable {engine : Engine} {types : ColumnTypes} {column keyColumn : String}

theorem toList_binding (number : Nat) :
    (binding engine types column number).toList = quoteChars engine column ++ ' ' :: '=' :: ' ' ::
      ((placeholder engine number).toList ++ castChars engine (Entries.lookup column types)) := by
  simp [binding, quote, toList_typedPlaceholder]

theorem readPlaceholder_castChars (columnType : Option String) (number : Nat) {place : Nat}
    {rest : List Char} (follows : Follows engine place rest) :
    readPlaceholder engine number
        ((placeholder engine number).toList ++ (castChars engine columnType ++ rest)) =
      some (number, castChars engine columnType ++ rest) := by
  apply readPlaceholder_append
  cases engine with
  | mySql | sqlServer => exact follows.head_not_digit
  | postgres =>
    cases columnType with
    | none => exact follows.head_not_digit
    | some columnType =>
      rintro next ⟨⟩
      rfl

theorem skipCast_castChars {place : Nat} {rest : List Char} (dollarless : Dollarless engine types)
    (follows : Follows engine place rest) :
    skipCast engine place (castChars engine (Entries.lookup column types) ++ rest) = rest := by
  cases engine with
  | mySql | sqlServer => exact follows.skipCast_eq
  | postgres =>
    cases found : Entries.lookup column types with
    | none => exact follows.skipCast_eq
    | some type =>
      have absent := dollarless rfl _ (mem_of_lookup found)
      have cast : (castChars .postgres (some type) ++ rest).dropPrefix? [':', ':'] =
          some (type.toList ++ rest) := dropPrefix?_append [':', ':'] _
      rw [skipCast, cast]
      exact skipType_append absent follows

theorem readBinding_append (column : String) (number : Nat) {rest : List Char}
    (dollarless : Dollarless engine types) (follows : Follows engine (number + 1) rest) :
    readBinding engine number ((binding engine types column number).toList ++ rest) =
      some ((column, number), rest) := by
  have placed := readPlaceholder_castChars (Entries.lookup column types) number follows
  have bound := readBound_append column placed
  simp only [toList_binding, List.append_assoc, List.cons_append]
  rw [readBinding, bound, Option.map_some]
  simp only [skipCast_castChars dollarless follows]

theorem follows_binding {separator rest : List Char} {number place : Nat}
    (listed : separator ∈ separators) (accepted : checkName column = .ok ())
    (follows : Follows engine place rest) :
    Follows engine number (separator ++ ((binding engine types column number).toList ++ rest)) := by
  simp only [toList_binding, List.append_assoc, List.cons_append]
  apply Follows.binding listed accepted
  rw [readPlaceholder_castChars _ _ follows]
  rfl

theorem readBindings_of_comma {place : Nat} {text more : List Char} {bound : Bound}
    (read : readBinding engine place text = some (bound, ", ".toList ++ more)) :
    readBindings engine place text =
      (readBindings engine (place + 1) more).map fun (others, key) => (bound :: others, key) := by
  rw [readBindings]
  split
  · next none =>
    rw [read] at none
    cases none
  · next found rest same =>
    rw [read] at same
    cases same
    split
    · next others dropped =>
      rw [dropPrefix?_append] at dropped
      cases dropped
      rfl
    · next dropped =>
      rw [dropPrefix?_append] at dropped
      cases dropped

theorem readBindings_of_where {place : Nat} {text more : List Char} {bound key : Bound}
    (read : readBinding engine place text = some (bound, " WHERE ".toList ++ more))
    (keyRead : readBinding engine (place + 1) more = some (key, [])) :
    readBindings engine place text = some ([bound], key) := by
  rw [readBindings]
  split
  · next none =>
    rw [read] at none
    cases none
  · next found rest same =>
    rw [read] at same
    cases same
    split
    · next others dropped =>
      have heads := congrArg List.head? (eq_append_of_dropPrefix? dropped)
      simp at heads
    · simp only [dropPrefix?_append, keyRead, Option.bind_eq_bind, Option.bind_some, if_true]

theorem toList_bindings_cons_cons (number : Nat) (column next : String) (more : List String) :
    (", ".intercalate (bindings engine types number (column :: next :: more))).toList =
      (binding engine types column number).toList ++ (", ".toList ++
        (", ".intercalate (bindings engine types (number + 1) (next :: more))).toList) := by
  simp only [bindings, String.toList_intercalate, List.map_cons, List.intercalate_cons_cons,
    List.append_assoc]

theorem toList_bindings_singleton (number : Nat) (column : String) :
    (", ".intercalate (bindings engine types number [column])).toList =
      (binding engine types column number).toList := by
  simp [bindings]

theorem follows_bindings {columns : List String} {separator rest : List Char} {number place : Nat}
    (listed : separator ∈ separators) (some : columns ≠ [])
    (accepted : ∀ column ∈ columns, checkName column = .ok ())
    (follows : Follows engine place rest) :
    Follows engine number (separator ++
      ((", ".intercalate (bindings engine types number columns)).toList ++ rest)) := by
  induction columns generalizing number separator with
  | nil => exact absurd rfl some
  | cons column others induction =>
    have columnAccepted := accepted column List.mem_cons_self
    cases others with
    | nil =>
      rw [toList_bindings_singleton]
      exact follows_binding listed columnAccepted follows
    | cons next more =>
      have othersAccepted : ∀ name ∈ next :: more, checkName name = .ok () :=
        fun name member => accepted name (List.mem_cons_of_mem column member)
      have behind : Follows engine (number + 1) (", ".toList ++
          ((", ".intercalate (bindings engine types (number + 1) (next :: more))).toList ++
            rest)) :=
        induction (by simp [separators]) nofun othersAccepted
      rw [toList_bindings_cons_cons, List.append_assoc, List.append_assoc]
      exact follows_binding listed columnAccepted behind

theorem readBindings_append {columns : List String} (number : Nat) (some : columns ≠ [])
    (accepted : ∀ column ∈ columns, checkName column = .ok ())
    (keyAccepted : checkName keyColumn = .ok ()) (dollarless : Dollarless engine types) :
    readBindings engine number
        ((", ".intercalate (bindings engine types number columns)).toList ++
          (" WHERE ".toList ++ (binding engine types keyColumn (number + columns.length)).toList)) =
      .some (columns.zipIdx number, (keyColumn, number + columns.length)) := by
  have keyFollows (place : Nat) : Follows engine place
      (" WHERE ".toList ++ (binding engine types keyColumn place).toList) := by
    have ended : Follows engine place [] := .nothing
    rw [← List.append_nil (binding engine types keyColumn place).toList]
    exact follows_binding (by simp [separators]) keyAccepted ended
  induction columns generalizing number with
  | nil => exact absurd rfl some
  | cons column others induction =>
    cases others with
    | nil =>
      have keyRead := readBinding_append keyColumn (number + 1) dollarless .nothing
      rw [List.append_nil] at keyRead
      have read := readBinding_append column number dollarless (keyFollows (number + 1))
      rw [toList_bindings_singleton]
      exact readBindings_of_where read keyRead
    | cons next more =>
      have othersAccepted : ∀ name ∈ next :: more, checkName name = .ok () :=
        fun name member => accepted name (List.mem_cons_of_mem column member)
      have later := induction (number + 1) nofun othersAccepted
      have length : number + 1 + (next :: more).length =
          number + (column :: next :: more).length := by
        simp only [List.length_cons]
        omega
      rw [length] at later
      have follows : Follows engine (number + 1) (", ".toList ++
          ((", ".intercalate (bindings engine types (number + 1) (next :: more))).toList ++ _)) :=
        follows_bindings (by simp [separators]) nofun othersAccepted
          (keyFollows (number + (column :: next :: more).length))
      have read := readBinding_append column number dollarless follows
      rw [toList_bindings_cons_cons, List.append_assoc, List.append_assoc,
        readBindings_of_comma read, later]
      rfl

end Bindings

/-! ## Statements -/

theorem readTable_append {engine : Engine} {schema : Option String} {table : String}
    {rest : List Char} (blank : rest.head? = some ' ') :
    readTable engine (quoteTableChars engine schema table ++ rest) =
      some (schema, table, rest) := by
  have ends : rest.head? ≠ some (closeQuote engine) := by
    rw [blank]
    cases engine <;> simp [closeQuote]
  cases schema with
  | none =>
    have undotted : rest.dropPrefix? ['.'] = none := by
      cases dropped : rest.dropPrefix? ['.'] with
      | none => rfl
      | some more =>
        rw [eq_append_of_dropPrefix? dropped] at blank
        cases blank
    simp [readTable, quoteTableChars, unquote_quoteChars engine table rest ends, undotted]
  | some schema =>
    have dotEnds : ('.' :: (quoteChars engine table ++ rest)).head? ≠ some (closeQuote engine) :=
      cons_ne_closeQuote (by decide) _
    have dot : ('.' :: (quoteChars engine table ++ rest)).dropPrefix? ['.'] =
        some (quoteChars engine table ++ rest) := dropPrefix?_append ['.'] _
    simp [readTable, quoteTableChars, unquote_quoteChars engine schema _ dotEnds, dot,
      unquote_quoteChars engine table rest ends]

/-- The text of an update is read back as what it was made of: the columns numbered from one, and
the column of the key with the number behind them. -/
theorem readUpdate_statement {engine : Engine} {schema : Option String} {table keyColumn : String}
    {columns : List String} {types : ColumnTypes} (some : columns ≠ [])
    (accepted : ∀ column ∈ columns, checkName column = .ok ())
    (keyAccepted : checkName keyColumn = .ok ()) (dollarless : Dollarless engine types) :
    readUpdate engine (statement engine schema table keyColumn columns types) =
      .some ⟨schema, table, columns.zipIdx 1, (keyColumn, columns.length + 1)⟩ := by
  have text : (statement engine schema table keyColumn columns types).toList =
      "UPDATE ".toList ++ (quoteTableChars engine schema table ++ (" SET ".toList ++
        ((", ".intercalate (bindings engine types 1 columns)).toList ++ (" WHERE ".toList ++
          (binding engine types keyColumn (columns.length + 1)).toList)))) := by
    simp only [statement, quoteTable, String.toList_append, String.toList_ofList, List.append_assoc]
  have read := readBindings_append 1 some accepted keyAccepted dollarless
  rw [Nat.add_comm 1] at read
  have blank (rest : List Char) : (" SET ".toList ++ rest).head? = .some ' ' := by simp
  rw [readUpdate, text]
  simp only [dropPrefix?_append, Option.bind_eq_bind, Option.bind_some, readTable_append (blank _),
    read]
  rfl

end SqlGateway.RowUpdate
