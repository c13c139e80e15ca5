import SqlGateway.Proofs.Change.Planning
import SqlGateway.Proofs.Change.Reading

/-!
# Renaming by a call

SQL Server renames a column by a procedure call, so that the quoted name of the column stands inside
a string literal and is quoted twice. A reader that knows neither the table nor the names takes the
call apart into its literals, and the first literal into its names: it finds exactly what was to be
renamed and the new name. No other change is made by a call, and the first word of a clause is
enough to tell calls from clauses: `rename_reads_back`.
-/

namespace SqlGateway.TableChange

open Sql
open RowUpdate (dropPrefix?_append eq_append_of_dropPrefix?)

/-! ## Items with separators between them -/

/-- A reader that has less in front of it once it has read something. -/
structure Leaf (α : Type) where
  read : List Char → Option (α × List Char)
  shorter {text rest : List Char} {item : α} :
    read text = some (item, rest) → rest.length < text.length

namespace Leaf

variable {α : Type} (leaf : Leaf α)

def separated (separator text : List Char) : Option (List α) :=
  match _read : leaf.read text with
  | none => none
  | some (item, []) => some [item]
  | some (item, next :: more) =>
    match _dropped : (next :: more).dropPrefix? separator with
    | none => none
    | some rest => (separated separator rest).map (item :: ·)
termination_by text.length
decreasing_by
  have behind := leaf.shorter _read
  rw [eq_append_of_dropPrefix? _dropped, List.length_append] at behind
  omega

variable {leaf} {text : List Char} {item : α}

theorem separated_last (read : leaf.read text = some (item, [])) (separator : List Char) :
    leaf.separated separator text = some [item] := by
  rw [separated]
  split
  · next unread => cases read.symm.trans unread
  · next again =>
    cases read.symm.trans again
    rfl
  · next again => cases read.symm.trans again

theorem separated_next {first : Char} {separator rest : List Char}
    (read : leaf.read text = some (item, first :: separator ++ rest)) :
    leaf.separated (first :: separator) text =
      (leaf.separated (first :: separator) rest).map (item :: ·) := by
  have dropped : (first :: separator ++ rest).dropPrefix? (first :: separator) = some rest :=
    dropPrefix?_append (first :: separator) rest
  rw [separated]
  split
  · next unread => cases read.symm.trans unread
  · next again => cases read.symm.trans again
  · next again =>
    cases read.symm.trans again
    split
    · next missing => cases dropped.symm.trans missing
    · next again =>
      cases dropped.symm.trans again
      rfl

end Leaf

/-! ## The reader of calls -/

theorem length_of_readLiteral {text literal rest : List Char}
    (read : readLiteral text = some (literal, rest)) : rest.length < text.length := by
  rcases Option.bind_eq_some_iff.mp read with ⟨behind, dropped, scanned⟩
  rw [eq_append_of_dropPrefix? dropped, eq_of_scanDoubled scanned]
  simp only [List.length_append, List.length_cons]
  omega

def literals : Leaf (List Char) := ⟨readLiteral, length_of_readLiteral⟩

def quotedNames (engine : Engine) : Leaf String := ⟨readName engine, length_of_readName⟩

def readCall (text : List Char) : Option (List (List Char)) :=
  (text.dropPrefix? "EXEC sp_rename ".toList).bind (literals.separated ", ".toList)

def readQualified (engine : Engine) (text : List Char) : Option (List String) :=
  (quotedNames engine).separated ['.'] text

def qualifiedColumn (engine : Engine) (schema : Option String) (table column : String) :
    List Char :=
  quoteTableChars engine schema table ++ '.' :: quoteChars engine column

section Reading

variable {engine : Engine}

theorem readQualified_cons (name : String) (rest : List Char) :
    readQualified engine (quoteChars engine name ++ '.' :: rest) =
      (readQualified engine rest).map (name :: ·) := by
  apply Leaf.separated_next
  exact readName_append name (cons_ne_closeQuote (by decide) rest)

theorem readQualified_quoteChars (name : String) :
    readQualified engine (quoteChars engine name) = some [name] := by
  apply Leaf.separated_last
  have read : readName engine (quoteChars engine name ++ []) = some (name, []) :=
    readName_append name nil_ne_closeQuote
  rw [List.append_nil] at read
  exact read

theorem readQualified_qualifiedColumn (schema : Option String) (table column : String) :
    readQualified engine (qualifiedColumn engine schema table column) =
      some (schema.toList ++ [table, column]) := by
  have inTable : readQualified engine
      (quoteChars engine table ++ '.' :: quoteChars engine column) = some [table, column] := by
    rw [readQualified_cons, readQualified_quoteChars]
    rfl
  cases schema with
  | none => exact inTable
  | some schema =>
    rw [qualifiedColumn, quoteTableChars, List.append_assoc, List.cons_append, readQualified_cons,
      inTable]
    rfl

theorem readLiterals_last (text : List Char) :
    literals.separated ", ".toList (stringLiteral text) = some [text] := by
  apply Leaf.separated_last
  have read : readLiteral (stringLiteral text ++ []) = some (text, []) :=
    readLiteral_append text nofun
  rw [List.append_nil] at read
  exact read

theorem readLiterals_cons (text rest : List Char) :
    literals.separated ", ".toList (stringLiteral text ++ (", ".toList ++ rest)) =
      (literals.separated ", ".toList rest).map (text :: ·) := by
  have comma : (", ".toList ++ rest).head? ≠ some '\'' := by
    change some ',' ≠ some '\''
    decide
  exact Leaf.separated_next (readLiteral_append text comma)

theorem readCall_renameCall (table : List Char) (name newName : String) :
    readCall (renameCall table name newName) =
      some [table ++ '.' :: quoteChars .sqlServer name, newName.toList, "COLUMN".toList] := by
  have last : ", N'COLUMN'".toList = ", ".toList ++ stringLiteral "COLUMN".toList := by decide
  unfold renameCall
  rw [last]
  simp only [List.append_assoc]
  rw [readCall, dropPrefix?_append, Option.bind_some, readLiterals_cons, readLiterals_cons,
    readLiterals_last]
  rfl

end Reading

/-! ## Calls and clauses -/

def clauseChars (engine : Engine) (table : List Char) : TableChange → List Char
  | .addColumn name dataType nullable fallback =>
    addColumnClause engine name dataType nullable fallback
  | .dropColumn name => "DROP COLUMN ".toList ++ quoteChars engine name
  | .alterColumnType name dataType nullable => alterTypeClause engine name dataType nullable
  | .renameColumn name newName =>
    match engine with
    | .sqlServer => renameCall table name newName
    | .postgres | .mySql =>
      "RENAME COLUMN ".toList ++ quoteChars engine name ++ " TO ".toList ++
        quoteChars engine newName
  | .addPrimaryKey name columns => addPrimaryKeyClause engine name columns
  | .dropPrimaryKey name => dropPrimaryKeyClause engine name
  | .addForeignKey key => addForeignKeyClause engine key
  | .dropForeignKey name => dropForeignKeyClause engine name
  | .unknown => []

def isCall (text : List Char) : Bool := "EXEC ".toList.isPrefixOf text

def completed (table clause : List Char) : List Char :=
  if isCall clause then clause else alterTable table clause

def MadeByCall (engine : Engine) (change : TableChange) : Prop :=
  engine = .sqlServer ∧ ∃ name newName, change = .renameColumn name newName

section Calls

variable {engine : Engine} {table clause : List Char} {change : TableChange}

theorem completed_of_call (call : isCall clause = true) : completed table clause = clause :=
  if_pos call

theorem completed_of_clause (words : isCall clause = false) :
    completed table clause = alterTable table clause := by
  rw [completed, words, if_neg Bool.false_ne_true]

theorem isCall_eq_false (other : clause.head? ≠ some 'E') : isCall clause = false := by
  cases clause with
  | nil => rfl
  | cons first rest =>
    have apart : ('E' == first) = false := beq_false_of_ne fun same => other (same ▸ rfl)
    rw [isCall, show "EXEC ".toList = 'E' :: "XEC ".toList from rfl, List.isPrefixOf_cons_cons,
      apart]
    rfl

theorem isCall_clauseChars (clause : ¬MadeByCall engine change) :
    isCall (change.clauseChars engine table) = false := by
  have apart {first : Char} (listed : first ∈ ['A', 'D', 'M', 'R']) : some first ≠ some 'E' := by
    intro same
    cases same
    exact absurd listed (by decide)
  apply isCall_eq_false
  cases change with
  | addColumn | alterColumnType | dropPrimaryKey | dropForeignKey =>
    cases engine <;> exact apart (by decide)
  | dropColumn | addForeignKey => exact apart (by decide)
  | renameColumn name newName =>
    cases engine with
    | sqlServer => exact absurd ⟨rfl, name, newName, rfl⟩ clause
    | postgres | mySql => exact apart (by decide)
  | addPrimaryKey name columns =>
    cases engine <;> cases name <;> exact apart (by decide)
  | unknown => exact nofun

theorem renderChars_of_clause (known : change ≠ .unknown) (clause : ¬MadeByCall engine change) :
    change.renderChars engine table = alterTable table (change.clauseChars engine table) := by
  cases change with
  | renameColumn name newName =>
    cases engine with
    | sqlServer => exact absurd ⟨rfl, name, newName, rfl⟩ clause
    | postgres | mySql => rfl
  | unknown => exact absurd rfl known
  | addColumn | dropColumn | alterColumnType | addPrimaryKey | dropPrimaryKey | addForeignKey
  | dropForeignKey => rfl

theorem renderChars_of_known (known : change ≠ .unknown) :
    change.renderChars engine table = completed table (change.clauseChars engine table) := by
  by_cases call : MadeByCall engine change
  · rcases call with ⟨rfl, name, newName, rfl⟩
    have word : isCall (renameCall table name newName) = true := rfl
    exact (completed_of_call word).symm
  · rw [renderChars_of_clause known call, completed_of_clause (isCall_clauseChars call)]

theorem alterTable_append (table clause : List Char) :
    alterTable table [] ++ clause = alterTable table clause := by
  unfold alterTable
  simp only [List.append_assoc, List.cons_append, List.nil_append]

theorem alterTable_prefix_iff :
    alterTable table [] <+: change.renderChars engine table ↔
      change ≠ .unknown ∧ ¬MadeByCall engine change := by
  constructor
  · intro begins
    constructor
    · intro unknown
      rw [renderChars_eq_nil_iff.mpr unknown] at begins
      exact alterTable_ne_nil table [] (List.prefix_nil.mp begins)
    · intro call
      rcases call with ⟨rfl, name, newName, rfl⟩
      rcases begins with ⟨rest, equal⟩
      have first : some 'A' = some 'E' := congrArg List.head? equal
      cases first
  · intro clause
    rw [renderChars_of_clause clause.1 clause.2]
    exact ⟨change.clauseChars engine table, alterTable_append table _⟩

end Calls

/-! ## Everything together -/

/-- On SQL Server the statement that renames a column is a call with three string literals and
nothing behind them. Read without the doubling of its quotes, the first is the qualified name of
the column, from which schema, table and column are read as they were given, and the second is the
new name. No other change is made by a call: every other statement begins with `ALTER TABLE` and its
table, only the unknown change has none, and the first word of what an engine says of a change is
enough to tell which it is. -/
theorem rename_reads_back :
    (∀ (schema : Option String) (table name newName : String), ∃ target,
      readCall ((TableChange.renameColumn name newName).render .sqlServer
          (quoteTable .sqlServer schema table)).toList =
        some [target, newName.toList, "COLUMN".toList] ∧
      readQualified .sqlServer target = some (schema.toList ++ [table, name])) ∧
    ∀ (engine : Engine) (quotedTable : String) (change : TableChange),
      change.render engine quotedTable =
        (if change = .unknown then ""
          else String.ofList (completed quotedTable.toList
            (change.clauseChars engine quotedTable.toList))) ∧
      ("ALTER TABLE ".toList ++ quotedTable.toList ++ [' '] <+:
          (change.render engine quotedTable).toList ↔
        change ≠ .unknown ∧ ¬MadeByCall engine change) := by
  constructor
  · intro schema table name newName
    refine ⟨qualifiedColumn .sqlServer schema table name, ?_,
      readQualified_qualifiedColumn schema table name⟩
    rw [render, quoteTable, String.toList_ofList, String.toList_ofList]
    exact readCall_renameCall (quoteTableChars .sqlServer schema table) name newName
  · intro engine quotedTable change
    constructor
    · by_cases unknown : change = .unknown
      · rw [if_pos unknown, render_eq_empty_iff.mpr unknown]
      · rw [if_neg unknown, render, renderChars_of_known unknown]
    · have words : "ALTER TABLE ".toList ++ quotedTable.toList ++ [' '] =
          alterTable quotedTable.toList [] := by
        unfold alterTable
        rfl
      rw [words, render, String.toList_ofList]
      exact alterTable_prefix_iff

/-- A point, a bracket and an apostrophe in a name change nothing of where the names end. -/
example : readQualified .sqlServer "[d'o].[t]].[u].[a]]]".toList = some ["d'o", "t].[u", "a]"] :=
  readQualified_qualifiedColumn (some "d'o") "t].[u" "a]"

end SqlGateway.TableChange
