import SqlGateway.Change.Statement
import SqlGateway.Proofs.Row.Reading

/-!
# Reading a change back from its statement

A reader that knows the table takes the statement of a change apart: by the words with which the
clause begins, and then by its quoted names, lists of names and further words. It passes over data
types and default expressions, which nothing delimits. What it finds is all that the statement
says of the kind of the change and of the names in it: `readStatement_renderChars`.
-/

namespace SqlGateway.TableChange

open Sql
open RowUpdate (readTable readTable_append dropPrefix?_append eq_append_of_dropPrefix?)

/-! ## The reader -/

/-- Reads what follows the words that a text begins with, by the form that these words announce. -/
def readForm {α : Type} (forms : List (String × (List Char → Option α))) (text : List Char) :
    Option α :=
  forms.findSome? fun form => (text.dropPrefix? form.1.toList).bind form.2

def readName (engine : Engine) (text : List Char) : Option (String × List Char) :=
  (unquote engine text).map fun read => (String.ofList read.1, read.2)

theorem length_of_readName {engine : Engine} {text rest : List Char} {name : String}
    (read : readName engine text = some (name, rest)) : rest.length < text.length := by
  rcases Option.map_eq_some_iff.mp read with ⟨⟨found, behind⟩, scanned, same⟩
  cases same
  rw [eq_of_unquote scanned, quoteChars]
  simp only [List.length_append, List.length_cons]
  omega

def readNames (engine : Engine) (text : List Char) : List String × List Char :=
  match _read : readName engine text with
  | none => ([], text)
  | some (name, rest) =>
    match _dropped : rest.dropPrefix? ", ".toList with
    | none => ([name], rest)
    | some more =>
      let (names, rest) := readNames engine more
      (name :: names, rest)
termination_by text.length
decreasing_by
  have shorter := length_of_readName _read
  rw [eq_append_of_dropPrefix? _dropped, List.length_append] at shorter
  omega

def actionForms : List (String × (List Char → Option (ReferentialAction × List Char))) :=
  ReferentialAction.all.map fun action => (action.sql, fun rest => some (action, rest))

def readAction (event : String) (text : List Char) : Option ReferentialAction × List Char :=
  match (text.dropPrefix? event.toList).bind (readForm actionForms) with
  | some (action, rest) => (some action, rest)
  | none => (none, text)

def readNamed (engine : Engine) (change : String → TableChange) (text : List Char) :
    Option TableChange :=
  (readName engine text).map fun read => change read.1

def readRename (engine : Engine) (text : List Char) : Option TableChange := do
  let (name, rest) ← readName engine text
  let rest ← rest.dropPrefix? " TO ".toList
  readNamed engine (.renameColumn name) rest

def readPrimaryKey (engine : Engine) (name : Option String) (text : List Char) :
    Option TableChange :=
  some (.addPrimaryKey name (readNames engine text).1)

def readForeignKey (engine : Engine) (name : String) (text : List Char) : Option TableChange := do
  let (columns, rest) := readNames engine text
  let rest ← rest.dropPrefix? ") REFERENCES ".toList
  let (referencedSchema, referencedTable, rest) ← readTable engine rest
  let rest ← rest.dropPrefix? " (".toList
  let (referencedColumns, rest) := readNames engine rest
  let rest ← rest.dropPrefix? [')']
  let (onDelete, rest) := readAction " ON DELETE " rest
  let (onUpdate, _) := readAction " ON UPDATE " rest
  return .addForeignKey {
    name, columns, referencedSchema, referencedTable, referencedColumns, onDelete, onUpdate }

def readConstraint (engine : Engine) (text : List Char) : Option TableChange := do
  let (name, rest) ← readName engine text
  readForm [(" PRIMARY KEY (", readPrimaryKey engine (some name)),
    (" FOREIGN KEY (", readForeignKey engine name)] rest

def newColumn (name : String) : TableChange := .addColumn name "" true none

def retypedColumn (name : String) : TableChange := .alterColumnType name "" none

def readBracketed (text : List Char) : Option TableChange :=
  readNamed .sqlServer newColumn ('[' :: text)

/-- The clauses of an engine by the words with which they begin. On SQL Server the name of a new
column stands right behind `ADD`. -/
def clauseForms (engine : Engine) : List (String × (List Char → Option TableChange)) :=
  [("DROP COLUMN ", readNamed engine .dropColumn),
    ("ADD PRIMARY KEY (", readPrimaryKey engine none),
    ("ADD CONSTRAINT ", readConstraint engine)] ++
  match engine with
  | .postgres => [
    ("ADD COLUMN ", readNamed engine newColumn),
    ("ALTER COLUMN ", readNamed engine retypedColumn),
    ("RENAME COLUMN ", readRename engine),
    ("DROP CONSTRAINT ", readNamed engine .dropPrimaryKey)]
  | .mySql => [
    ("ADD COLUMN ", readNamed engine newColumn),
    ("MODIFY COLUMN ", readNamed engine retypedColumn),
    ("RENAME COLUMN ", readRename engine),
    ("DROP PRIMARY KEY", fun _ => some (.dropPrimaryKey "")),
    ("DROP FOREIGN KEY ", readNamed engine .dropForeignKey)]
  | .sqlServer => [
    ("ADD [", readBracketed),
    ("ALTER COLUMN ", readNamed engine retypedColumn),
    ("DROP CONSTRAINT ", readNamed engine .dropPrimaryKey)]

def readLiteral (text : List Char) : Option (List Char × List Char) :=
  (text.dropPrefix? ['N', '\'']).bind (scanDoubled '\'')

def readRenameCall (table text : List Char) : Option TableChange := do
  let (column, rest) ← readLiteral text
  let (name, _) ← (column.dropPrefix? (table ++ ['.'])).bind (readName .sqlServer)
  let rest ← rest.dropPrefix? ", ".toList
  let (newName, _) ← readLiteral rest
  return .renameColumn name (String.ofList newName)

def readStatement (engine : Engine) (table text : List Char) : Option TableChange :=
  readForm [
    ("ALTER TABLE ", fun rest =>
      (rest.dropPrefix? (table ++ [' '])).bind (readForm (clauseForms engine))),
    ("EXEC sp_rename ", readRenameCall table)] text

/-! ## Words that announce a form -/

def Apart (left right : List Char) : Prop := ¬left <+: right ∧ ¬right <+: left

instance (left right : List Char) : Decidable (Apart left right) :=
  inferInstanceAs (Decidable (¬left <+: right ∧ ¬right <+: left))

theorem Apart.symm {left right : List Char} (apart : Apart left right) : Apart right left :=
  ⟨apart.2, apart.1⟩

theorem dropPrefix?_eq_none {lead words : List Char} (apart : Apart lead words)
    (rest : List Char) : (words ++ rest).dropPrefix? lead = none := by
  cases dropped : (words ++ rest).dropPrefix? lead with
  | none => rfl
  | some more =>
    have whole := eq_append_of_dropPrefix? dropped
    rcases List.prefix_or_prefix_of_prefix (List.prefix_append words rest)
      ⟨more, whole.symm⟩ with begins | begins
    · exact absurd begins apart.2
    · exact absurd begins apart.1

theorem readForm_eq_none {α : Type} {forms : List (String × (List Char → Option α))}
    {words : List Char} (apart : ∀ form ∈ forms, Apart form.1.toList words) (rest : List Char) :
    readForm forms (words ++ rest) = none := by
  rw [readForm, List.findSome?_eq_none_iff]
  intro form member
  rw [dropPrefix?_eq_none (apart form member)]
  rfl

theorem readForm_append {α : Type} {forms : List (String × (List Char → Option α))}
    {words : String} {read : List Char → Option α}
    (apart : (forms.map fun form => form.1.toList).Pairwise Apart)
    (member : (words, read) ∈ forms) (rest : List Char) :
    readForm forms (words.toList ++ rest) = read rest := by
  induction forms with
  | nil => cases member
  | cons first others induction =>
    rw [List.map_cons, List.pairwise_cons] at apart
    have each : ∀ form ∈ others, Apart first.1.toList form.1.toList :=
      fun form listed => apart.1 _ (List.mem_map_of_mem listed)
    -- A form of other words reads nothing, so it does not matter where the words are listed.
    rw [readForm, List.findSome?_cons]
    cases member with
    | head =>
      have unread : readForm others (words.toList ++ rest) = none :=
        readForm_eq_none (fun form listed => (each form listed).symm) rest
      simp only [dropPrefix?_append, Option.bind_some]
      cases read rest with
      | none => exact unread
      | some change => rfl
    | tail _ later =>
      rw [dropPrefix?_eq_none (each _ later)]
      exact induction apart.2 later

/-! ## Names, lists and actions -/

section Leaves

variable {engine : Engine} {rest : List Char}

theorem readName_append (name : String) (ends : rest.head? ≠ some (closeQuote engine)) :
    readName engine (quoteChars engine name ++ rest) = some (name, rest) := by
  rw [readName, unquote_quoteChars engine name rest ends, Option.map_some, String.ofList_toList]

theorem readNamed_append (change : String → TableChange) (name : String)
    (ends : rest.head? ≠ some (closeQuote engine)) :
    readNamed engine change (quoteChars engine name ++ rest) = some (change name) := by
  rw [readNamed, readName_append name ends, Option.map_some]

theorem readNamed_quoteChars (change : String → TableChange) (name : String) :
    readNamed engine change (quoteChars engine name) = some (change name) := by
  rw [← List.append_nil (quoteChars engine name), readNamed_append change name nil_ne_closeQuote]

theorem readNames_of_unread {text : List Char} (unread : readName engine text = none) :
    readNames engine text = ([], text) := by
  rw [readNames]
  split
  · rfl
  · next read => cases unread.symm.trans read

theorem readNames_of_last {text : List Char} {name : String}
    (read : readName engine text = some (name, rest))
    (last : rest.dropPrefix? ", ".toList = none) : readNames engine text = ([name], rest) := by
  rw [readNames]
  split
  · next unread => cases read.symm.trans unread
  · next again =>
    cases read.symm.trans again
    split
    · rfl
    · next dropped => cases last.symm.trans dropped

theorem readNames_of_comma {text more : List Char} {name : String}
    (read : readName engine text = some (name, ", ".toList ++ more)) :
    readNames engine text =
      (name :: (readNames engine more).1, (readNames engine more).2) := by
  rw [readNames]
  split
  · next unread => cases read.symm.trans unread
  · next again =>
    cases read.symm.trans again
    split
    · next missing => cases (dropPrefix?_append _ _).symm.trans missing
    · next dropped =>
      cases (dropPrefix?_append _ _).symm.trans dropped
      rfl

theorem readNames_append (names : List String) (rest : List Char) :
    readNames engine (quoteListChars engine names ++ ')' :: rest) = (names, ')' :: rest) := by
  have ends : (')' :: rest).head? ≠ some (closeQuote engine) :=
    cons_ne_closeQuote (by decide) rest
  induction names with
  | nil =>
    apply readNames_of_unread
    cases engine <;> rfl
  | cons name names induction =>
    rw [quoteListChars_cons, List.append_assoc]
    cases names with
    | nil =>
      have last : (')' :: rest).dropPrefix? ", ".toList = none :=
        dropPrefix?_eq_none (show Apart ", ".toList [')'] by decide) rest
      exact readNames_of_last (readName_append name ends) last
    | cons next more =>
      have text : listRest engine (next :: more) ++ ')' :: rest =
          ", ".toList ++ (quoteListChars engine (next :: more) ++ ')' :: rest) := rfl
      have apart : (", ".toList ++ (quoteListChars engine (next :: more) ++ ')' :: rest)).head? ≠
          some (closeQuote engine) := cons_ne_closeQuote (by decide) _
      rw [text, readNames_of_comma (readName_append name apart), induction]

def stated (engine : Engine) (action : ReferentialAction) : ReferentialAction :=
  match engine, action with
  | .sqlServer, .restrict => .noAction
  | _, action => action

def statedKey (engine : Engine) (key : ForeignKey) : ForeignKey :=
  { key with
    onDelete := key.onDelete.map (stated engine)
    onUpdate := key.onUpdate.map (stated engine) }

theorem actionSql_eq (action : ReferentialAction) :
    actionSql engine action = (stated engine action).sql := by
  cases engine <;> cases action <;> rfl

theorem readAction_append {event : String} (action : Option ReferentialAction)
    (foreign : rest.dropPrefix? event.toList = none) :
    readAction event (actionClause engine event action ++ rest) =
      (action.map (stated engine), rest) := by
  cases action with
  | none => simp [readAction, actionClause, foreign]
  | some action =>
    have listed : stated engine action ∈ ReferentialAction.all := by
      cases stated engine action <;> decide
    have form : ((stated engine action).sql, fun rest => some (stated engine action, rest)) ∈
        actionForms := List.mem_map.mpr ⟨stated engine action, listed, rfl⟩
    have read : readForm actionForms ((stated engine action).sql.toList ++ rest) =
        some (stated engine action, rest) := readForm_append (by decide) form rest
    simp only [readAction, actionClause, actionSql_eq, List.append_assoc, dropPrefix?_append,
      Option.bind_some, read, Option.map_some]

theorem readLiteral_append (text : List Char) (ends : rest.head? ≠ some '\'') :
    readLiteral (stringLiteral text ++ rest) = some (text, rest) := by
  have literal : stringLiteral text ++ rest =
      ['N', '\''] ++ (doubled '\'' text ++ '\'' :: rest) := by
    simp [stringLiteral]
  rw [readLiteral, literal, dropPrefix?_append, Option.bind_some,
    scanDoubled_doubled '\'' text rest ends]

end Leaves

/-! ## Clauses -/

section Clauses

variable {engine : Engine} {table : List Char}

theorem clauseForms_apart (engine : Engine) :
    ((clauseForms engine).map fun form => form.1.toList).Pairwise Apart := by
  cases engine <;> decide

theorem readStatement_clause {words : String} {read : List Char → Option TableChange}
    (listed : (words, read) ∈ clauseForms engine) (rest : List Char) :
    readStatement engine table (alterTable table (words.toList ++ rest)) = read rest := by
  have text : alterTable table (words.toList ++ rest) =
      "ALTER TABLE ".toList ++ ((table ++ [' ']) ++ (words.toList ++ rest)) := by
    unfold alterTable
    simp only [List.append_assoc, List.cons_append, List.nil_append]
  rw [text, readStatement, readForm_append (by simp only [List.map]; decide) (.head _),
    dropPrefix?_append, Option.bind_some, readForm_append (clauseForms_apart engine) listed]

theorem readStatement_named {words : String} {change : String → TableChange} {rest : List Char}
    (listed : (words, readNamed engine change) ∈ clauseForms engine) (name : String)
    (ends : rest.head? ≠ some (closeQuote engine)) :
    readStatement engine table (alterTable table (words.toList ++
      (quoteChars engine name ++ rest))) = some (change name) := by
  rw [readStatement_clause listed, readNamed_append change name ends]

theorem readStatement_named_last {words : String} {change : String → TableChange}
    (listed : (words, readNamed engine change) ∈ clauseForms engine) (name : String) :
    readStatement engine table (alterTable table (words.toList ++ quoteChars engine name)) =
      some (change name) := by
  rw [readStatement_clause listed, readNamed_quoteChars]

theorem readStatement_addColumn (name dataType : String) (nullable : Bool)
    (fallback : Option String) :
    readStatement engine table (alterTable table (addColumnClause engine name dataType nullable
      fallback)) = some (newColumn name) := by
  unfold addColumnClause
  simp only [List.append_assoc, List.cons_append]
  cases engine with
  | postgres =>
    have listed : ("ADD COLUMN ", readNamed .postgres newColumn) ∈ clauseForms .postgres := by
      simp [clauseForms]
    exact readStatement_named listed name (blank_ne_closeQuote _)
  | mySql =>
    have listed : ("ADD COLUMN ", readNamed .mySql newColumn) ∈ clauseForms .mySql := by
      simp [clauseForms]
    exact readStatement_named listed name (blank_ne_closeQuote _)
  | sqlServer =>
    have listed : ("ADD [", readBracketed) ∈ clauseForms .sqlServer := by simp [clauseForms]
    exact (readStatement_clause listed _).trans
      (readNamed_append newColumn name (blank_ne_closeQuote _))

theorem readStatement_dropColumn (name : String) :
    readStatement engine table (alterTable table ("DROP COLUMN ".toList ++
      quoteChars engine name)) = some (.dropColumn name) := by
  have listed : ("DROP COLUMN ", readNamed engine .dropColumn) ∈ clauseForms engine := by
    simp [clauseForms]
  exact readStatement_named_last listed name

theorem readStatement_alterType (name dataType : String) (nullable : Option Bool) :
    readStatement engine table (alterTable table (alterTypeClause engine name dataType nullable)) =
      some (retypedColumn name) := by
  unfold alterTypeClause
  simp only [List.append_assoc, List.cons_append]
  cases engine with
  | postgres =>
    have listed : ("ALTER COLUMN ", readNamed .postgres retypedColumn) ∈ clauseForms .postgres := by
      simp [clauseForms]
    exact readStatement_named listed name (blank_ne_closeQuote _)
  | mySql =>
    have listed : ("MODIFY COLUMN ", readNamed .mySql retypedColumn) ∈ clauseForms .mySql := by
      simp [clauseForms]
    exact readStatement_named listed name (blank_ne_closeQuote _)
  | sqlServer =>
    have listed : ("ALTER COLUMN ", readNamed .sqlServer retypedColumn) ∈
        clauseForms .sqlServer := by
      simp [clauseForms]
    exact readStatement_named listed name (blank_ne_closeQuote _)

theorem readRename_append (name newName : String) :
    readRename engine (quoteChars engine name ++ (" TO ".toList ++ quoteChars engine newName)) =
      some (.renameColumn name newName) := by
  refine Option.bind_eq_some_iff.mpr ⟨_, readName_append name (blank_ne_closeQuote _), ?_⟩
  exact Option.bind_eq_some_iff.mpr ⟨_, dropPrefix?_append _ _, readNamed_quoteChars _ newName⟩

theorem readStatement_addPrimaryKey (name : Option String) (columns : List String) :
    readStatement engine table (alterTable table (addPrimaryKeyClause engine name columns)) =
      some (.addPrimaryKey (if engine = .mySql then none else name) columns) := by
  have read (name : Option String) :
      readPrimaryKey engine name (quoteListChars engine columns ++ [')']) =
        some (.addPrimaryKey name columns) := by
    rw [readPrimaryKey, readNames_append]
  have unnamed : readStatement engine table (alterTable table ("ADD PRIMARY KEY (".toList ++
      (quoteListChars engine columns ++ [')']))) = some (.addPrimaryKey none columns) := by
    have listed : ("ADD PRIMARY KEY (", readPrimaryKey engine none) ∈ clauseForms engine := by
      simp [clauseForms]
    exact (readStatement_clause listed _).trans (read none)
  have named (name : String) :
      readStatement engine table (alterTable table ("ADD CONSTRAINT ".toList ++
        (quoteChars engine name ++ (" PRIMARY KEY (".toList ++
          (quoteListChars engine columns ++ [')']))))) =
        some (.addPrimaryKey (some name) columns) := by
    have listed : ("ADD CONSTRAINT ", readConstraint engine) ∈ clauseForms engine := by
      simp [clauseForms]
    refine (readStatement_clause listed _).trans (Option.bind_eq_some_iff.mpr
      ⟨_, readName_append name (blank_ne_closeQuote _), ?_⟩)
    exact (readForm_append (by simp only [List.map]; decide) (.head _) _).trans (read name)
  unfold addPrimaryKeyClause
  cases engine with
  | mySql => exact unnamed
  | postgres =>
    cases name with
    | none => exact unnamed
    | some name => exact named name
  | sqlServer =>
    cases name with
    | none => exact unnamed
    | some name => exact named name

theorem readForeignKey_append (key : ForeignKey) :
    readForeignKey engine key.name (quoteListChars engine key.columns ++
      (") REFERENCES ".toList ++ (quoteTableChars engine key.referencedSchema key.referencedTable ++
        (" (".toList ++ (quoteListChars engine key.referencedColumns ++ ([')'] ++
          (actionClause engine " ON DELETE " key.onDelete ++
            actionClause engine " ON UPDATE " key.onUpdate))))))) =
      some (.addForeignKey (statedKey engine key)) := by
  have columns (rest : List Char) :
      readNames engine (quoteListChars engine key.columns ++ (") REFERENCES ".toList ++ rest)) =
        (key.columns, ") REFERENCES ".toList ++ rest) := readNames_append _ _
  have referenced (rest : List Char) :
      readNames engine (quoteListChars engine key.referencedColumns ++ ([')'] ++ rest)) =
        (key.referencedColumns, [')'] ++ rest) := readNames_append _ _
  have noDelete : (actionClause engine " ON UPDATE " key.onUpdate).dropPrefix?
      " ON DELETE ".toList = none := by
    cases key.onUpdate with
    | none => rfl
    | some action => exact dropPrefix?_eq_none (by decide) _
  have update : readAction " ON UPDATE " (actionClause engine " ON UPDATE " key.onUpdate ++ []) =
      (key.onUpdate.map (stated engine), []) := readAction_append key.onUpdate rfl
  rw [List.append_nil] at update
  rw [readForeignKey, columns]
  refine Option.bind_eq_some_iff.mpr ⟨_, dropPrefix?_append _ _, ?_⟩
  refine Option.bind_eq_some_iff.mpr ⟨_, readTable_append rfl, ?_⟩
  refine Option.bind_eq_some_iff.mpr ⟨_, dropPrefix?_append _ _, ?_⟩
  rw [referenced]
  refine Option.bind_eq_some_iff.mpr ⟨_, dropPrefix?_append _ _, ?_⟩
  simp only [readAction_append key.onDelete noDelete, update]
  rfl

theorem readStatement_addForeignKey (key : ForeignKey) :
    readStatement engine table (alterTable table (addForeignKeyClause engine key)) =
      some (.addForeignKey (statedKey engine key)) := by
  have listed : ("ADD CONSTRAINT ", readConstraint engine) ∈ clauseForms engine := by
    simp [clauseForms]
  unfold addForeignKeyClause
  simp only [List.append_assoc, List.cons_append]
  refine (readStatement_clause listed _).trans (Option.bind_eq_some_iff.mpr
    ⟨_, readName_append key.name (blank_ne_closeQuote _), ?_⟩)
  exact (readForm_append (by simp only [List.map]; decide) (.tail _ (.head _)) _).trans
    (readForeignKey_append key)

theorem readStatement_dropConstraint (name : String) (engine : Engine) (named : engine ≠ .mySql) :
    readStatement engine table (alterTable table ("DROP CONSTRAINT ".toList ++
      quoteChars engine name)) = some (.dropPrimaryKey name) := by
  have listed : ("DROP CONSTRAINT ", readNamed engine .dropPrimaryKey) ∈ clauseForms engine := by
    cases engine with
    | mySql => exact absurd rfl named
    | postgres => simp [clauseForms]
    | sqlServer => simp [clauseForms]
  exact readStatement_named_last listed name

theorem readStatement_dropPrimaryKey (name : String) :
    readStatement engine table (alterTable table (dropPrimaryKeyClause engine name)) =
      some (.dropPrimaryKey (if engine = .mySql then "" else name)) := by
  cases engine with
  | mySql =>
    have listed : ("DROP PRIMARY KEY", fun _ => some (.dropPrimaryKey "")) ∈
        clauseForms .mySql := by
      simp [clauseForms]
    exact readStatement_clause listed []
  | postgres => exact readStatement_dropConstraint name .postgres (by decide)
  | sqlServer => exact readStatement_dropConstraint name .sqlServer (by decide)

theorem readStatement_dropForeignKey (name : String) :
    readStatement engine table (alterTable table (dropForeignKeyClause engine name)) =
      some (if engine = .mySql then .dropForeignKey name else .dropPrimaryKey name) := by
  cases engine with
  | mySql =>
    have listed : ("DROP FOREIGN KEY ", readNamed .mySql .dropForeignKey) ∈ clauseForms .mySql := by
      simp [clauseForms]
    exact readStatement_named_last listed name
  | postgres => exact readStatement_dropConstraint name .postgres (by decide)
  | sqlServer => exact readStatement_dropConstraint name .sqlServer (by decide)

theorem readStatement_renameCall (name newName : String) :
    readStatement .sqlServer table (renameCall table name newName) =
      some (.renameColumn name newName) := by
  have text : renameCall table name newName = "EXEC sp_rename ".toList ++
      (stringLiteral (table ++ ['.'] ++ quoteChars .sqlServer name) ++
        (", ".toList ++ (stringLiteral newName.toList ++ ", N'COLUMN'".toList))) := by
    unfold renameCall
    simp only [List.append_assoc, List.cons_append, List.nil_append]
  rw [text, readStatement, readForm_append (by simp only [List.map]; decide) (.tail _ (.head _)),
    readRenameCall]
  refine Option.bind_eq_some_iff.mpr ⟨_, readLiteral_append _ (by simp), ?_⟩
  refine Option.bind_eq_some_iff.mpr ⟨(name, []), ?name, ?_⟩
  case name =>
    rw [dropPrefix?_append, Option.bind_some, ← List.append_nil (quoteChars .sqlServer name),
      readName_append name nil_ne_closeQuote]
  refine Option.bind_eq_some_iff.mpr ⟨_, dropPrefix?_append _ _, ?_⟩
  refine Option.bind_eq_some_iff.mpr ⟨_, readLiteral_append _ (by decide), ?_⟩
  simp only [String.ofList_toList]
  rfl

theorem readStatement_rename (name newName : String) :
    readStatement engine table ((TableChange.renameColumn name newName).renderChars engine table) =
      some (.renameColumn name newName) := by
  have read (engine : Engine)
      (listed : ("RENAME COLUMN ", readRename engine) ∈ clauseForms engine) :
      readStatement engine table (alterTable table ("RENAME COLUMN ".toList ++
        quoteChars engine name ++ " TO ".toList ++ quoteChars engine newName)) =
          some (.renameColumn name newName) := by
    simp only [List.append_assoc]
    exact (readStatement_clause listed _).trans (readRename_append name newName)
  cases engine with
  | postgres => exact read .postgres (by simp [clauseForms])
  | mySql => exact read .mySql (by simp [clauseForms])
  | sqlServer => exact readStatement_renameCall name newName

/-! ## Statements -/

/-- What the statement of a change says of its kind and its names. MySQL has one unnamed primary
key, and the other engines drop every constraint in the same words. -/
def shown (engine : Engine) : TableChange → TableChange
  | .addColumn name _ _ _ => newColumn name
  | .dropColumn name => .dropColumn name
  | .alterColumnType name _ _ => retypedColumn name
  | .renameColumn name newName => .renameColumn name newName
  | .addPrimaryKey name columns => .addPrimaryKey (if engine = .mySql then none else name) columns
  | .dropPrimaryKey name => .dropPrimaryKey (if engine = .mySql then "" else name)
  | .addForeignKey key => .addForeignKey (statedKey engine key)
  | .dropForeignKey name => if engine = .mySql then .dropForeignKey name else .dropPrimaryKey name
  | .unknown => .unknown

/-- The statement of a change says what the change is and what it names, but for the words that its
engine has not. -/
theorem readStatement_renderChars {change : TableChange} (known : change ≠ .unknown) :
    readStatement engine table (change.renderChars engine table) = some (change.shown engine) := by
  cases change with
  | addColumn name dataType nullable fallback =>
    exact readStatement_addColumn name dataType nullable fallback
  | dropColumn name => exact readStatement_dropColumn name
  | alterColumnType name dataType nullable => exact readStatement_alterType name dataType nullable
  | renameColumn name newName => exact readStatement_rename name newName
  | addPrimaryKey name columns => exact readStatement_addPrimaryKey name columns
  | dropPrimaryKey name => exact readStatement_dropPrimaryKey name
  | addForeignKey key => exact readStatement_addForeignKey key
  | dropForeignKey name => exact readStatement_dropForeignKey name
  | unknown => exact absurd rfl known

end Clauses

end SqlGateway.TableChange
