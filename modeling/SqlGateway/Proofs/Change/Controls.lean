import SqlGateway.Proofs.Change.Statement

/-!
# Control characters in statements

Accepted names and default expressions hold no control characters, and the words of a statement hold
none. A data type is looked at without the blanks at its ends but is put into the statement with
them, and six control characters are blanks. So a planned statement holds exactly the control
characters that stand at the ends of its data type: `make_controls`.
-/

namespace SqlGateway

namespace Sql

open Text (isBlank isControl trimChars)

def controls (text : List Char) : List Char := text.filter isControl

def blankControls : List Char := ['\t', '\n', '\x0b', '\x0c', '\r', '\u0085']

section Controls

variable {text : List Char}

theorem controls_append (text more : List Char) :
    controls (text ++ more) = controls text ++ controls more :=
  List.filter_append text more

theorem controls_behind {front : List Char} (plain : controls front = []) (text : List Char) :
    controls (front ++ text) = controls text := by
  rw [controls_append, plain, List.nil_append]

theorem controls_cons {first : Char} (plain : isControl first = false) (rest : List Char) :
    controls (first :: rest) = controls rest := by
  rw [controls, List.filter_cons, plain, if_neg Bool.false_ne_true, controls]

theorem controls_eq_nil (plain : ∀ character ∈ text, isControl character = false) :
    controls text = [] := by
  rw [controls, List.filter_eq_nil_iff]
  intro character member
  rw [plain character member]
  exact Bool.false_ne_true

theorem mem_blankControls_iff {character : Char} :
    character ∈ blankControls ↔ isControl character = true ∧ isBlank character = true := by
  constructor
  · intro member
    have each : blankControls.all (fun character => isControl character && isBlank character) =
        true := by decide
    exact Bool.and_eq_true_iff.mp (List.all_eq_true.mp each character member)
  · intro both
    have codes : character.toNat = 9 ∨ character.toNat = 10 ∨ character.toNat = 11 ∨
        character.toNat = 12 ∨ character.toNat = 13 ∨ character.toNat = 133 := by
      simp only [isControl, isBlank, Text.Ranges.contains, Text.Ranges.containsCode,
        Text.blankRanges, List.any_cons, List.any_nil, Bool.or_false, Bool.or_eq_true,
        Bool.and_eq_true, decide_eq_true_eq] at both
      omega
    rw [← Char.ofNat_toNat character]
    rcases codes with code | code | code | code | code | code <;> rw [code] <;> decide

/-! ## Names -/

theorem isControl_of_isNameChar {character : Char} (named : isNameChar character = true) :
    isControl character = false := by
  rw [isNameChar, Bool.or_eq_true] at named
  rcases named with known | sign
  · exact Text.isControl_of_isAlphanumeric known
  · simp only [List.contains_cons, List.contains_nil, Bool.or_false, Bool.or_eq_true,
      beq_iff_eq] at sign
    rcases sign with rfl | rfl | rfl | rfl | rfl | rfl <;> decide

theorem controls_name {name : String} (accepted : checkName name = .ok ()) :
    controls name.toList = [] :=
  controls_eq_nil fun _ member => isControl_of_isNameChar (isNameChar_of_checkName accepted member)

theorem controls_doubled (quote : Char) (plain : isControl quote = false) (text : List Char) :
    controls (doubled quote text) = controls text := by
  induction text with
  | nil => rfl
  | cons first rest induction =>
    by_cases same : first = quote
    · rw [same, doubled_cons_self, controls_cons plain, controls_cons plain, controls_cons plain,
        induction]
    · rw [doubled_cons_of_ne same]
      simp only [controls, List.filter_cons] at *
      rw [induction]

theorem controls_quoteChars {engine : Engine} {name : String}
    (accepted : checkName name = .ok ()) : controls (quoteChars engine name) = [] := by
  have opens : isControl (openQuote engine) = false := by cases engine <;> decide
  have closes : isControl (closeQuote engine) = false := by cases engine <;> decide
  rw [quoteChars, controls_append, controls_cons opens, controls_doubled _ closes,
    controls_name accepted, controls_cons closes]
  rfl

theorem controls_quoteTableChars {engine : Engine} {schema : Option String} {table : String}
    (named : ∀ name ∈ schema, checkName name = .ok ()) (tableNamed : checkName table = .ok ()) :
    controls (quoteTableChars engine schema table) = [] := by
  cases schema with
  | none => exact controls_quoteChars tableNamed
  | some schema =>
    rw [quoteTableChars, controls_append, controls_quoteChars (named schema rfl),
      controls_cons (by decide),
      controls_quoteChars tableNamed]
    rfl

theorem controls_quoteListChars {engine : Engine} {names : List String}
    (accepted : ∀ name ∈ names, checkName name = .ok ()) :
    controls (quoteListChars engine names) = [] := by
  induction names with
  | nil => rfl
  | cons name names induction =>
    have others : controls (listRest engine names) = [] := by
      cases names with
      | nil => rfl
      | cons next more =>
        rw [listRest, controls_cons (by decide), controls_cons (by decide)]
        exact induction fun given member => accepted given (List.mem_cons_of_mem name member)
    rw [quoteListChars_cons, controls_append, others,
      controls_quoteChars (accepted name List.mem_cons_self)]
    rfl

theorem controls_stringLiteral (text : List Char) :
    controls (stringLiteral text) = controls text := by
  rw [stringLiteral, List.cons_append, controls_cons (by decide), List.cons_append,
    controls_cons (by decide), controls_append, controls_doubled '\'' (by decide),
    controls_cons (by decide)]
  exact List.append_nil _

/-! ## Data types and default expressions -/

theorem checkType_eq_ok_iff (dataType : String) :
    checkType dataType = .ok () ↔
      trimChars dataType.toList ≠ [] ∧
        ∀ character ∈ trimChars dataType.toList, isTypeChar character = true := by
  rw [checkType]
  split
  · next empty => simp [empty]
  · next first rest trimmed =>
    rw [trimmed]
    split
    · next character found =>
      have refused := List.find?_some found
      have member := List.mem_of_find?_eq_some found
      simp only [reduceCtorEq, false_iff]
      intro accepted
      rw [accepted.2 character member] at refused
      cases refused
    · next none =>
      simp only [List.find?_eq_none, Bool.not_eq_true', Bool.not_eq_false] at none
      simp only [true_iff]
      exact ⟨List.cons_ne_nil first rest, none⟩

theorem isControl_of_isTypeChar {character : Char} (listed : isTypeChar character = true) :
    isControl character = false := by
  rw [isTypeChar, Bool.or_eq_true] at listed
  rcases listed with known | sign
  · have bounds := Text.bounds_of_isAlphanum known
    have ascii : character.toNat < 128 := by omega
    exact Text.isControl_of_isAlphanumeric (Text.isAlphanumeric_of_isAlphanum ascii known)
  · simp only [List.contains_cons, List.contains_nil, Bool.or_false, Bool.or_eq_true,
      beq_iff_eq] at sign
    rcases sign with rfl | rfl | rfl | rfl | rfl | rfl | rfl | rfl <;> decide

theorem exists_margins (text : List Char) :
    ∃ lead trail, text = lead ++ (trimChars text ++ trail) ∧
      ∀ character ∈ lead ++ trail, isBlank character = true := by
  have front := List.takeWhile_append_dropWhile (p := isBlank) (l := text)
  have back := List.takeWhile_append_dropWhile (p := isBlank)
    (l := (text.dropWhile isBlank).reverse)
  refine ⟨text.takeWhile isBlank, ((text.dropWhile isBlank).reverse.takeWhile isBlank).reverse,
    ?_, ?_⟩
  · rw [trimChars, ← List.reverse_append, back, List.reverse_reverse, front]
  · intro character member
    rcases List.mem_append.mp member with member | member
    · exact List.mem_takeWhile_imp member
    · exact List.mem_takeWhile_imp (List.mem_reverse.mp member)

theorem controls_of_checkDefault {expression : String}
    (accepted : checkDefault expression = .ok ()) : controls expression.toList = [] := by
  rw [checkDefault] at accepted
  split at accepted
  · cases accepted
  · split at accepted
    · cases accepted
    · split at accepted
      · cases accepted
      · next none =>
        apply controls_eq_nil
        intro character member
        rw [Bool.eq_false_iff]
        intro found
        exact none (List.any_eq_true.mpr ⟨character, member, found⟩)

end Controls

end Sql

namespace TableChange

open Sql
open Text (isControl)

/-- The data types that the statement of a change states, as often as it states them: PostgreSQL is
told the new type of a column once more, to convert what the column holds. -/
def statedTypes (engine : Engine) : TableChange → List String
  | .addColumn _ dataType _ _ => [dataType]
  | .alterColumnType _ dataType _ =>
    match engine with
    | .postgres => [dataType, dataType]
    | .mySql | .sqlServer => [dataType]
  | _ => []

section Clauses

variable {engine : Engine}

theorem controls_defaultClause {fallback : Option String}
    (accepted : checkDefault? fallback = .ok ()) : controls (defaultClause fallback) = [] := by
  cases fallback with
  | none => rfl
  | some expression =>
    have words : controls " DEFAULT ".toList = [] := by decide
    exact (controls_behind words expression.toList).trans (controls_of_checkDefault accepted)

theorem controls_nullability (nullable : Bool) : controls (nullability nullable).toList = [] := by
  cases nullable <;> decide

theorem controls_addColumnClause {name dataType : String} {nullable : Bool}
    {fallback : Option String} (named : checkName name = .ok ())
    (accepted : checkDefault? fallback = .ok ()) :
    controls (addColumnClause engine name dataType nullable fallback) =
      controls dataType.toList := by
  have add : controls "ADD ".toList = [] := by decide
  have addColumn : controls "ADD COLUMN ".toList = [] := by decide
  have required : controls (if nullable then [] else " NOT NULL".toList) = [] := by
    cases nullable <;> decide
  have blank : isControl ' ' = false := by decide
  unfold addColumnClause
  cases engine <;>
    simp only [controls_append, controls_cons blank, add, addColumn, required,
      controls_quoteChars named, controls_nullability, controls_defaultClause accepted,
      List.nil_append, List.append_nil]

theorem controls_alterTypeClause {name : String} (named : checkName name = .ok ())
    (dataType : String) (nullable : Option Bool) :
    controls (alterTypeClause engine name dataType nullable) =
      ((TableChange.alterColumnType name dataType nullable).statedTypes engine).flatMap
        fun stated => controls stated.toList := by
  have blank : isControl ' ' = false := by decide
  have column : controls (quoteChars engine name) = [] := controls_quoteChars named
  unfold alterTypeClause statedTypes
  cases engine with
  | postgres =>
    have lead : controls "ALTER COLUMN ".toList = [] := by decide
    have type : controls " TYPE ".toList = [] := by decide
    have conversion : controls " USING ".toList = [] := by decide
    have cast : controls "::".toList = [] := by decide
    have again : controls ", ALTER COLUMN ".toList = [] := by decide
    have drop : controls " DROP NOT NULL".toList = [] := by decide
    have set : controls " SET NOT NULL".toList = [] := by decide
    rcases nullable with _ | _ | _ <;>
      simp only [controls_append, lead, type, conversion, cast, again, drop, set, column,
        List.nil_append, List.append_nil, List.flatMap_cons, List.flatMap_nil]
  | mySql =>
    have modify : controls "MODIFY COLUMN ".toList = [] := by decide
    cases nullable <;>
      simp only [controls_append, controls_cons blank, modify, column, controls_nullability,
        List.nil_append, List.append_nil, List.flatMap_cons, List.flatMap_nil]
  | sqlServer =>
    have lead : controls "ALTER COLUMN ".toList = [] := by decide
    cases nullable <;>
      simp only [controls_append, controls_cons blank, lead, column, controls_nullability,
        List.nil_append, List.append_nil, List.flatMap_cons, List.flatMap_nil]

theorem controls_addPrimaryKeyClause {name : Option String} {columns : List String}
    (named : ∀ given ∈ name, checkName given = .ok ())
    (columnsNamed : ∀ column ∈ columns, checkName column = .ok ()) :
    controls (addPrimaryKeyClause engine name columns) = [] := by
  have add : controls "ADD ".toList = [] := by decide
  have constraint : controls "ADD CONSTRAINT ".toList = [] := by decide
  have key : controls "PRIMARY KEY (".toList = [] := by decide
  have closes : controls [')'] = [] := by decide
  have blank : isControl ' ' = false := by decide
  have list : controls (quoteListChars engine columns) = [] :=
    controls_quoteListChars columnsNamed
  unfold addPrimaryKeyClause
  cases name with
  | none =>
    cases engine <;> simp only [controls_append, add, key, closes, list, List.append_nil]
  | some name =>
    have own : controls (quoteChars engine name) = [] := controls_quoteChars (named name rfl)
    cases engine <;>
      simp only [controls_append, controls_cons blank, add, constraint, key, closes, list, own,
        List.append_nil]

theorem controls_actionClause {event : String} (plain : controls event.toList = [])
    (action : Option ReferentialAction) : controls (actionClause engine event action) = [] := by
  cases action with
  | none => rfl
  | some action =>
    have words : controls (actionSql engine action).toList = [] := by
      cases engine <;> cases action <;> decide
    rw [actionClause, controls_append, plain, words]
    rfl

theorem controls_addForeignKeyClause {key : ForeignKey}
    (named : ∀ name ∈ (TableChange.addForeignKey key).names, checkName name = .ok ()) :
    controls (addForeignKeyClause engine key) = [] := by
  have constraint : controls "ADD CONSTRAINT ".toList = [] := by decide
  have foreign : controls " FOREIGN KEY (".toList = [] := by decide
  have refers : controls ") REFERENCES ".toList = [] := by decide
  have opens : controls " (".toList = [] := by decide
  have closes : isControl ')' = false := by decide
  have deletes : controls (actionClause engine " ON DELETE " key.onDelete) = [] :=
    controls_actionClause (by decide) key.onDelete
  have updates : controls (actionClause engine " ON UPDATE " key.onUpdate) = [] :=
    controls_actionClause (by decide) key.onUpdate
  simp only [names, List.mem_cons, List.mem_append, Option.mem_toList] at named
  have own : controls (quoteChars engine key.name) = [] :=
    controls_quoteChars (named key.name (.inl rfl))
  have columns : controls (quoteListChars engine key.columns) = [] :=
    controls_quoteListChars fun name member => named name (.inr (.inr (.inr (.inl member))))
  have referenced : controls (quoteListChars engine key.referencedColumns) = [] :=
    controls_quoteListChars fun name member => named name (.inr (.inr (.inr (.inr member))))
  have table :
      controls (quoteTableChars engine key.referencedSchema key.referencedTable) = [] :=
    controls_quoteTableChars (fun name member => named name (.inr (.inr (.inl member))))
      (named key.referencedTable (.inr (.inl rfl)))
  unfold addForeignKeyClause
  simp only [controls_append, controls_cons closes, constraint, foreign, refers, opens, deletes,
    updates, own, columns, referenced, table, List.append_nil]

theorem controls_alterTable {schema table : String} (schemaNamed : checkName schema = .ok ())
    (tableNamed : checkName table = .ok ()) (clause : List Char) :
    controls (alterTable (quoteTableChars engine (some schema) table) clause) =
      controls clause := by
  have lead : controls "ALTER TABLE ".toList = [] := by decide
  have blank : isControl ' ' = false := by decide
  have schemaGiven : ∀ name ∈ some schema, checkName name = .ok () := by
    intro name given
    cases given
    exact schemaNamed
  have quoted : controls (quoteTableChars engine (some schema) table) = [] :=
    controls_quoteTableChars schemaGiven tableNamed
  unfold alterTable
  rw [controls_append, controls_cons blank, controls_append, lead, quoted]
  rfl

theorem controls_renameCall {table : List Char} {name newName : String}
    (plain : controls table = []) (named : checkName name = .ok ())
    (newNamed : checkName newName = .ok ()) : controls (renameCall table name newName) = [] := by
  have lead : controls "EXEC sp_rename ".toList = [] := by decide
  have comma : controls ", ".toList = [] := by decide
  have kind : controls ", N'COLUMN'".toList = [] := by decide
  have point : isControl '.' = false := by decide
  have column : controls (quoteChars .sqlServer name) = [] := controls_quoteChars named
  have target : controls (stringLiteral (table ++ '.' :: quoteChars .sqlServer name)) = [] := by
    rw [controls_stringLiteral, controls_append, controls_cons point, plain, column]
    rfl
  have goal : controls (stringLiteral newName.toList) = [] :=
    (controls_stringLiteral newName.toList).trans (controls_name newNamed)
  unfold renameCall
  simp only [controls_append, lead, comma, kind, target, goal, List.append_nil]

theorem controls_dropPrimaryKeyClause {name : String} (named : checkName name = .ok ()) :
    controls (dropPrimaryKeyClause engine name) = [] := by
  have key : controls "DROP PRIMARY KEY".toList = [] := by decide
  have constraint : controls "DROP CONSTRAINT ".toList = [] := by decide
  cases engine with
  | mySql => exact key
  | postgres | sqlServer =>
    exact (controls_behind constraint _).trans (controls_quoteChars named)

theorem controls_dropForeignKeyClause {name : String} (named : checkName name = .ok ()) :
    controls (dropForeignKeyClause engine name) = [] := by
  have key : controls "DROP FOREIGN KEY ".toList = [] := by decide
  have constraint : controls "DROP CONSTRAINT ".toList = [] := by decide
  cases engine with
  | mySql => exact (controls_behind key _).trans (controls_quoteChars named)
  | postgres | sqlServer =>
    exact (controls_behind constraint _).trans (controls_quoteChars named)

theorem controls_renderChars {change : TableChange} {schema table : String}
    (schemaNamed : checkName schema = .ok ()) (tableNamed : checkName table = .ok ())
    (accepted : change.check = .ok ()) :
    controls (change.renderChars engine (quoteTableChars engine (some schema) table)) =
      (change.statedTypes engine).flatMap fun stated => controls stated.toList := by
  have inTable (clause : List Char) :
      controls (alterTable (quoteTableChars engine (some schema) table) clause) =
        controls clause := controls_alterTable schemaNamed tableNamed clause
  have named := checkName_of_check accepted
  cases change with
  | addColumn name dataType nullable fallback =>
    have checked := parts_of_check_addColumn accepted
    rw [renderChars, inTable, controls_addColumnClause checked.1 checked.2.2]
    exact (List.append_nil _).symm
  | dropColumn name =>
    have words : controls "DROP COLUMN ".toList = [] := by decide
    rw [renderChars, inTable]
    exact (controls_behind words _).trans (controls_quoteChars (named name (.head _)))
  | alterColumnType name dataType nullable =>
    rw [renderChars, inTable, controls_alterTypeClause (parts_of_check_alterType accepted).1]
  | renameColumn name newName =>
    have own := named name (.head _)
    have other := named newName (.tail _ (.head _))
    have words : controls "RENAME COLUMN ".toList = [] := by decide
    have goal : controls " TO ".toList = [] := by decide
    have clause (engine : Engine) : controls ("RENAME COLUMN ".toList ++ quoteChars engine name ++
        " TO ".toList ++ quoteChars engine newName) = [] := by
      simp only [controls_append, words, goal, controls_quoteChars own, controls_quoteChars other,
        List.append_nil]
    cases engine with
    | sqlServer =>
      exact controls_renameCall (controls_quoteTableChars (fun name given => by
        cases given
        exact schemaNamed) tableNamed) own other
    | postgres => exact (inTable _).trans (clause .postgres)
    | mySql => exact (inTable _).trans (clause .mySql)
  | addPrimaryKey name columns =>
    rw [renderChars, inTable]
    apply controls_addPrimaryKeyClause
    · intro given member
      exact named given (List.mem_append_left _ (Option.mem_toList.mpr member))
    · intro column member
      exact named column (List.mem_append_right _ member)
  | dropPrimaryKey name =>
    rw [renderChars, inTable, controls_dropPrimaryKeyClause (named name (.head _))]
    rfl
  | addForeignKey key =>
    rw [renderChars, inTable, controls_addForeignKeyClause named]
    rfl
  | dropForeignKey name =>
    rw [renderChars, inTable, controls_dropForeignKeyClause (named name (.head _))]
    rfl
  | unknown => rfl

theorem checkType_of_statedTypes {change : TableChange} (accepted : change.check = .ok ()) :
    ∀ dataType ∈ change.statedTypes engine, checkType dataType = .ok () := by
  intro dataType stated
  cases change with
  | addColumn name given nullable fallback =>
    rw [List.mem_singleton.mp stated]
    exact (parts_of_check_addColumn accepted).2.1
  | alterColumnType name given nullable =>
    have same : dataType = given := by
      cases engine <;> simpa [statedTypes] using stated
    rw [same]
    exact (parts_of_check_alterType accepted).2
  | dropColumn | renameColumn | addPrimaryKey | dropPrimaryKey | addForeignKey | dropForeignKey
  | unknown => cases stated

end Clauses

end TableChange

/-! ## Plans -/

namespace StatementPlan

open Sql
open Text (isBlank isControl trimChars)

variable {engine : Engine} {schema table : String} {changes : List TableChange}

/-- A planned statement holds the control characters of the data types that its change states, in
their order, and no others. Each of these data types consists of listed characters between two
margins of blanks, which are put into the statement as they were given; so the control characters
are those tabulators and line breaks that stand at the ends of a data type. -/
theorem make_controls {plan : StatementPlan}
    (planned : make engine schema table changes = .ok plan) {statement : PlannedStatement}
    (member : statement ∈ plan.statements) :
    ∃ change, changes[statement.index]? = some change ∧
      controls statement.sql.toList =
        (change.statedTypes engine).flatMap (fun dataType => controls dataType.toList) ∧
      ∀ dataType ∈ change.statedTypes engine, ∃ lead core trail,
        dataType.toList = lead ++ (core ++ trail) ∧
        (∀ character ∈ core, isTypeChar character = true) ∧
        (∀ character ∈ lead ++ trail, isBlank character = true) ∧
        controls dataType.toList = controls (lead ++ trail) ∧
        ∀ character ∈ controls dataType.toList, character ∈ blankControls := by
  rcases checks_of_make planned with ⟨schemaNamed, tableNamed, accepted, statements⟩
  rw [statements] at member
  rcases exists_change_of_mem_statementsFrom member with ⟨offset, change, index, place, text⟩
  have checked := accepted change (List.mem_of_getElem? place)
  refine ⟨change, ?place, ?text, ?types⟩
  case place =>
    rw [index, Nat.zero_add]
    exact place
  case text =>
    rw [text, TableChange.render, quoteTable, String.toList_ofList, String.toList_ofList]
    exact TableChange.controls_renderChars schemaNamed tableNamed checked
  case types =>
    intro dataType stated
    have typed := (checkType_eq_ok_iff dataType).mp
      (TableChange.checkType_of_statedTypes checked dataType stated)
    rcases exists_margins dataType.toList with ⟨lead, trail, whole, blank⟩
    have core : controls (trimChars dataType.toList) = [] :=
      controls_eq_nil fun character inside => isControl_of_isTypeChar (typed.2 character inside)
    have same : controls dataType.toList = controls (lead ++ trail) := by
      rw [whole, controls_append, controls_behind core, ← controls_append]
    refine ⟨lead, _, trail, whole, typed.2, blank, same, ?_⟩
    intro character found
    rw [same, controls, List.mem_filter] at found
    exact mem_blankControls_iff.mpr ⟨found.2, blank character found.1⟩

/-- PostgreSQL states the data type twice, with the line breaks at both of its ends. -/
theorem make_controls_restated :
    let changes := [TableChange.alterColumnType "a" "\tbigint\n" none]
    let sql := "ALTER TABLE \"public\".\"t\" ALTER COLUMN \"a\" TYPE \tbigint\n USING " ++
      "\"a\"::\tbigint\n"
    let statement : PlannedStatement := ⟨0, "alter_column_type", sql⟩
    make .postgres "public" "t" changes = .ok ⟨[statement], 0⟩ ∧
      controls sql.toList = ['\t', '\n', '\t', '\n'] := by
  intro changes sql statement
  have planned : make .postgres "public" "t" changes = .ok ⟨[statement], 0⟩ := by decide
  rcases make_controls planned (List.mem_singleton_self statement) with ⟨change, place, text, -⟩
  cases place
  exact ⟨planned, text.trans (by decide)⟩

/-- A line break behind a data type is accepted and planned. -/
theorem not_make_controls_absent :
    let sql := "ALTER TABLE \"public\".\"t\" ADD COLUMN \"a\" int\n"
    make .postgres "public" "t" [.addColumn "a" "int\n" true none] =
        .ok ⟨[⟨0, "add_column", sql⟩], 0⟩ ∧
      '\n' ∈ sql.toList ∧ isControl '\n' = true ∧ isTypeChar '\n' = false := by
  decide

end StatementPlan

end SqlGateway
