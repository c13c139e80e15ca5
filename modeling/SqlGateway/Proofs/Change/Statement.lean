import SqlGateway.Change.Plan
import SqlGateway.Proofs.Sql.Fragment

/-!
# Planned statements hold no separators

Every statement of a change is a sentence: plain words around the quoted names of the request, or
around the literals of a procedure call, and at its end at most a data type and a default
expression. Since the request has been checked, no planned statement holds a statement separator or
a comment mark, and two dashes stand in it only within a quoted part: `make_contained`.
-/

namespace SqlGateway.TableChange

open Sql

def names : TableChange → List String
  | .addColumn name _ _ _ | .dropColumn name | .alterColumnType name _ _ | .dropPrimaryKey name
  | .dropForeignKey name => [name]
  | .renameColumn name newName => [name, newName]
  | .addPrimaryKey name columns => name.toList ++ columns
  | .addForeignKey key =>
    key.name :: key.referencedTable :: (key.referencedSchema.toList ++
      (key.columns ++ key.referencedColumns))
  | .unknown => []

/-- The parts of a statement that stand in quotes. SQL Server renames a column by a call whose
arguments are string literals; all other statements quote names. -/
def quotedParts (engine : Engine) (schema table : String) (change : TableChange) :
    List (List Char) :=
  let quotedNames := (schema :: table :: change.names).map (quoteChars engine)
  match change with
  | .renameColumn name newName =>
    match engine with
    | .sqlServer =>
      [stringLiteral (quoteTableChars .sqlServer (some schema) table ++
          '.' :: quoteChars .sqlServer name),
        stringLiteral newName.toList, stringLiteral "COLUMN".toList]
    | .postgres | .mySql => quotedNames
  | _ => quotedNames

/-! ## What a check has seen -/

theorem checkName_of_checkName? {name : Option String} (accepted : checkName? name = .ok ()) :
    ∀ given ∈ name, checkName given = .ok () := by
  rintro given rfl
  exact accepted

theorem parts_of_check_addColumn {name dataType : String} {nullable : Bool}
    {fallback : Option String}
    (accepted : (TableChange.addColumn name dataType nullable fallback).check = .ok ()) :
    checkName name = .ok () ∧ checkType dataType = .ok () ∧ checkDefault? fallback = .ok () := by
  rcases Failure.bind_eq_ok_iff.mp accepted with ⟨⟨⟩, named, rest⟩
  rcases Failure.bind_eq_ok_iff.mp rest with ⟨⟨⟩, typed, defaulted⟩
  exact ⟨named, typed, defaulted⟩

theorem parts_of_check_alterType {name dataType : String} {nullable : Option Bool}
    (accepted : (TableChange.alterColumnType name dataType nullable).check = .ok ()) :
    checkName name = .ok () ∧ checkType dataType = .ok () := by
  rcases Failure.bind_eq_ok_iff.mp accepted with ⟨⟨⟩, named, typed⟩
  exact ⟨named, typed⟩

theorem checkName_of_check {change : TableChange} (accepted : change.check = .ok ()) :
    ∀ name ∈ change.names, checkName name = .ok () := by
  cases change with
  | dropColumn name | dropPrimaryKey name | dropForeignKey name =>
    simpa [names, check] using accepted
  | addColumn name dataType nullable fallback =>
    simpa [names] using (parts_of_check_addColumn accepted).1
  | alterColumnType name dataType nullable =>
    simpa [names] using (parts_of_check_alterType accepted).1
  | renameColumn name newName =>
    rcases Failure.bind_eq_ok_iff.mp accepted with ⟨⟨⟩, named, newNamed⟩
    simpa [names] using ⟨named, newNamed⟩
  | addPrimaryKey name columns =>
    rcases Failure.bind_eq_ok_iff.mp accepted with ⟨⟨⟩, named, rest⟩
    rcases Failure.bind_eq_ok_iff.mp rest with ⟨⟨⟩, -, columnsNamed⟩
    intro given member
    rcases List.mem_append.mp member with member | member
    · exact checkName_of_checkName? named given (Option.mem_toList.mp member)
    · exact Failure.forM_eq_ok_iff.mp columnsNamed given member
  | addForeignKey key =>
    rcases Failure.bind_eq_ok_iff.mp accepted with ⟨⟨⟩, named, rest⟩
    rcases Failure.bind_eq_ok_iff.mp rest with ⟨⟨⟩, tableNamed, rest⟩
    rcases Failure.bind_eq_ok_iff.mp rest with ⟨⟨⟩, schemaNamed, rest⟩
    rcases Failure.bind_eq_ok_iff.mp rest with ⟨⟨⟩, -, rest⟩
    split at rest
    · cases rest
    · intro given member
      simp only [names, List.mem_cons] at member
      rcases member with rfl | rfl | member
      · exact named
      · exact tableNamed
      · rcases List.mem_append.mp member with member | member
        · exact checkName_of_checkName? schemaNamed given (Option.mem_toList.mp member)
        · exact Failure.forM_eq_ok_iff.mp rest given member
  | unknown => exact nofun

/-! ## Clauses -/

section Clauses

variable {engine : Engine} {parts : List (List Char)}

theorem avoids_nullability (nullable : Bool) : Avoids marks (nullability nullable).toList := by
  cases nullable <;> decide

theorem inert_blank {text : List Char} (inert : Inert text) : Inert (' ' :: text) := by
  have safe : Avoids marks [' '] := by decide
  exact inert.prepend safe

theorem inert_defaultClause {fallback : Option String}
    (accepted : checkDefault? fallback = .ok ()) : Inert (defaultClause fallback) := by
  cases fallback with
  | none => exact inert_nil
  | some expression =>
    have safe : Avoids marks " DEFAULT ".toList := by decide
    exact (inert_of_checkDefault accepted).prepend safe

theorem sentence_addColumn {name dataType : String} {nullable : Bool} {fallback : Option String}
    (column : quoteChars engine name ∈ parts) (typed : checkType dataType = .ok ())
    (accepted : checkDefault? fallback = .ok ()) :
    Sentence engine parts (addColumnClause engine name dataType nullable fallback) := by
  have ends := inert_defaultClause accepted
  have typeSafe := avoids_marks_of_checkType typed
  cases engine with
  | sqlServer =>
    have behind := (inert_blank (ends.prepend (avoids_nullability nullable))).prepend typeSafe
    unfold addColumnClause
    simp only [List.append_assoc, List.cons_append]
    exact .quoted (by decide) (by simp) column (.last (inert_blank behind))
  | postgres | mySql =>
    have safe : Avoids marks (if nullable then [] else " NOT NULL".toList) := by
      cases nullable <;> decide
    have behind := (ends.prepend safe).prepend typeSafe
    unfold addColumnClause
    simp only [List.append_assoc, List.cons_append]
    exact .quoted (by decide) (by simp) column (.last (inert_blank behind))

theorem sentence_alterType {name dataType : String} {nullable : Option Bool}
    (column : quoteChars engine name ∈ parts) (typed : checkType dataType = .ok ()) :
    Sentence engine parts (alterTypeClause engine name dataType nullable) := by
  cases engine with
  | mySql | sqlServer =>
    have typeSafe := avoids_marks_of_checkType typed
    unfold alterTypeClause
    simp only [List.append_assoc, List.cons_append]
    refine .quoted (by decide) (by simp) column (.last (inert_blank (Inert.prepend ?_ typeSafe)))
    cases nullable with
    | none => exact inert_nil
    | some nullable => exact inert_blank (avoids_nullability nullable).inert
  | postgres =>
    have bracketless : Engine.postgres ≠ .sqlServer := nofun
    have plain := avoids_quotes_of_checkType bracketless typed
    have lead : Avoids (marks ++ quotes .postgres) " TYPE ".toList := by decide
    have trail : Avoids (marks ++ quotes .postgres) " USING ".toList := by decide
    have cast : Avoids (marks ++ quotes .postgres) "::".toList := by decide
    have again {tail : List Char} (restated : Sentence .postgres parts tail) :
        Sentence .postgres parts (" TYPE ".toList ++ (dataType.toList ++ (" USING ".toList ++
          (quoteChars .postgres name ++ ("::".toList ++ (dataType.toList ++ tail)))))) := by
      have whole := Sentence.quoted ((lead.append plain).append trail) (by simp) column
        ((restated.prepend plain).prepend cast)
      simp only [List.append_assoc] at whole
      exact whole
    unfold alterTypeClause
    simp only [List.append_assoc]
    refine .quoted (by decide) (by simp) column (again ?_)
    rcases nullable with _ | _ | _
    · exact .last inert_nil
    · have last : Avoids marks " SET NOT NULL".toList := by decide
      exact .quoted (by decide) (by simp) column (.last last.inert)
    · have last : Avoids marks " DROP NOT NULL".toList := by decide
      exact .quoted (by decide) (by simp) column (.last last.inert)

theorem sentence_addPrimaryKey {name : Option String} {columns : List String}
    (named : ∀ given ∈ name, quoteChars engine given ∈ parts)
    (members : ∀ column ∈ columns, quoteChars engine column ∈ parts) :
    Sentence engine parts (addPrimaryKeyClause engine name columns) := by
  have closes : Avoids marks [')'] := by decide
  have opens : Avoids (marks ++ quotes engine) "PRIMARY KEY (".toList := by
    cases engine <;> decide
  have key : Sentence engine parts
      ("PRIMARY KEY (".toList ++ (quoteListChars engine columns ++ [')'])) :=
    .list opens (by simp) members (.last closes.inert)
  have unnamed : Sentence engine parts
      ("ADD ".toList ++ ("PRIMARY KEY (".toList ++ (quoteListChars engine columns ++ [')']))) := by
    apply key.prepend
    cases engine <;> decide
  unfold addPrimaryKeyClause
  simp only [List.append_assoc]
  cases name with
  | none => cases engine <;> exact unnamed
  | some name =>
    have behind : Sentence engine parts
        ([' '] ++ ("PRIMARY KEY (".toList ++ (quoteListChars engine columns ++ [')']))) := by
      apply key.prepend
      cases engine <;> decide
    have member := named name rfl
    cases engine with
    | mySql => exact unnamed
    | postgres | sqlServer => exact .quoted (by decide) (by simp) member behind

theorem sentence_action {event : String} {action : Option ReferentialAction} {rest : List Char}
    (plain : Avoids (marks ++ quotes engine) event.toList)
    (follows : Sentence engine parts rest) :
    Sentence engine parts (actionClause engine event action ++ rest) := by
  cases action with
  | none => exact follows
  | some action =>
    have words : Avoids (marks ++ quotes engine) (actionSql engine action).toList := by
      cases engine <;> cases action <;> decide
    exact follows.prepend (plain.append words)

theorem sentence_addForeignKey {key : ForeignKey}
    (members : ∀ name ∈ (TableChange.addForeignKey key).names, quoteChars engine name ∈ parts) :
    Sentence engine parts (addForeignKeyClause engine key) := by
  have lead : Avoids (marks ++ quotes engine) "ADD CONSTRAINT ".toList := by
    cases engine <;> decide
  have columns : Avoids (marks ++ quotes engine) " FOREIGN KEY (".toList := by
    cases engine <;> decide
  have refers : Avoids (marks ++ quotes engine) ") REFERENCES ".toList := by
    cases engine <;> decide
  have opens : Avoids (marks ++ quotes engine) " (".toList := by cases engine <;> decide
  have closes : Avoids (marks ++ quotes engine) [')'] := by cases engine <;> decide
  have onDelete : Avoids (marks ++ quotes engine) " ON DELETE ".toList := by
    cases engine <;> decide
  have onUpdate : Avoids (marks ++ quotes engine) " ON UPDATE ".toList := by
    cases engine <;> decide
  simp only [names, List.mem_cons, List.mem_append, Option.mem_toList] at members
  have actions : Sentence engine parts
      ([')'] ++ (actionClause engine " ON DELETE " key.onDelete ++
        (actionClause engine " ON UPDATE " key.onUpdate ++ []))) :=
    (sentence_action onDelete (sentence_action onUpdate (.last inert_nil))).prepend closes
  have referenced := Sentence.list opens (by simp)
    (fun name member => members name (.inr (.inr (.inr (.inr member))))) actions
  have table := Sentence.table refers (by simp)
    (fun name member => members name (.inr (.inr (.inl member))))
    (members key.referencedTable (.inr (.inl rfl))) referenced
  have own := Sentence.list columns (by simp)
    (fun name member => members name (.inr (.inr (.inr (.inl member))))) table
  have whole := Sentence.quoted lead (by simp) (members key.name (.inl rfl)) own
  simp only [List.append_nil, List.singleton_append] at whole
  unfold addForeignKeyClause
  simp only [List.append_assoc, List.cons_append]
  exact whole

theorem sentence_wordsAndName {words name : String}
    (plain : Avoids (marks ++ quotes engine) words.toList) (some : words.toList ≠ [])
    (member : quoteChars engine name ∈ parts) :
    Sentence engine parts (words.toList ++ quoteChars engine name) := by
  rw [← List.append_nil (quoteChars engine name)]
  exact .quoted plain some member (.last inert_nil)

theorem sentence_dropPrimaryKey {name : String} (member : quoteChars engine name ∈ parts) :
    Sentence engine parts (dropPrimaryKeyClause engine name) := by
  unfold dropPrimaryKeyClause
  cases engine with
  | mySql =>
    have safe : Avoids marks "DROP PRIMARY KEY".toList := by decide
    exact .last safe.inert
  | postgres | sqlServer => exact sentence_wordsAndName (by decide) (by simp) member

theorem sentence_dropForeignKey {name : String} (member : quoteChars engine name ∈ parts) :
    Sentence engine parts (dropForeignKeyClause engine name) := by
  unfold dropForeignKeyClause
  cases engine <;> exact sentence_wordsAndName (by decide) (by simp) member

theorem sentence_rename {name newName : String} (column : quoteChars engine name ∈ parts)
    (target : quoteChars engine newName ∈ parts) :
    Sentence engine parts ("RENAME COLUMN ".toList ++ quoteChars engine name ++ " TO ".toList ++
      quoteChars engine newName) := by
  have lead : Avoids (marks ++ quotes engine) "RENAME COLUMN ".toList := by
    cases engine <;> decide
  have goal : Avoids (marks ++ quotes engine) " TO ".toList := by cases engine <;> decide
  have whole := Sentence.quoted lead (by simp) column
    (sentence_wordsAndName goal (by simp) target)
  simp only [List.append_assoc]
  exact whole

theorem sentence_renameCall {table : List Char} {name newName : String}
    (column : stringLiteral (table ++ '.' :: quoteChars .sqlServer name) ∈ parts)
    (target : stringLiteral newName.toList ∈ parts)
    (kind : stringLiteral "COLUMN".toList ∈ parts) :
    Sentence .sqlServer parts (renameCall table name newName) := by
  have comma : Avoids (marks ++ quotes .sqlServer) ", ".toList := by decide
  have ends : Sentence .sqlServer parts (", ".toList ++ (stringLiteral "COLUMN".toList ++ [])) :=
    .quoted comma (by simp) kind (.last inert_nil)
  have whole : Sentence .sqlServer parts ("EXEC sp_rename ".toList ++
      (stringLiteral (table ++ '.' :: quoteChars .sqlServer name) ++
        (", ".toList ++ (stringLiteral newName.toList ++
          (", ".toList ++ (stringLiteral "COLUMN".toList ++ [])))))) :=
    .quoted (by decide) (by simp) column (.quoted comma (by simp) target ends)
  have literal : ", N'COLUMN'".toList = ", ".toList ++ (stringLiteral "COLUMN".toList ++ []) := by
    decide
  unfold renameCall
  rw [literal]
  simp only [List.append_assoc]
  exact whole

end Clauses

/-! ## Statements -/

section Statements

variable {engine : Engine} {schema table : String} {change : TableChange}

theorem sentence_alterTable {parts : List (List Char)} {clause : List Char}
    (schemaMember : quoteChars engine schema ∈ parts)
    (tableMember : quoteChars engine table ∈ parts) (follows : Sentence engine parts clause) :
    Sentence engine parts (alterTable (quoteTableChars engine (some schema) table) clause) := by
  have lead : Avoids (marks ++ quotes engine) "ALTER TABLE ".toList := by
    cases engine <;> decide
  have blank : Avoids (marks ++ quotes engine) [' '] := by cases engine <;> decide
  have schemaMembers : ∀ name ∈ some schema, quoteChars engine name ∈ parts := by
    rintro name ⟨⟩
    exact schemaMember
  have whole := Sentence.table lead (by simp) schemaMembers tableMember (follows.prepend blank)
  simp only [List.singleton_append] at whole
  unfold alterTable
  simp only [List.append_assoc]
  exact whole

theorem sentence_renderChars (accepted : change.check = .ok ()) :
    Sentence engine (change.quotedParts engine schema table)
      (change.renderChars engine (quoteTableChars engine (some schema) table)) := by
  have quoted : ∀ name ∈ schema :: table :: change.names,
      quoteChars engine name ∈ (schema :: table :: change.names).map (quoteChars engine) :=
    fun name member => List.mem_map_of_mem member
  have owned : ∀ name ∈ change.names,
      quoteChars engine name ∈ (schema :: table :: change.names).map (quoteChars engine) :=
    fun name member => quoted name (.tail _ (.tail _ member))
  have inTable {clause : List Char} (follows : Sentence engine _ clause) :=
    sentence_alterTable (quoted schema (.head _)) (quoted table (.tail _ (.head _))) follows
  cases change with
  | addColumn name dataType nullable fallback =>
    have checked := parts_of_check_addColumn accepted
    exact inTable (sentence_addColumn (owned name (.head _)) checked.2.1 checked.2.2)
  | dropColumn name =>
    apply inTable (sentence_wordsAndName _ (by simp) (owned name (.head _)))
    cases engine <;> decide
  | alterColumnType name dataType nullable =>
    have checked := parts_of_check_alterType accepted
    exact inTable (sentence_alterType (owned name (.head _)) checked.2)
  | renameColumn name newName =>
    cases engine with
    | sqlServer =>
      exact sentence_renameCall (.head _) (.tail _ (.head _)) (.tail _ (.tail _ (.head _)))
    | postgres | mySql =>
      exact inTable (sentence_rename (owned name (.head _)) (owned newName (.tail _ (.head _))))
  | addPrimaryKey name columns =>
    apply inTable
    apply sentence_addPrimaryKey
    · intro given member
      exact owned given (List.mem_append_left _ (Option.mem_toList.mpr member))
    · intro column member
      exact owned column (List.mem_append_right _ member)
  | dropPrimaryKey name => exact inTable (sentence_dropPrimaryKey (owned name (.head _)))
  | addForeignKey key => exact inTable (sentence_addForeignKey owned)
  | dropForeignKey name => exact inTable (sentence_dropForeignKey (owned name (.head _)))
  | unknown => exact .last inert_nil

theorem enclosed_of_mem_quotedParts (schemaNamed : checkName schema = .ok ())
    (tableNamed : checkName table = .ok ()) (accepted : change.check = .ok ()) :
    ∀ part ∈ change.quotedParts engine schema table, Enclosed engine part := by
  have named : ∀ name ∈ schema :: table :: change.names, checkName name = .ok () := by
    intro name member
    simp only [List.mem_cons] at member
    rcases member with rfl | rfl | member
    · exact schemaNamed
    · exact tableNamed
    · exact checkName_of_check accepted name member
  have quoted : ∀ part ∈ (schema :: table :: change.names).map (quoteChars engine),
      Enclosed engine part := by
    intro part member
    rcases List.mem_map.mp member with ⟨name, isName, rfl⟩
    exact enclosed_quoteChars (named name isName)
  cases change with
  | renameColumn name newName =>
    cases engine with
    | postgres | mySql => exact quoted
    | sqlServer =>
      have dashed {name : String} (isName : checkName name = .ok ()) {mark : Char}
          (isMark : mark ∈ marks) (present : mark ∈ quoteChars .sqlServer name) : mark = '-' :=
        eq_dash_of_mem_quoteChars isName isMark present
      have columnNamed := named name (.tail _ (.tail _ (.head _)))
      have targetNamed := named newName (.tail _ (.tail _ (.tail _ (.head _))))
      intro part member
      simp only [quotedParts, List.mem_cons, List.not_mem_nil, or_false] at member
      rcases member with rfl | rfl | rfl
      · apply enclosed_stringLiteral
        intro mark isMark present
        simp only [quoteTableChars, List.mem_append, List.mem_cons] at present
        rcases present with (present | rfl | present) | rfl | present
        · exact dashed schemaNamed isMark present
        · exact absurd isMark (by decide)
        · exact dashed tableNamed isMark present
        · exact absurd isMark (by decide)
        · exact dashed columnNamed isMark present
      · apply enclosed_stringLiteral
        intro mark isMark present
        exact eq_dash_of_isNameChar isMark (isNameChar_of_checkName targetNamed present)
      · apply enclosed_stringLiteral
        intro mark isMark present
        have safe : Avoids marks "COLUMN".toList := by decide
        exact absurd present (safe mark isMark)
  | addColumn | dropColumn | alterColumnType | addPrimaryKey | dropPrimaryKey | addForeignKey
  | dropForeignKey | unknown => exact quoted

end Statements

end SqlGateway.TableChange

/-! ## Plans -/

namespace SqlGateway.StatementPlan

open Sql

variable {engine : Engine} {schema table : String} {changes : List TableChange}

theorem checks_of_make {plan : StatementPlan}
    (planned : make engine schema table changes = .ok plan) :
    checkName schema = .ok () ∧ checkName table = .ok () ∧
      (∀ change ∈ changes, change.check = .ok ()) ∧
      plan.statements =
        statementsFrom engine (quoteTable engine (some schema) table) 0 changes := by
  rcases Failure.bind_eq_ok_iff.mp planned with ⟨⟨⟩, schemaNamed, rest⟩
  rcases Failure.bind_eq_ok_iff.mp rest with ⟨⟨⟩, tableNamed, rest⟩
  rcases Failure.bind_eq_ok_iff.mp rest with ⟨⟨⟩, accepted, rest⟩
  cases rest
  exact ⟨schemaNamed, tableNamed, Failure.forM_eq_ok_iff.mp accepted, rfl⟩

theorem exists_change_of_mem_statementsFrom {quotedTable : String} {start : Nat}
    {statement : PlannedStatement}
    (member : statement ∈ statementsFrom engine quotedTable start changes) :
    ∃ offset change, statement.index = start + offset ∧ changes[offset]? = some change ∧
      statement.sql = change.render engine quotedTable := by
  induction changes generalizing start with
  | nil => cases member
  | cons first rest induction =>
    have later (found : statement ∈ statementsFrom engine quotedTable (start + 1) rest) :
        ∃ offset change, statement.index = start + offset ∧
          (first :: rest)[offset]? = some change ∧
          statement.sql = change.render engine quotedTable := by
      rcases induction found with ⟨offset, change, index, place, text⟩
      exact ⟨offset + 1, change, by omega, place, text⟩
    rw [statementsFrom] at member
    split at member
    · exact later member
    · rcases List.mem_cons.mp member with rfl | found
      · exact ⟨0, first, rfl, rfl, rfl⟩
      · exact later found

/-- No planned statement holds a statement separator or a mark of a block comment. Two dashes stand
in it only within one of the quoted parts of its change, which a scanner comes to outside of all
quotes. -/
theorem make_contained {plan : StatementPlan}
    (planned : make engine schema table changes = .ok plan) {statement : PlannedStatement}
    (member : statement ∈ plan.statements) :
    (∀ sequence ∈ [";", "/*", "*/"], ¬sequence.toList <:+: statement.sql.toList) ∧
    ∃ change, changes[statement.index]? = some change ∧
      ∀ before behind, statement.sql.toList = before ++ '-' :: '-' :: behind →
        DashesWithin engine .bare (change.quotedParts engine schema table) before behind := by
  rcases checks_of_make planned with ⟨schemaNamed, tableNamed, accepted, statements⟩
  rw [statements] at member
  rcases exists_change_of_mem_statementsFrom member with ⟨offset, change, index, place, text⟩
  have checked := accepted change (List.mem_of_getElem? place)
  have enclosed : ∀ part ∈ change.quotedParts engine schema table, Enclosed engine part :=
    TableChange.enclosed_of_mem_quotedParts schemaNamed tableNamed checked
  have sentence : Sentence engine (change.quotedParts engine schema table)
      (change.renderChars engine (quoteTableChars engine (some schema) table)) :=
    TableChange.sentence_renderChars checked
  have chars : statement.sql.toList =
      change.renderChars engine (quoteTableChars engine (some schema) table) := by
    rw [text, TableChange.render, quoteTable, String.toList_ofList, String.toList_ofList]
  rw [← chars] at sentence
  refine ⟨?separators, change, ?place, ?dashes⟩
  case separators =>
    intro sequence listed
    have among : sequence ∈ defaultSequences ∧ sequence ≠ "--" := by
      revert sequence
      decide
    exact sentence.separators_absent enclosed among.1 among.2
  case place =>
    rw [index, Nat.zero_add]
    exact place
  case dashes =>
    intro before behind found
    exact sentence.dashesWithin enclosed rfl found

theorem make_contained_dashed :
    let changes := [TableChange.renameColumn "a--b" "c--d"]
    let sql := "EXEC sp_rename N'[dbo].[t].[a--b]', N'c--d', N'COLUMN'"
    let statement : PlannedStatement := ⟨0, "rename_column", sql⟩
    make .sqlServer "dbo" "t" changes = .ok ⟨[statement], 0⟩ ∧ ¬";".toList <:+: sql.toList ∧
      DashesWithin .sqlServer .bare
        [stringLiteral "[dbo].[t].[a--b]".toList, stringLiteral "c--d".toList,
          stringLiteral "COLUMN".toList]
        "EXEC sp_rename N'[dbo].[t].[a".toList "b]', N'c--d', N'COLUMN'".toList := by
  intro changes sql statement
  have planned : make .sqlServer "dbo" "t" changes = .ok ⟨[statement], 0⟩ := by decide
  have contained := make_contained planned (List.mem_singleton_self statement)
  rcases contained with ⟨separators, change, place, dashes⟩
  cases place
  exact ⟨planned, separators ";" (by decide), dashes _ _ (by decide)⟩

end SqlGateway.StatementPlan
