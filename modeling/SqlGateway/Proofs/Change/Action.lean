import SqlGateway.Proofs.Change.Statement
import SqlGateway.Proofs.Sql.Nesting

/-!
# How many actions a statement has

The words of a statement and its quoted names bring no comma that parts two actions. What comes into
a statement unquoted, which is a data type and a default expression, is checked for separators and
comment marks but not for commas. So the statement of a new column, or of a column with a new type,
has as many actions as these texts make it have: `render_commas`.
-/

namespace SqlGateway.TableChange

open Sql

def definition (engine : Engine) (dataType : String) (nullable : Bool) (fallback : Option String) :
    List Char :=
  dataType.toList ++
    (match engine with
    | .sqlServer => ' ' :: (nullability nullable).toList
    | .postgres | .mySql => if nullable then [] else " NOT NULL".toList) ++
    defaultClause fallback

def redefinition (engine : Engine) (dataType : String) (nullable : Option Bool) : List Char :=
  dataType.toList ++
    match engine, nullable with
    | .postgres, _ => ' ' :: dataType.toList
    | .mySql, some nullable | .sqlServer, some nullable => ' ' :: (nullability nullable).toList
    | .mySql, none | .sqlServer, none => []

/-- PostgreSQL restates whether a column may be null by an action of its own. -/
def nullabilityAction (engine : Engine) (name : String) (nullable : Option Bool) : List Char :=
  match engine, nullable with
  | .postgres, some true =>
    ", ALTER COLUMN ".toList ++ quoteChars engine name ++ " DROP NOT NULL".toList
  | .postgres, some false =>
    ", ALTER COLUMN ".toList ++ quoteChars engine name ++ " SET NOT NULL".toList
  | _, _ => []

section Statements

variable {engine : Engine} {schema : Option String} {table : String}

theorem neutral_blank : Neutral engine [' '] := by
  have plain : Avoids (signs engine) [' '] := by cases engine <;> decide
  exact plain.neutral

theorem neutral_alterTable (engine : Engine) (schema : Option String) (table : String) :
    Neutral engine ("ALTER TABLE ".toList ++ (quoteTableChars engine schema table ++ [' '])) := by
  have lead : Avoids (signs engine) "ALTER TABLE ".toList := by cases engine <;> decide
  have blank : Avoids (signs engine) [' '] := by cases engine <;> decide
  exact lead.neutral.append (neutral_table schema table blank nofun)

theorem commas_alterTable (clause : List Char) :
    commas engine (alterTable (quoteTableChars engine schema table) clause) =
      commas engine clause := by
  have same := (neutral_alterTable engine schema table).commas_append clause
  unfold alterTable
  simpa only [List.append_assoc, List.cons_append, List.nil_append] using same

theorem neutral_column {words : List Char} (plain : Avoids (signs engine) words) (name : String) :
    Neutral engine (words ++ (quoteChars engine name ++ [' '])) := by
  have blank : Avoids (signs engine) [' '] := by cases engine <;> decide
  exact plain.neutral.append (neutral_name name blank nofun)

theorem commas_addColumnClause (name dataType : String) (nullable : Bool)
    (fallback : Option String) :
    commas engine (addColumnClause engine name dataType nullable fallback) =
      commas engine (definition engine dataType nullable fallback) := by
  have plain : Avoids (signs engine) "ADD ".toList := by cases engine <;> decide
  have longer : Avoids (signs engine) "ADD COLUMN ".toList := by cases engine <;> decide
  have short := (neutral_column plain name).commas_append
    (definition engine dataType nullable fallback)
  have long := (neutral_column longer name).commas_append
    (definition engine dataType nullable fallback)
  unfold addColumnClause
  unfold definition at *
  cases engine with
  | sqlServer =>
    simpa only [List.append_assoc, List.cons_append, List.nil_append] using short
  | postgres | mySql =>
    simpa only [List.append_assoc, List.cons_append, List.nil_append] using long

/-- A data type without quotes leaves a scanner outside of them, so that PostgreSQL can quote the
column once more behind it. -/
theorem commas_retyping (name : String) {dataType : String} (typed : checkType dataType = .ok ()) :
    commas .postgres ("ALTER COLUMN ".toList ++ (quoteChars .postgres name ++ (" TYPE ".toList ++
      (dataType.toList ++ (" USING ".toList ++ (quoteChars .postgres name ++
        ("::".toList ++ dataType.toList))))))) =
      commas .postgres (dataType.toList ++ ' ' :: dataType.toList) := by
  have bracketless : Engine.postgres ≠ .sqlServer := nofun
  have unquoted : Avoids (openers .postgres) dataType.toList := by
    intro quote listed
    have among : quote ∈ marks ++ quotes .postgres := by
      simp only [openers, List.mem_cons, List.not_mem_nil, or_false] at listed
      rcases listed with rfl | rfl | rfl <;> decide
    exact avoids_quotes_of_checkType bracketless typed quote among
  have lead : Neutral .postgres ("ALTER COLUMN ".toList ++
      (quoteChars .postgres name ++ " TYPE ".toList)) :=
    (Avoids.neutral (by decide)).append (neutral_name name (by decide) (by decide))
  have again : Neutral .postgres (" USING ".toList ++ (quoteChars .postgres name ++ "::".toList)) :=
    (Avoids.neutral (by decide)).append (neutral_name name (by decide) (by decide))
  have behind := lead.commas_append (dataType.toList ++ ((" USING ".toList ++
    (quoteChars .postgres name ++ "::".toList)) ++ dataType.toList))
  have blank := neutral_blank.commas_between unquoted dataType.toList
  rw [again.commas_between unquoted, ← blank] at behind
  simpa only [List.append_assoc, List.cons_append, List.nil_append] using behind

theorem exists_alterTypeClause (engine : Engine) (name : String) {dataType : String}
    (typed : checkType dataType = .ok ()) (nullable : Option Bool) :
    ∃ front, alterTypeClause engine name dataType nullable =
        front ++ nullabilityAction engine name nullable ∧
      commas engine front = commas engine (redefinition engine dataType nullable) := by
  cases engine with
  | postgres =>
    refine ⟨_, ?_, commas_retyping name typed⟩
    unfold alterTypeClause nullabilityAction
    rcases nullable with _ | _ | _ <;> simp only [List.append_assoc, List.append_nil]
  | mySql =>
    have plain : Avoids (signs .mySql) "MODIFY COLUMN ".toList := by decide
    have behind := (neutral_column plain name).commas_append
      (redefinition .mySql dataType nullable)
    refine ⟨_, ?_, behind⟩
    unfold alterTypeClause nullabilityAction redefinition
    rcases nullable with _ | _ <;>
      simp only [List.append_assoc, List.cons_append, List.nil_append, List.append_nil]
  | sqlServer =>
    have plain : Avoids (signs .sqlServer) "ALTER COLUMN ".toList := by decide
    have behind := (neutral_column plain name).commas_append
      (redefinition .sqlServer dataType nullable)
    refine ⟨_, ?_, behind⟩
    unfold alterTypeClause nullabilityAction redefinition
    rcases nullable with _ | _ <;>
      simp only [List.append_assoc, List.cons_append, List.nil_append, List.append_nil]

end Statements

/-- Outside of quotes and parentheses, the statement of a new column holds the commas of its data
type and its default expression as they stand in it, and no others; and so does the statement of a
column with a new type, up to the action by which PostgreSQL restates whether the column may be
null. So each of them is a single action exactly if these texts part none. -/
theorem render_commas (engine : Engine) (schema : Option String) (table : String) :
    (∀ name dataType nullable fallback,
      commas engine (render engine (quoteTable engine schema table)
          (.addColumn name dataType nullable fallback)).toList =
        commas engine (definition engine dataType nullable fallback)) ∧
    ∀ name dataType nullable,
      (TableChange.alterColumnType name dataType nullable).check = .ok () →
      ∃ action, (render engine (quoteTable engine schema table)
          (.alterColumnType name dataType nullable)).toList =
            action ++ nullabilityAction engine name nullable ∧
        commas engine action = commas engine (redefinition engine dataType nullable) := by
  constructor
  · intro name dataType nullable fallback
    rw [render, quoteTable, String.toList_ofList, String.toList_ofList, renderChars,
      commas_alterTable, commas_addColumnClause]
  · intro name dataType nullable accepted
    rcases exists_alterTypeClause engine name (parts_of_check_alterType accepted).2 nullable with
      ⟨front, whole, same⟩
    refine ⟨alterTable (quoteTableChars engine schema table) front, ?_, ?_⟩
    · rw [render, quoteTable, String.toList_ofList, String.toList_ofList, renderChars, whole]
      unfold alterTable
      simp only [List.append_assoc, List.cons_append]
    · rw [commas_alterTable, same]

theorem render_commas_nested :
    let added := TableChange.addColumn "a" "varchar(9)" false (some "coalesce('x, (y', 'z')")
    let retyped := TableChange.alterColumnType "a b" "numeric(10, 2)" (some false)
    commas .mySql (render .mySql (quoteTable .mySql none "t, u") added).toList = 0 ∧
      retyped.check = .ok () ∧
      ∃ action, (render .postgres (quoteTable .postgres (some "s") "t, u") retyped).toList =
          action ++ ", ALTER COLUMN \"a b\" SET NOT NULL".toList ∧
        commas .postgres action = 0 := by
  intro added retyped
  have accepted : retyped.check = .ok () := by decide
  have whole := (render_commas .mySql none "t, u").1 "a" "varchar(9)" false
    (some "coalesce('x, (y', 'z')")
  rcases (render_commas .postgres (some "s") "t, u").2 _ _ _ accepted with ⟨action, split, same⟩
  exact ⟨whole.trans (by decide), accepted, action, split, same.trans (by decide)⟩

/-- A data type or a default expression that is accepted can bring a second action with it. -/
theorem not_single_action :
    let table := quoteTable .postgres (some "public") "t"
    let typed := TableChange.addColumn "a" "int, DROP COLUMN b" true none
    let defaulted := TableChange.addColumn "a" "int" true (some "0, DROP COLUMN b")
    (typed.check = .ok () ∧
      typed.render .postgres table =
        "ALTER TABLE \"public\".\"t\" ADD COLUMN \"a\" int, DROP COLUMN b" ∧
      commas .postgres (typed.render .postgres table).toList = 1) ∧
    defaulted.check = .ok () ∧ commas .postgres (defaulted.render .postgres table).toList = 1 := by
  decide

end SqlGateway.TableChange
