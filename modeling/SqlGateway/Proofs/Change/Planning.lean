import Mathlib.Data.List.Forall2
import SqlGateway.Proofs.Change.Statement

/-!
# What a plan holds

Every known change renders to a text and the unknown change to none, so a plan holds one statement
for each known change and skips the others. The changes of a request are all checked before any of
them is rendered, in the order of the request: `make_accounts`.
-/

namespace SqlGateway

open Sql

namespace TableChange

/-- The known changes in order. Two lists of changes have the same known ones exactly when
inserting and deleting unknown changes makes the one of the other. -/
def known (changes : List TableChange) : List TableChange :=
  changes.filter fun change => change ≠ .unknown

theorem alterTable_ne_nil (table clause : List Char) : alterTable table clause ≠ [] :=
  List.append_ne_nil_of_right_ne_nil _ (List.cons_ne_nil ' ' clause)

theorem renameCall_ne_nil (table : List Char) (name newName : String) :
    renameCall table name newName ≠ [] :=
  List.append_ne_nil_of_right_ne_nil _ (by decide)

theorem renderChars_eq_nil_iff {engine : Engine} {table : List Char} {change : TableChange} :
    change.renderChars engine table = [] ↔ change = .unknown := by
  cases change with
  | renameColumn name newName =>
    cases engine <;> simp only [renderChars, alterTable_ne_nil, renameCall_ne_nil, reduceCtorEq]
  | unknown => simp only [renderChars]
  | addColumn | dropColumn | alterColumnType | addPrimaryKey | dropPrimaryKey | addForeignKey
  | dropForeignKey => simp only [renderChars, alterTable_ne_nil, reduceCtorEq]

theorem render_eq_empty_iff {engine : Engine} {quotedTable : String} {change : TableChange} :
    change.render engine quotedTable = "" ↔ change = .unknown := by
  rw [render, ← String.toList_eq_nil_iff, String.toList_ofList, renderChars_eq_nil_iff]

/-- An unknown change passes every check, so leaving it out changes no outcome. -/
theorem forM_check_known (changes : List TableChange) :
    (known changes).forM check = changes.forM check := by
  induction changes with
  | nil => rfl
  | cons first rest induction =>
    by_cases unknown : first = .unknown
    · subst unknown
      exact induction
    · have kept : known (first :: rest) = first :: known rest :=
        List.filter_cons_of_pos (decide_eq_true unknown)
      rw [kept, List.forM_eq_forM, List.forM_cons, ← List.forM_eq_forM, induction]
      rfl

end TableChange

namespace StatementPlan

open TableChange (known)

def verdicts (schema table : String) (changes : List TableChange) : List (Except Failure Unit) :=
  checkName schema :: checkName table :: changes.map TableChange.check

def texts (plan : StatementPlan) : List String := plan.statements.map PlannedStatement.sql

/-- A statement that a plan holds for one of the changes: it stands at the place of the change and
has its kind and its text. -/
structure Plans (engine : Engine) (quotedTable : String) (changes : List TableChange)
    (statement : PlannedStatement) (change : TableChange) : Prop where
  place : changes[statement.index]? = some change
  operation : statement.operation = change.kind
  sql : statement.sql = change.render engine quotedTable
  written : statement.sql ≠ ""

variable {engine : Engine} {schema table quotedTable : String} {changes : List TableChange}

/-! ## The statements of a list of changes -/

theorem statementsFrom_cons (start : Nat) (first : TableChange) (rest : List TableChange) :
    statementsFrom engine quotedTable start (first :: rest) =
      if first = .unknown then statementsFrom engine quotedTable (start + 1) rest
      else ⟨start, first.kind, first.render engine quotedTable⟩ ::
        statementsFrom engine quotedTable (start + 1) rest := by
  simp only [statementsFrom, TableChange.render_eq_empty_iff]

theorem forall₂_statementsFrom (start : Nat) (front : List TableChange)
    (counted : front.length = start) :
    List.Forall₂ (Plans engine quotedTable (front ++ changes))
      (statementsFrom engine quotedTable start changes) (known changes) := by
  induction changes generalizing start front with
  | nil => exact .nil
  | cons first rest induction =>
    have others : List.Forall₂ (Plans engine quotedTable (front ++ first :: rest))
        (statementsFrom engine quotedTable (start + 1) rest) (known rest) := by
      have later := induction (start + 1) (front ++ [first]) (by simp [counted])
      rwa [List.append_assoc, List.singleton_append] at later
    rw [statementsFrom_cons]
    split
    · next unknown =>
      subst unknown
      exact others
    · next isKnown =>
      have kept : known (first :: rest) = first :: known rest :=
        List.filter_cons_of_pos (decide_eq_true isKnown)
      have here : (front ++ first :: rest)[start]? = some first := by
        simp [← counted]
      rw [kept]
      refine .cons ⟨here, rfl, rfl, ?_⟩ others
      intro empty
      exact isKnown (TableChange.render_eq_empty_iff.mp empty)

theorem pairwise_statementsFrom (start : Nat) :
    (statementsFrom engine quotedTable start changes).Pairwise fun earlier later =>
      earlier.index < later.index := by
  induction changes generalizing start with
  | nil => exact .nil
  | cons first rest induction =>
    rw [statementsFrom_cons]
    split
    · exact induction (start + 1)
    · refine .cons ?_ (induction (start + 1))
      intro later member
      rcases exists_change_of_mem_statementsFrom member with ⟨offset, -, place, -⟩
      simp only [place]
      omega

theorem length_known_add_countSkipped :
    (known changes).length + countSkipped engine quotedTable changes = changes.length := by
  simp only [known, countSkipped, TableChange.render_eq_empty_iff, ← List.countP_eq_length_filter]
  have whole := List.length_eq_countP_add_countP (fun change : TableChange => change ≠ .unknown)
    (l := changes)
  simpa using whole.symm

theorem map_sql_of_forall₂ {statements : List PlannedStatement} {planned : List TableChange}
    (paired : List.Forall₂ (Plans engine quotedTable changes) statements planned) :
    statements.map PlannedStatement.sql = planned.map (TableChange.render engine quotedTable) := by
  induction paired with
  | nil => rfl
  | cons plans _ induction => rw [List.map_cons, List.map_cons, plans.sql, induction]

/-! ## Plans -/

section Plans

variable (engine schema table changes)

def ofChanges : StatementPlan :=
  let quotedTable := quoteTable engine (some schema) table
  ⟨statementsFrom engine quotedTable 0 changes, countSkipped engine quotedTable changes⟩

theorem make_eq :
    make engine schema table changes =
      ((verdicts schema table changes).forM id).map fun _ =>
        ofChanges engine schema table changes := by
  simp only [make, verdicts, List.forM_eq_forM, List.forM_cons, List.forM_map, id_eq]
  cases checkName schema with
  | error => rfl
  | ok =>
    cases checkName table with
    | error => rfl
    | ok =>
      rw [← List.forM_eq_forM]
      cases changes.forM TableChange.check with
      | error => rfl
      | ok => rfl

variable {engine schema table changes}

theorem exists_make_iff :
    (∃ plan, make engine schema table changes = .ok plan) ↔
      ∀ verdict ∈ verdicts schema table changes, verdict = .ok () := by
  have accepted : (verdicts schema table changes).forM id = .ok () ↔
      ∀ verdict ∈ verdicts schema table changes, verdict = .ok () := Failure.forM_eq_ok_iff
  rw [← accepted, make_eq]
  cases (verdicts schema table changes).forM id with
  | error failure => simp [Except.map]
  | ok => simp [Except.map]

theorem make_eq_error_iff {failure : Failure} :
    make engine schema table changes = .error failure ↔
      ∃ front rest, verdicts schema table changes = front ++ .error failure :: rest ∧
        ∀ verdict ∈ front, verdict = .ok () := by
  have refused : make engine schema table changes = .error failure ↔
      (verdicts schema table changes).forM id = .error failure := by
    rw [make_eq]
    cases (verdicts schema table changes).forM id with
    | error cause => simp [Except.map]
    | ok => simp [Except.map]
  rw [refused, Failure.forM_eq_error_iff]
  constructor
  · rintro ⟨front, _, rest, whole, accepted, rfl⟩
    exact ⟨front, rest, whole, accepted⟩
  · rintro ⟨front, rest, whole, accepted⟩
    exact ⟨front, _, rest, whole, accepted, rfl⟩

theorem forM_verdicts_known :
    (verdicts schema table (known changes)).forM id = (verdicts schema table changes).forM id := by
  have same := TableChange.forM_check_known changes
  simp only [List.forM_eq_forM] at same
  simp only [verdicts, List.forM_eq_forM, List.forM_cons, List.forM_map, id_eq, same]

theorem map_texts_make :
    (make engine schema table changes).map texts =
      ((verdicts schema table (known changes)).forM id).map fun _ =>
        (known changes).map
          (TableChange.render engine (quoteTable engine (some schema) table)) := by
  have written : (ofChanges engine schema table changes).texts =
      (known changes).map (TableChange.render engine (quoteTable engine (some schema) table)) :=
    map_sql_of_forall₂ (forall₂_statementsFrom 0 [] rfl)
  rw [make_eq, forM_verdicts_known, ← written]
  cases (verdicts schema table changes).forM id with
  | error => rfl
  | ok => rfl

end Plans

/-- A request has a plan exactly if the names of its schema and table and all its changes pass
their checks, and it fails by the first check that is not passed. The plan holds one statement for
each known change and no other, in the order of the changes and each with the place of its change,
and it counts the changes that it skips. Inserting or deleting unknown changes anywhere leaves the
texts of the plan, or the failure, as they are. -/
theorem make_accounts (engine : Engine) (schema table : String) (changes : List TableChange) :
    ((∃ plan, make engine schema table changes = .ok plan) ↔
      ∀ verdict ∈ verdicts schema table changes, verdict = .ok ()) ∧
    (∀ failure, make engine schema table changes = .error failure ↔
      ∃ front rest, verdicts schema table changes = front ++ .error failure :: rest ∧
        ∀ verdict ∈ front, verdict = .ok ()) ∧
    (∀ plan, make engine schema table changes = .ok plan →
      List.Forall₂ (Plans engine (quoteTable engine (some schema) table) changes)
        plan.statements (known changes) ∧
      (plan.statements.Pairwise fun earlier later => earlier.index < later.index) ∧
      plan.statements.length + plan.skipped = changes.length) ∧
    ∀ others, known others = known changes →
      (make engine schema table others).map texts =
        (make engine schema table changes).map texts := by
  refine ⟨exists_make_iff, fun failure => make_eq_error_iff, ?holds, ?skips⟩
  case holds =>
    intro plan planned
    rw [make_eq] at planned
    cases checked : (verdicts schema table changes).forM id with
    | error failure =>
      rw [checked] at planned
      cases planned
    | ok =>
      rw [checked] at planned
      cases planned
      have paired : List.Forall₂ (Plans engine (quoteTable engine (some schema) table) changes)
          (ofChanges engine schema table changes).statements (known changes) :=
        forall₂_statementsFrom 0 [] rfl
      refine ⟨paired, pairwise_statementsFrom 0, ?_⟩
      rw [paired.length_eq]
      exact length_known_add_countSkipped
  case skips =>
    intro others same
    rw [map_texts_make, map_texts_make, same]

theorem make_accounts_skipping :
    let changes : List TableChange := [.unknown, .dropColumn "a", .unknown, .renameColumn "b" "c"]
    let others : List TableChange := [.dropColumn "a", .renameColumn "b" "c", .unknown]
    let statements : List PlannedStatement :=
      [⟨1, "drop_column", "ALTER TABLE [dbo].[t] DROP COLUMN [a]"⟩,
        ⟨3, "rename_column", "EXEC sp_rename N'[dbo].[t].[b]', N'c', N'COLUMN'"⟩]
    make .sqlServer "dbo" "t" changes = .ok ⟨statements, 2⟩ ∧
      List.Forall₂ (Plans .sqlServer "[dbo].[t]" changes) statements (known changes) ∧
      statements.length + 2 = changes.length ∧ known others = known changes ∧
      (make .sqlServer "dbo" "t" others).map texts = .ok (statements.map PlannedStatement.sql) := by
  intro changes others statements
  have planned : make .sqlServer "dbo" "t" changes = .ok ⟨statements, 2⟩ := by decide
  have same : known others = known changes := by decide
  rcases make_accounts .sqlServer "dbo" "t" changes with ⟨-, -, holds, skips⟩
  rcases holds _ planned with ⟨paired, -, counted⟩
  have table : quoteTable .sqlServer (some "dbo") "t" = "[dbo].[t]" := by decide
  rw [table] at paired
  have texted := skips others same
  rw [planned] at texted
  exact ⟨planned, paired, counted, same, texted⟩

end StatementPlan

end SqlGateway
