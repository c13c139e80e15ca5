import Mathlib.Data.List.Forall2
import Mathlib.Data.List.TakeWhile
import SqlGateway.Gateway.Browse

/-!
# Servers that answer for a catalog

The hierarchy puts four questions to the catalog of a database. A server shows a catalog when it
answers each of them with rows that name what the catalog holds, whatever its state. What comes
back from such a server through `fetch` are these rows, and one statement has been sent.
-/

namespace SqlGateway

open Node (Folder)

inductive Question where
  | databases
  | schemas
  | objects (schema : String) (folder : Folder)
  | columns (schema table : String)
deriving DecidableEq

namespace Question

/-- The statement that asks. Nothing can be asked about schemas where databases have none. -/
def statement (engine : Engine) : Question → Option String
  | .databases => some engine.queries.databases
  | .schemas => engine.queries.schemas
  | .objects _ folder => some (engine.queries.objects folder)
  | .columns .. => some engine.queries.columns

def parameters (engine : Engine) : Question → List Parameter
  | .databases | .schemas => []
  | .objects schema _ => [.string schema]
  | .columns schema table =>
    match engine with
    | .postgres => [.string table, .string schema]
    | .mySql | .sqlServer => [.string schema, .string table]

def kind (engine : Engine) : Question → ObjectKind
  | .databases => if engine.hasDatabaseLevel then .database else .schema
  | .schemas => .schema
  | .objects _ folder => folder.objectKind
  | .columns .. => .column

def Tells (engine : Engine) (question : Question) (row : Row) (name : String) : Prop :=
  match question, engine with
  | .databases, .mySql => ∃ cell, row.cells.head? = some cell ∧ cell.2.looseText? = some name
  | .columns .., _ => row.text? "column_name" = some name ∧ (row.text? "column_type").isSome
  | .databases, .postgres | .databases, .sqlServer | .schemas, _ | .objects .., _ =>
    row.text? "name" = some name

end Question

def Reply.ofRows (engine : Engine) (columns : List String) (count : UInt64) (rows : List Row) :
    Reply where
  items :=
    match engine with
    | .sqlServer => .columns columns :: rows.map .row
    | .postgres | .mySql => rows.map .row ++ [.completed count]
  ending := .complete

theorem Batch.answerRows_ofRows (engine : Engine) (columns : List String) (count : UInt64)
    (rows : List Row) :
    answerRows engine (Reply.ofRows engine columns count rows).items = rows := by
  have all : allRows (rows.map .row) = rows := by simp [allRows]
  cases engine with
  | sqlServer =>
    change firstSet (.columns columns :: rows.map .row) = rows
    rw [firstSet, List.takeWhile_eq_self_iff.mpr (by simp), all]
  | postgres | mySql => simp [answerRows, Reply.ofRows, allRows, List.filterMap_append]

/-- The names that a catalog holds: for each database, the answer to each question. -/
abbrev CatalogNames := Option String → Question → List String

/-- A server shows a catalog to the pools of a definition. -/
def Backend.Shows {σ : Type} (backend : Backend σ) (definition : Definition)
    (catalog : CatalogNames) : Prop :=
  ∀ (pool : Pool) (question : Question) (sql : String) (servers : σ),
    pool.definition = definition → question.statement pool.engine = some sql →
    ∃ columns count rows,
      (backend.execute pool sql (question.parameters pool.engine) servers).1 =
        .ofRows pool.engine columns count rows ∧
      List.Forall₂ (question.Tells pool.engine) rows (catalog pool.database question)

def Row.telling (name : String) : Row := ⟨[(⟨"name", "name"⟩, .text name),
  (⟨"column_name", "name"⟩, .text name), (⟨"column_type", "text"⟩, .text "text")]⟩

def Backend.ofNames (names : Option String → List String) : Backend Unit where
  connect _ _ _ := (.ok (), ())
  close _ _ := (true, ())
  batch _ _ _ := (⟨[], .complete⟩, ())
  execute pool _ _ _ := (.ofRows pool.engine [] 0 ((names pool.database).map .telling), ())
  describe _ _ _ := (none, ())
  querySeconds := 1

theorem Backend.shows_ofNames (names : Option String → List String) (definition : Definition) :
    (Backend.ofNames names).Shows definition fun database _ => names database := by
  intro pool question sql servers _ _
  refine ⟨[], 0, _, rfl, ?_⟩
  rw [List.forall₂_map_left_iff, List.forall₂_same]
  intro name _
  cases question with
  | databases => cases pool.engine <;> first | rfl | exact ⟨_, rfl, rfl⟩
  | schemas | objects => cases pool.engine <;> rfl
  | columns => exact ⟨rfl, rfl⟩

/-! ## Reading the rows -/

namespace CatalogRows

theorem mapM_eq_ok {α β : Type} {read : α → Except Failure β} {items : List α} {results : List β}
    (related : List.Forall₂ (fun item result => read item = .ok result) items results) :
    items.mapM read = .ok results := by
  induction related with
  | nil => rfl
  | cons first _ induction =>
    rw [List.mapM_cons, first, induction]
    rfl

theorem names_eq_ok {rows : List Row} {names : List String}
    (told : List.Forall₂ (fun row name => row.text? "name" = some name) rows names) :
    CatalogRows.names rows = .ok names := by
  apply mapM_eq_ok
  refine told.imp fun row name found => ?_
  rw [Row.text, found]

theorem firstNames_eq {rows : List Row} {names : List String}
    (told : List.Forall₂ (Question.databases.Tells .mySql) rows names) :
    firstNames rows = names := by
  induction told with
  | nil => rfl
  | cons first _ induction =>
    rcases first with ⟨cell, leads, text⟩
    rw [firstNames] at induction ⊢
    rw [List.filterMap_cons_some (by rw [leads]; exact text), induction]

theorem databaseNames_eq_ok {engine : Engine} {rows : List Row} {names : List String}
    (told : List.Forall₂ (Question.databases.Tells engine) rows names) :
    databaseNames engine rows = .ok names := by
  cases engine with
  | mySql => exact congrArg Except.ok (firstNames_eq told)
  | postgres => exact names_eq_ok told
  | sqlServer => exact names_eq_ok told

theorem exists_columns {engine : Engine} {schema table : String} {rows : List Row}
    {names : List String}
    (told : List.Forall₂ ((Question.columns schema table).Tells engine) rows names) :
    ∃ columns, rows.mapM (column engine) = .ok columns ∧
      columns.map CatalogColumn.name = names := by
  induction told with
  | nil => exact ⟨[], rfl, rfl⟩
  | @cons row name rows names first _ induction =>
    rcases induction with ⟨columns, read, named⟩
    rcases Option.isSome_iff_exists.mp first.2 with ⟨dataType, typed⟩
    refine ⟨⟨name, dataType, row.text? "is_nullable" = some "YES", row.text? "column_default",
      keyConstraint engine row⟩ :: columns, ?_, by rw [List.map_cons, named]⟩
    have head : column engine row = .ok ⟨name, dataType, row.text? "is_nullable" = some "YES",
        row.text? "column_default", keyConstraint engine row⟩ := by
      rw [column, Row.text, Row.text, first.1, typed]
      rfl
    rw [List.mapM_cons, head, read]
    rfl

end CatalogRows

/-! ## Sending a statement -/

section Fetch

variable {σ : Type} (backend : Backend σ)

def Session.sending (session : Session σ) (pool : Pool) (sql : String)
    (parameters : List Parameter) : Session σ :=
  { session with
    servers := (backend.execute pool sql parameters session.servers).2
    traffic := .statement pool sql parameters :: session.traffic }

theorem Gateway.on_fetch {pool : Pool} {sql : String} {parameters : List Parameter}
    {session : Session σ} {columns : List String} {count : UInt64} {rows : List Row}
    (replied : (backend.execute pool sql parameters session.servers).1 =
      .ofRows pool.engine columns count rows) :
    (fetch backend pool sql parameters).on session =
      (.ok rows, session.sending backend pool sql parameters) := by
  have sent : (sendStatement backend pool sql parameters).on session =
      (.ok (.ofRows pool.engine columns count rows),
        session.sending backend pool sql parameters) := by
    rw [sendStatement, on_ofSession]
    simp only [replied]
    rfl
  rw [fetch, on_bind_of_ok _ sent]
  exact congrArg (fun rows => (Except.ok rows, _)) (Batch.answerRows_ofRows ..)

end Fetch

end SqlGateway
