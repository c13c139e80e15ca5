import SqlGateway.Server.Statements

/-!
# What is shown of a batch

A batch is a list of statements, each with the rows that it returned and the number of rows that it
affected. `Outcome.items` says how a server reports one of them. However many statements come before
it, and whatever they return, only the last one is shown: with its columns and rows if it returned
any, and otherwise with what the server tells of its columns, or with its count:
`runBatch_shows_last`.
-/

namespace SqlGateway

namespace Batch

/-- What one statement of a batch comes to. A statement without a set of rows has no columns. -/
structure Outcome where
  columns : Option (List String)
  rows : List Row
  affected : UInt64
  named : ∀ row ∈ rows, columns = some row.columnNames

namespace Outcome

def ofAffected (affected : UInt64) : Outcome := ⟨none, [], affected, nofun⟩

def ofCell (column : Column) (datum : Datum) : Outcome where
  columns := some [column.name]
  rows := [⟨[(column, datum)]⟩]
  affected := 1
  named row member := by rw [List.mem_singleton.mp member]; rfl

/-- How a server reports a statement: the completion stands behind the rows, and on SQL Server the
columns ahead of them. -/
def items (engine : Engine) (outcome : Outcome) : List BatchItem :=
  match engine with
  | .postgres | .mySql => outcome.rows.map .row ++ [.completed outcome.affected]
  | .sqlServer =>
    match outcome.columns with
    | some names => .columns names :: outcome.rows.map .row
    | none => []

theorem columns_of_cons {outcome : Outcome} {first : Row} {rest : List Row}
    (rows : outcome.rows = first :: rest) : outcome.columns = some first.columnNames :=
  outcome.named first (rows ▸ List.mem_cons_self)

end Outcome

def report (engine : Engine) (outcomes : List Outcome) : List BatchItem :=
  outcomes.flatMap (Outcome.items engine)

theorem report_concat (engine : Engine) (earlier : List Outcome) (last : Outcome) :
    report engine (earlier ++ [last]) = report engine earlier ++ last.items engine := by
  simp [report]

/-! ## Completions behind the rows -/

theorem collect_rows (rows : List Row) (collected : Collected) :
    (rows.map BatchItem.row).foldl Collected.add collected =
      { collected with current := collected.current ++ rows } := by
  induction rows generalizing collected with
  | nil => simp
  | cons row rows induction =>
    rw [List.map_cons, List.foldl_cons, induction]
    simp [Collected.add]

theorem collect_items {engine : Engine} (completes : engine ≠ .sqlServer) (outcome : Outcome)
    (last : Option (List Row × UInt64)) :
    (outcome.items engine).foldl Collected.add ⟨[], last⟩ =
      ⟨[], some (outcome.rows, outcome.affected)⟩ := by
  have items : outcome.items engine = outcome.rows.map .row ++ [.completed outcome.affected] := by
    cases engine with
    | postgres | mySql => rfl
    | sqlServer => exact absurd rfl completes
  rw [items, List.foldl_append, collect_rows]
  rfl

theorem collect_report {engine : Engine} (completes : engine ≠ .sqlServer)
    (outcomes : List Outcome) (last : Option (List Row × UInt64)) :
    ∃ later, (report engine outcomes).foldl Collected.add ⟨[], last⟩ = ⟨[], later⟩ := by
  induction outcomes generalizing last with
  | nil => exact ⟨last, rfl⟩
  | cons outcome outcomes induction =>
    rw [report, List.flatMap_cons, List.foldl_append, collect_items completes]
    exact induction _

theorem lastStatement_report {engine : Engine} (completes : engine ≠ .sqlServer)
    (earlier : List Outcome) (last : Outcome) :
    lastStatement (report engine (earlier ++ [last])) = (last.rows, last.affected) := by
  rcases collect_report completes earlier none with ⟨before, collected⟩
  rw [lastStatement, report_concat, List.foldl_append, collected, collect_items completes]

theorem needsDescription_report {engine : Engine} (completes : engine ≠ .sqlServer)
    (earlier : List Outcome) (last : Outcome) :
    needsDescription engine (report engine (earlier ++ [last])) = last.rows.isEmpty := by
  rw [needsDescription, lastStatement_report completes]
  simp [completes]

theorem surface_of_completes {engine : Engine} (completes : engine ≠ .sqlServer)
    (items : List BatchItem) (described : Option (List String)) :
    surface engine items described =
      resultOf engine (lastStatement items).1 (lastStatement items).2 described := by
  cases engine with
  | postgres | mySql => rfl
  | sqlServer => exact absurd rfl completes

/-! ## Columns ahead of the rows -/

theorem show_rows (rows : List Row) (shown : Shown) :
    (rows.map BatchItem.row).foldl Shown.add shown =
      { shown with rows := shown.rows ++ rows } := by
  induction rows generalizing shown with
  | nil => simp
  | cons row rows induction =>
    rw [List.map_cons, List.foldl_cons, induction]
    simp [Shown.add]

theorem lastSet_report (earlier : List Outcome) {last : Outcome} {names : List String}
    (columns : last.columns = some names) :
    lastSet (report .sqlServer (earlier ++ [last])) =
      .ofRows names (last.rows.map (Row.toEntries .sqlServer)) := by
  have items : last.items .sqlServer = .columns names :: last.rows.map .row := by
    simp [Outcome.items, columns]
  rw [lastSet, report_concat, List.foldl_append, items, List.foldl_cons, show_rows]
  rfl

/-! ## All engines -/

theorem surface_report (engine : Engine) (earlier : List Outcome) {last : Outcome}
    {names : List String} (columns : last.columns = some names) (some : last.rows ≠ [])
    (described : Option (List String)) :
    needsDescription engine (report engine (earlier ++ [last])) = false ∧
      surface engine (report engine (earlier ++ [last])) described =
        .ofRows names (last.rows.map (Row.toEntries engine)) := by
  by_cases completes : engine = .sqlServer
  · subst completes
    exact ⟨rfl, lastSet_report earlier columns⟩
  · rw [needsDescription_report completes, surface_of_completes completes,
      lastStatement_report completes]
    rcases split : last.rows with _ | ⟨first, rest⟩
    · exact absurd split some
    · rw [last.columns_of_cons split, Option.some.injEq] at columns
      subst columns
      exact ⟨rfl, rfl⟩

end Batch

namespace Gateway

open Batch (Outcome)

variable {σ : Type} {backend : Backend σ} {pool : Pool} {sql : String} {session : Session σ}
  {items : List BatchItem} {servers : σ}

section Complete

variable (answers : backend.batch pool sql session.servers = (⟨items, .complete⟩, servers))

include answers

theorem on_runBatch :
    (runBatch backend pool sql).on session =
      (do
        let described ←
          if Batch.needsDescription pool.engine items then describe backend pool sql
          else .lift (.ok none)
        return Batch.surface pool.engine items described).on
          ({ session with servers }.log (.batch pool sql)) := by
  have sent : (sendBatch backend pool sql).on session =
      (.ok ⟨items, .complete⟩, { session with servers }.log (.batch pool sql)) := by
    rw [sendBatch, on_ofSession, answers]
  rw [runBatch, on_bind_of_ok _ sent]
  exact on_bind_of_ok _ (on_lift _ _)

theorem on_runBatch_of_rows (rows : Batch.needsDescription pool.engine items = false) :
    (runBatch backend pool sql).on session =
      (.ok (Batch.surface pool.engine items none),
        { session with servers }.log (.batch pool sql)) := by
  rw [on_runBatch answers, rows]
  rfl

theorem on_runBatch_of_described (none : Batch.needsDescription pool.engine items = true)
    {described : Option (List String)} {after : σ}
    (describes : backend.describe pool sql servers = (described, after)) :
    (runBatch backend pool sql).on session =
      (.ok (Batch.surface pool.engine items described),
        { session with servers := after }.log (.batch pool sql)) := by
  have told : (describe backend pool sql).on ({ session with servers }.log (.batch pool sql)) =
      (.ok described, { session with servers := after }.log (.batch pool sql)) := by
    rw [describe, on_ofSession]
    simp only [Session.log, describes]
  rw [on_runBatch answers, none, if_pos rfl]
  exact on_bind_of_ok _ told

end Complete

/-- A batch is sent once, and what is shown of it is its last statement.

1. If the last statement returned rows, the result has exactly its columns and its rows in order.
2. If it returned none, PostgreSQL and MySQL are asked for its columns. The result has these columns
   and no rows; if there are none, or if they cannot be told, it has the count of the last statement
   and nothing else. -/
theorem runBatch_shows_last {σ : Type} (backend : Backend σ) (pool : Pool) (sql : String)
    (session : Session σ) (earlier : List Outcome) (last : Outcome) {servers : σ}
    (answers : backend.batch pool sql session.servers =
      (⟨Batch.report pool.engine (earlier ++ [last]), .complete⟩, servers)) :
    (last.rows ≠ [] → ∃ result,
      (runBatch backend pool sql).on session =
        (.ok result, { session with servers }.log (.batch pool sql)) ∧
      last.columns = some result.columns ∧
      result.rows = last.rows.map (Row.toEntries pool.engine) ∧
      (last.rows.length < UInt64.size → result.rowCount.toNat = last.rows.length)) ∧
    (last.rows = [] → pool.engine ≠ .sqlServer → ∀ described after,
      backend.describe pool sql servers = (described, after) → ∃ result,
        (runBatch backend pool sql).on session =
          (.ok result, { session with servers := after }.log (.batch pool sql)) ∧
        (∀ names, described = some names → names ≠ [] → result = ⟨[], names, 0⟩) ∧
        ((∀ names, described = some names → names = []) →
          result = ⟨[], [], last.affected⟩)) := by
  constructor
  · intro returned
    rcases split : last.rows with _ | ⟨first, rest⟩
    · exact absurd split returned
    · have columns := last.columns_of_cons split
      have shown := Batch.surface_report pool.engine earlier columns returned none
      rw [← split]
      refine ⟨_, on_runBatch_of_rows answers shown.1, ?_⟩
      rw [shown.2]
      refine ⟨columns, rfl, ?_⟩
      intro counted
      simp only [QueryResult.ofRows, List.length_map]
      exact Nat.mod_eq_of_lt counted
  · intro none completes described after describes
    have asked : Batch.needsDescription pool.engine
        (Batch.report pool.engine (earlier ++ [last])) = true := by
      rw [Batch.needsDescription_report completes, none]
      rfl
    refine ⟨_, on_runBatch_of_described answers asked describes, ?_⟩
    rw [Batch.surface_of_completes completes, Batch.lastStatement_report completes, none]
    rcases described with _ | _ | ⟨name, names⟩
    · exact ⟨nofun, fun _ => rfl⟩
    · refine ⟨?_, fun _ => rfl⟩
      rintro _ ⟨⟩ some
      exact absurd rfl some
    · refine ⟨?_, fun untold => nomatch untold _ rfl⟩
      rintro _ ⟨⟩ -
      rfl

def reporting (items : List BatchItem) : Backend Unit :=
  { Backend.offline fun _ => .connection "offline" "" with
    batch _ _ _ := (⟨items, .complete⟩, ())
    describe _ _ _ := (some ["b"], ()) }

/-- A row between two updates is not shown if a statement without rows comes last, and is shown if
it comes last itself. -/
theorem runBatch_shows_last_row :
    let pool : Pool := ⟨0, ⟨"c", .postgres, "h", none, none, none, none, false, false, false,
      .standard⟩, none⟩
    let row := Outcome.ofCell ⟨"a", "INT4"⟩ (.octets [55])
    let servers (last : Outcome) : Backend Unit :=
      reporting (Batch.report .postgres ([.ofAffected 3, row, .ofAffected 2] ++ [last]))
    (∃ result, (runBatch (servers row) pool "q").on (.start ()) =
        (.ok result, (Session.start ()).log (.batch pool "q")) ∧
      result.columns = ["a"] ∧ result.rowCount.toNat = 1) ∧
    (runBatch (servers (.ofAffected 0)) pool "q").on (.start ()) =
      (.ok ⟨[], ["b"], 0⟩, (Session.start ()).log (.batch pool "q")) := by
  intro pool row servers
  have shows (last : Outcome) :=
    runBatch_shows_last (servers last) pool "q" (.start ()) _ last rfl
  constructor
  · rcases (shows row).1 (List.cons_ne_nil _ _) with ⟨result, ran, columns, -, counted⟩
    exact ⟨result, ran, (Option.some.inj columns).symm, counted (by decide)⟩
  · rcases (shows (.ofAffected 0)).2 rfl nofun _ _ rfl with ⟨result, ran, told, -⟩
    rw [ran, told _ rfl nofun]

end Gateway

end SqlGateway
