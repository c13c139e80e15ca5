import SqlGateway.Change.Check
import SqlGateway.Change.Json
import SqlGateway.Change.Statement

/-!
# Plans of statements and what became of them

All changes are checked and rendered before the first statement is sent. The statements then run in
order, and the first one that fails stops the rest; what ran before it stays. `Report` says which
statements ran, how many changes were skipped as unknown, and which statement failed.
-/

namespace SqlGateway

structure PlannedStatement where
  index : Nat
  operation : String
  sql : String
deriving DecidableEq, Repr

/-- The statements of a request in order, and the number of changes that have none. -/
structure StatementPlan where
  statements : List PlannedStatement
  skipped : Nat
deriving DecidableEq, Repr

structure StatementFailure where
  statement : PlannedStatement
  message : String
deriving DecidableEq, Repr

structure ChangeReport where
  applied : List PlannedStatement
  skipped : Nat
  failure : Option StatementFailure
deriving DecidableEq, Repr

namespace StatementPlan

/-- The statements of the changes that have one, numbered from `index`. A change without a
statement renders to the empty text. -/
def statementsFrom (engine : Engine) (quotedTable : String) :
    Nat → List TableChange → List PlannedStatement
  | _, [] => []
  | index, change :: rest =>
    let others := statementsFrom engine quotedTable (index + 1) rest
    let sql := change.render engine quotedTable
    if sql = "" then others else ⟨index, change.kind, sql⟩ :: others

def countSkipped (engine : Engine) (quotedTable : String) (changes : List TableChange) : Nat :=
  changes.countP fun change => change.render engine quotedTable = ""

def make (engine : Engine) (schema table : String) (changes : List TableChange) :
    Except Failure StatementPlan := do
  Sql.checkName schema
  Sql.checkName table
  changes.forM TableChange.check
  let quotedTable := Sql.quoteTable engine (some schema) table
  return ⟨statementsFrom engine quotedTable 0 changes, countSkipped engine quotedTable changes⟩

/-- Runs statements in order up to the first that fails: those that succeeded, the one that
failed, and the state left behind. -/
def runStatements {σ : Type} (run : String → σ → Except Failure Unit × σ) :
    List PlannedStatement → σ → List PlannedStatement × Option StatementFailure × σ
  | [], state => ([], none, state)
  | statement :: rest, state =>
    match run statement.sql state with
    | (.ok (), state) =>
      let (applied, failure, state) := runStatements run rest state
      (statement :: applied, failure, state)
    | (.error failure, state) => ([], some ⟨statement, failure.message⟩, state)

def apply {σ : Type} (run : String → σ → Except Failure Unit × σ) (plan : StatementPlan)
    (state : σ) : ChangeReport × σ :=
  let (applied, failure, state) := runStatements run plan.statements state
  (⟨applied, plan.skipped, failure⟩, state)

end StatementPlan

namespace ChangeReport

def isComplete (report : ChangeReport) : Bool := report.failure.isNone

/-- The report of a plan that ran to its end, or the failure that says how far it came. -/
def toResult (report : ChangeReport) : Except Failure ChangeReport :=
  match report.failure with
  | none => .ok report
  | some failure =>
    .error (.partialChange (report.applied.map PlannedStatement.sql) failure.statement.sql
      failure.message)

end ChangeReport

open Json (Value)

def PlannedStatement.members (statement : PlannedStatement) : List (String × Value) :=
  [("index", .ofNat statement.index), ("operation", .string statement.operation),
    ("sql", .string statement.sql)]

def PlannedStatement.toJson (statement : PlannedStatement) : Value := .object statement.members

def StatementFailure.toJson (failure : StatementFailure) : Value :=
  .object (failure.statement.members ++ [("message", .string failure.message)])

def ChangeReport.toJson (report : ChangeReport) : Value :=
  .object ([("applied", .array (report.applied.map PlannedStatement.toJson)),
    ("skipped", .ofNat report.skipped)] ++
    match report.failure with
    | some failure => [("failure", failure.toJson)]
    | none => [])

end SqlGateway
