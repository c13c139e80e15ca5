import SqlGateway.Datum.Decode
import SqlGateway.Query.Result

/-!
# The result of a batch

A server answers a batch item by item. PostgreSQL and MySQL send the rows of each statement and then
say that it is complete; SQL Server sends the columns of each set of rows ahead of the rows and
nothing for statements without rows. Only the last statement's result is shown: `Batch.surface`
gives it, and asks for the columns of the statement where no row tells them.
-/

namespace SqlGateway

inductive BatchItem where
  /-- The columns of the rows that follow. -/
  | columns (names : List String)
  | row (row : Row)
  /-- The end of a statement, with the number of rows that it affected. -/
  | completed (affected : UInt64)
deriving DecidableEq, Repr

namespace Batch

/-- The rows since the last completed statement, and that statement's rows and count. -/
structure Collected where
  current : List Row
  last : Option (List Row × UInt64)
deriving DecidableEq, Repr

def Collected.add (collected : Collected) : BatchItem → Collected
  | .row row => { collected with current := collected.current ++ [row] }
  | .completed affected => ⟨[], some (collected.current, affected)⟩
  | .columns _ => collected

/-- The rows of the last statement and the number of rows that it affected. Rows that no completion
follows are a result of their own. -/
def lastStatement (items : List BatchItem) : List Row × UInt64 :=
  match items.foldl Collected.add ⟨[], none⟩ with
  | ⟨[], some last⟩ => last
  | ⟨current, _⟩ => (current, 0)

/-- The result of rows, or of the statement that gave none: with the columns that were described for
it, or with its count. -/
def resultOf (engine : Engine) (rows : List Row) (affected : UInt64)
    (described : Option (List String)) : QueryResult :=
  match rows, described with
  | first :: _, _ => .ofRows first.columnNames (rows.map (Row.toEntries engine))
  | [], some (name :: names) => .ofRows (name :: names) []
  | [], some [] | [], none => .affected affected

structure Shown where
  columns : Option (List String)
  rows : List Row
deriving DecidableEq, Repr

def Shown.add (shown : Shown) : BatchItem → Shown
  | .columns names => ⟨some names, []⟩
  | .row row => { shown with rows := shown.rows ++ [row] }
  | .completed _ => shown

/-- The result of the last set of rows; a batch without any counts no rows. -/
def lastSet (items : List BatchItem) : QueryResult :=
  match items.foldl Shown.add ⟨none, []⟩ with
  | ⟨some columns, rows⟩ => .ofRows columns (rows.map (Row.toEntries .sqlServer))
  | ⟨none, _⟩ => .affected 0

/-- Whether the columns of the last statement have to be asked for. -/
def needsDescription (engine : Engine) (items : List BatchItem) : Bool :=
  engine ≠ .sqlServer && (lastStatement items).1.isEmpty

def surface (engine : Engine) (items : List BatchItem) (described : Option (List String)) :
    QueryResult :=
  match engine with
  | .sqlServer => lastSet items
  | .postgres | .mySql =>
    resultOf engine (lastStatement items).1 (lastStatement items).2 described

def allRows (items : List BatchItem) : List Row :=
  items.filterMap fun
    | .row row => some row
    | _ => none

def firstSet : List BatchItem → List Row
  | [] => []
  | .columns _ :: rest => allRows (rest.takeWhile fun
    | .columns _ => false
    | _ => true)
  | _ :: rest => firstSet rest

def affectedRows (items : List BatchItem) : UInt64 :=
  (items.filterMap fun
    | .completed affected => some affected
    | _ => none).foldl (· + ·) 0

def answerRows (engine : Engine) (items : List BatchItem) : List Row :=
  match engine with
  | .sqlServer => firstSet items
  | .postgres | .mySql => allRows items

end Batch

end SqlGateway
