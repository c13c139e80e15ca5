import SqlGateway.Failure.Driver
import SqlGateway.Server.Backend

/-!
# Batches and statements

A batch is plain text and may hold several statements; a statement is sent with its parameters.
Batches of a caller and updates are given up after a while; what the gateway asks on its own behalf
is not, so a server that stays silent there counts as a broken line.
-/

namespace SqlGateway.Gateway

variable {σ : Type} (backend : Backend σ)

def sendBatch (pool : Pool) (sql : String) : Gateway σ Reply := .ofSession fun session =>
  let (reply, servers) := backend.batch pool sql session.servers
  (.ok reply, { session with servers }.log (.batch pool sql))

def sendStatement (pool : Pool) (sql : String) (parameters : List Parameter) : Gateway σ Reply :=
  .ofSession fun session =>
    let (reply, servers) := backend.execute pool sql parameters session.servers
    (.ok reply, { session with servers }.log (.statement pool sql parameters))

def describe (pool : Pool) (sql : String) : Gateway σ (Option (List String)) :=
  .ofSession fun session =>
    let (columns, servers) := backend.describe pool sql session.servers
    (.ok columns, { session with servers })

/-- The items of a reply that ends well; `late` is the failure of one that does not end. -/
def complete (late : Failure) (reply : Reply) : Gateway σ (List BatchItem) :=
  match reply.ending with
  | .complete => .lift (.ok reply.items)
  | .failed failure => .lift (.error failure)
  | .silent => .lift (.error late)

/-- The failure that stands for a server that stays silent. -/
def brokenLine : Failure := .connection "I/O error: no answer" networkAdvice

def runBatch (pool : Pool) (sql : String) : Gateway σ QueryResult := do
  let late := Failure.timeout "query execution" backend.querySeconds
  let items ← complete late (← sendBatch backend pool sql)
  let described ←
    if Batch.needsDescription pool.engine items then describe backend pool sql
    else .lift (.ok none)
  return Batch.surface pool.engine items described

def command (pool : Pool) (sql : String) : Gateway σ Unit := do
  let _ ← complete brokenLine (← sendBatch backend pool sql)

def write (pool : Pool) (sql : String) (parameters : List Parameter) : Gateway σ UInt64 := do
  let late := Failure.timeout "write operation" backend.querySeconds
  let items ← complete late (← sendStatement backend pool sql parameters)
  return Batch.affectedRows items

def fetch (pool : Pool) (sql : String) (parameters : List Parameter) : Gateway σ (List Row) := do
  let items ← complete brokenLine (← sendStatement backend pool sql parameters)
  return Batch.answerRows pool.engine items

end SqlGateway.Gateway
