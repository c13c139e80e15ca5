import SqlGateway.Json.Decode

/-!
# Limits of a connection pool

Every limit may be left open and then has a standard value. Limits are checked as they were given,
before the standard values are filled in.
-/

namespace SqlGateway

open Json (Value Decoder Fields)

structure PoolLimits where
  maxConnections? : Option UInt32
  minConnections? : Option UInt32
  idleSeconds? : Option UInt64
  acquireSeconds? : Option UInt64
  testBeforeUse? : Option Bool
deriving DecidableEq, Repr

inductive LimitProblem where
  | noConnections
  | noMinimum
  | minimumAboveMaximum (minimum maximum : UInt32)
deriving DecidableEq, Repr

def LimitProblem.message : LimitProblem → String
  | .noConnections => "max_connections must be greater than 0"
  | .noMinimum => "min_connections must be greater than 0"
  | .minimumAboveMaximum minimum maximum =>
    "min_connections (" ++ toString minimum.toNat ++ ") cannot exceed max_connections (" ++
      toString maximum.toNat ++ ")"

namespace PoolLimits

def standard : PoolLimits := ⟨none, none, none, none, none⟩

instance : Inhabited PoolLimits := ⟨standard⟩

def maxConnections (limits : PoolLimits) : UInt32 := limits.maxConnections?.getD 10

def minConnections (limits : PoolLimits) : UInt32 := limits.minConnections?.getD 1

def idleSeconds (limits : PoolLimits) : UInt64 := limits.idleSeconds?.getD 600

def acquireSeconds (limits : PoolLimits) : UInt64 := limits.acquireSeconds?.getD 30

def testBeforeUse (limits : PoolLimits) : Bool := limits.testBeforeUse?.getD true

def problem? (limits : PoolLimits) : Option LimitProblem :=
  if limits.maxConnections? = some 0 then some .noConnections
  else
    match limits.minConnections?, limits.maxConnections? with
    | some minimum, some maximum =>
      if minimum = 0 then some .noMinimum
      else if maximum < minimum then some (.minimumAboveMaximum minimum maximum)
      else none
    | some minimum, none => if minimum = 0 then some .noMinimum else none
    | none, _ => none

/-! ## JSON and text -/

def checks : List Json.FieldCheck := [
  Json.fieldCheck "max_connections" (Decoder.optional Decoder.uint32),
  Json.fieldCheck "min_connections" (Decoder.optional Decoder.uint32),
  Json.fieldCheck "idle_timeout_secs" (Decoder.optional Decoder.uint64),
  Json.fieldCheck "acquire_timeout_secs" (Decoder.optional Decoder.uint64),
  Json.fieldCheck "test_before_acquire" (Decoder.optional Decoder.bool)]

def ofFields (fields : Fields) : Except Json.DecodeError PoolLimits := do
  let maxConnections? ←
    fields.get 0 "max_connections" (Decoder.optional Decoder.uint32) (.member none)
  let minConnections? ←
    fields.get 1 "min_connections" (Decoder.optional Decoder.uint32) (.member none)
  let idleSeconds? ←
    fields.get 2 "idle_timeout_secs" (Decoder.optional Decoder.uint64) (.member none)
  let acquireSeconds? ←
    fields.get 3 "acquire_timeout_secs" (Decoder.optional Decoder.uint64) (.member none)
  let testBeforeUse? ←
    fields.get 4 "test_before_acquire" (Decoder.optional Decoder.bool) (.member none)
  return { maxConnections?, minConnections?, idleSeconds?, acquireSeconds?, testBeforeUse? }

def ofJson : Decoder PoolLimits := Json.record "PoolOptions" checks ofFields

def optionalCount (count : Option Nat) : Value :=
  match count with
  | some count => .ofNat count
  | none => .null

def toJson (limits : PoolLimits) : Value :=
  .object [("max_connections", optionalCount (limits.maxConnections?.map UInt32.toNat)),
    ("min_connections", optionalCount (limits.minConnections?.map UInt32.toNat)),
    ("idle_timeout_secs", optionalCount (limits.idleSeconds?.map UInt64.toNat)),
    ("acquire_timeout_secs", optionalCount (limits.acquireSeconds?.map UInt64.toNat)),
    ("test_before_acquire",
      match limits.testBeforeUse? with
      | some test => .bool test
      | none => .null)]

def shown {α : Type} (text : α → String) : Option α → String
  | some value => "Some(" ++ text value ++ ")"
  | none => "None"

def describe (limits : PoolLimits) : String :=
  "PoolOptions \x7b max_connections: " ++
    shown (fun count => toString count.toNat) limits.maxConnections? ++
    ", min_connections: " ++ shown (fun count => toString count.toNat) limits.minConnections? ++
    ", idle_timeout_secs: " ++ shown (fun count => toString count.toNat) limits.idleSeconds? ++
    ", acquire_timeout_secs: " ++
    shown (fun count => toString count.toNat) limits.acquireSeconds? ++
    ", test_before_acquire: " ++
    shown (fun test => String.ofList (Json.boolChars test)) limits.testBeforeUse? ++ " \x7d"

end PoolLimits

end SqlGateway
