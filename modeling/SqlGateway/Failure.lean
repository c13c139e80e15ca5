import SqlGateway.Text.Quoted

/-!
# Failures

Every operation that can fail gives a `Failure`. Input is refused for a stated cause
(`InputProblem`, `NodeProblem`); the other failures name what was missing, which server or
statement failed, or how long was waited. `Failure.kind` groups them for callers.
-/

namespace SqlGateway

inductive InputProblem where
  | emptyIdentifier
  | longIdentifier (name : String) (limit : Nat)
  | identifierCharacter (name : String) (character : Char)
  | emptyType
  | typeCharacter (dataType : String) (character : Char)
  | emptyDefault
  | defaultSequence (found : String)
  | defaultControl
  | noColumns (operation : String)
  | columnCounts (constraint : String) (columns referenced : Nat)
  | emptyDatabase
  | connectionExists (id : String)
  | payload (what problem : String)
  | other (message : String)
deriving DecidableEq, Repr

def InputProblem.message : InputProblem → String
  | .emptyIdentifier => "Identifier cannot be empty"
  | .longIdentifier name limit =>
    "Identifier exceeds " ++ toString limit ++ " characters: " ++ Text.quoted name
  | .identifierCharacter name character =>
    "Identifier " ++ Text.quoted name ++ " contains unsupported character " ++
      Text.quotedCharacter character
  | .emptyType => "Data type cannot be empty"
  | .typeCharacter dataType character =>
    "Data type " ++ Text.quoted dataType ++ " contains unsupported character " ++
      Text.quotedCharacter character
  | .emptyDefault => "Default expression cannot be empty"
  | .defaultSequence found => "Default expression may not contain " ++ Text.quoted found
  | .defaultControl => "Default expression contains control characters"
  | .noColumns operation => operation ++ " requires at least one entry in columns"
  | .columnCounts constraint columns referenced =>
    "add_fk '" ++ constraint ++ "' has " ++ toString columns ++ " columns but " ++
      toString referenced ++ " referenced columns"
  | .emptyDatabase =>
    "Database name cannot be empty. Omit it to use the connection default."
  | .connectionExists id => "Connection '" ++ id ++ "' already exists"
  | .payload what problem => "Invalid " ++ what ++ ": " ++ problem
  | .other message => message

inductive NodeProblem where
  | emptyId
  | rootId
  | noSegments
  | emptyValue
  | separatorInValue
  | notATable
  | noFolder
  | other (reason : String)
deriving DecidableEq, Repr

def NodeProblem.message : NodeProblem → String
  | .emptyId => "node id cannot be empty"
  | .rootId => "the root has no segments"
  | .noSegments => "at least one segment is required"
  | .emptyValue => "segment value cannot be empty"
  | .separatorInValue => "segment values cannot contain '.' or ':'"
  | .notATable => "columns can only be listed for tables and views"
  | .noFolder => "missing folder segment"
  | .other reason => reason

inductive Failure where
  | connectionNotFound (id : String)
  | unsupportedEngine (name : String)
  | connection (message suggestion : String)
  /-- A statement that the server refused, with the server's code when it gave one. -/
  | statement (message : String) (code : Option String) (suggestion : String)
  | partialChange (applied : List String) (failed message : String)
  | object (message name : String)
  | timeout (activity : String) (seconds : Nat)
  | node (id : String) (problem : NodeProblem)
  | input (problem : InputProblem)
  | internal (message : String)
deriving DecidableEq, Repr

inductive FailureKind where
  | notFound
  | unsupportedDialect
  | connectionFailure
  | queryFailure
  | partialSchemaMutationFailure
  | timeout
  | invalidInput
  | internal
deriving DecidableEq, Repr

def FailureKind.name : FailureKind → String
  | .notFound => "not_found"
  | .unsupportedDialect => "unsupported_dialect"
  | .connectionFailure => "connection_failure"
  | .queryFailure => "query_failure"
  | .partialSchemaMutationFailure => "partial_schema_mutation_failure"
  | .timeout => "timeout"
  | .invalidInput => "invalid_input"
  | .internal => "internal"

namespace Failure

def kind : Failure → FailureKind
  | .connectionNotFound _ => .notFound
  | .unsupportedEngine _ => .unsupportedDialect
  | .connection .. => .connectionFailure
  | .statement .. | .object .. => .queryFailure
  | .partialChange .. => .partialSchemaMutationFailure
  | .timeout .. => .timeout
  | .node .. | .input _ => .invalidInput
  | .internal _ => .internal

def message : Failure → String
  | .connectionNotFound id => "Connection not found: " ++ id
  | .unsupportedEngine name => "Unsupported dialect: " ++ name
  | .connection message _ => "Connection failed: " ++ message
  | .statement message _ _ => "Database error: " ++ message
  | .partialChange applied failed message =>
    "Schema change stopped after " ++ toString applied.length ++ " applied statement(s): " ++
      message ++ " (statement: " ++ failed ++ ")"
  | .object message name => "Schema error: " ++ message ++ " (object: " ++ name ++ ")"
  | .timeout activity seconds =>
    "Timeout: " ++ activity ++ " exceeded " ++ toString seconds ++ "s"
  | .node id problem => "Invalid node id '" ++ id ++ "': " ++ problem.message
  | .input problem => "Invalid input: " ++ problem.message
  | .internal message => "Internal error: " ++ message

def suggestion : Failure → Option String
  | .connection _ suggestion | .statement _ _ suggestion => some suggestion
  | .partialChange .. =>
    some "Earlier statements were not rolled back; inspect the table before retrying"
  | _ => none

def isRetryable : Failure → Bool
  | .connection .. | .timeout .. => true
  | _ => false

/-! ## Steps of which each may fail -/

theorem bind_eq_ok_iff {α β : Type} {first : Except Failure α} {rest : α → Except Failure β}
    {result : β} :
    first >>= rest = .ok result ↔ ∃ value, first = .ok value ∧ rest value = .ok result := by
  cases first with
  | error failure => simp [Bind.bind, Except.bind]
  | ok value => simp [Bind.bind, Except.bind]

theorem forM_eq_ok_iff {α : Type} {check : α → Except Failure Unit} {items : List α} :
    items.forM check = .ok () ↔ ∀ item ∈ items, check item = .ok () := by
  induction items with
  | nil => simp [pure, Except.pure]
  | cons first rest induction =>
    have passes : (∃ value, check first = .ok value ∧ forM rest check = .ok ()) ↔
        check first = .ok () ∧ forM rest check = .ok () :=
      ⟨fun ⟨(), both⟩ => both, fun both => ⟨(), both⟩⟩
    rw [List.forM_eq_forM, List.forM_cons, bind_eq_ok_iff, passes, List.forall_mem_cons,
      ← induction, List.forM_eq_forM]

theorem forM_eq_error_iff {α : Type} {check : α → Except Failure Unit} {items : List α}
    {failure : Failure} :
    items.forM check = .error failure ↔
      ∃ front item rest, items = front ++ item :: rest ∧
        (∀ other ∈ front, check other = .ok ()) ∧ check item = .error failure := by
  constructor
  · intro refused
    induction items with
    | nil => cases refused
    | cons first rest induction =>
      rw [List.forM_eq_forM, List.forM_cons] at refused
      cases checked : check first with
      | error cause =>
        rw [checked] at refused
        cases refused
        exact ⟨[], first, rest, rfl, nofun, checked⟩
      | ok =>
        rw [checked] at refused
        rcases induction refused with ⟨front, item, behind, rfl, accepted, failing⟩
        refine ⟨first :: front, item, behind, rfl, ?_, failing⟩
        exact List.forall_mem_cons.mpr ⟨checked, accepted⟩
  · rintro ⟨front, item, rest, rfl, accepted, failing⟩
    have passed : front.forM check = .ok () := forM_eq_ok_iff.mpr accepted
    have stops : (item :: rest).forM check = .error failure := by
      rw [List.forM_eq_forM, List.forM_cons, failing]
      rfl
    rw [List.forM_eq_forM, List.forM_append, ← List.forM_eq_forM, passed]
    exact stops

end Failure

end SqlGateway
