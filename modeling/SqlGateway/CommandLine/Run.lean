import SqlGateway.Change.Schema
import SqlGateway.CommandLine.Invocation
import SqlGateway.CommandLine.Payload
import SqlGateway.Gateway.Browse
import SqlGateway.Gateway.Change
import SqlGateway.Gateway.Databases
import SqlGateway.Report.Metrics
import SqlGateway.Report.Table
import SqlGateway.Row.Schema

/-!
# Doing the task of an invocation

A task writes its result to the output, as JSON or as a table. A failure is told with the advice
that belongs to it. A change that stops on the way writes its report first and is a failure all the
same.
-/

namespace SqlGateway.CommandLine

open Json (Value)

structure Outcome where
  exitCode : UInt32
  output : String
  errors : String
deriving DecidableEq, Repr

structure TaskResult where
  output : String
  failure : Option Failure

def document (value : Value) : String := value.pretty ++ "\n"

def written {σ α : Type} (operation : Gateway σ α) (text : α → String) : Gateway σ TaskResult := do
  return ⟨text (← operation), none⟩

def payload {α : Type} (what : String) (read : Except String α) : Except Failure α :=
  read.mapError fun cause => .input (.payload what cause)

namespace Task

variable {σ : Type} (backend : Backend σ)

def perform (milliseconds : UInt64) : Task → Gateway σ TaskResult
  | .tree connection parent =>
    written (Gateway.expand backend connection parent) fun objects =>
      document (.array (objects.map CatalogObject.toJson))
  | .columns connection node =>
    written (Gateway.columns backend connection node) fun objects =>
      document (.array (objects.map CatalogObject.toJson))
  | .relationships connection database schema =>
    written (Gateway.relationships backend connection database schema) fun found =>
      document (.array (found.map Relationship.toJson))
  | .metrics connection database format =>
    written (Gateway.metrics backend connection database) fun metrics =>
      match format with
      | .json => document metrics.toJson
      | .table => Report.metrics metrics
  | .query connection sql database format =>
    written (Gateway.query backend connection sql database) fun result =>
      match format with
      | .json => document result.toJson
      | .table => Report.table result milliseconds
  | .createDatabase connection name =>
    written (Gateway.createDatabase backend connection name) fun _ =>
      document (.object [("created", .string name)])
  | .dropDatabase connection name =>
    written (Gateway.dropDatabase backend connection name) fun _ =>
      document (.object [("dropped", .string name)])
  | .alter connection schema table operations database => do
    let changes ← .lift (payload "operations" (Payload.changes operations))
    let report ← Gateway.alter backend connection database schema table changes
    return ⟨document report.toJson,
      match report.toResult with
      | .ok _ => none
      | .error failure => some failure⟩
  | .updateRow connection request => do
    let update ← .lift (payload "row update" (Payload.rowUpdate request))
    written (Gateway.updateRow backend connection update) fun outcome =>
      document outcome.toJson
  | .payloadSchema =>
    .lift (.ok ⟨document (.object [("alterOperation", TableChange.jsonSchema),
      ("rowUpdate", RowUpdate.jsonSchema)]), none⟩)

end Task

/-! ## The program -/

def failureText (failure : Failure) : String :=
  "Error: " ++ failure.message ++ "\n" ++
    match failure.suggestion with
    | some suggestion => "Hint: " ++ suggestion ++ "\n"
    | none => ""

def refusedStart (cause : String) : Outcome := ⟨1, "", "Error: " ++ cause ++ "\n"⟩

namespace Invocation

def duplicateText (failure : Failure) : String :=
  match failure with
  | .input problem => "InvalidInput \x7b message: " ++ Text.quoted problem.message ++ " \x7d"
  | other => other.message

def run {σ : Type} (invocation : Invocation) (backend : Backend σ) (milliseconds : UInt64)
    (servers : σ) : Outcome × Session σ :=
  let session := Session.start servers
  match invocation.definitions with
  | .error problem => (refusedStart (Text.quoted problem.message), session)
  | .ok definitions =>
    match (definitions.forM Gateway.register).on session with
    | (.error failure, session) => (refusedStart (duplicateText failure), session)
    | (.ok (), session) =>
      let (result, session) := (invocation.task.perform backend milliseconds).on session
      let (_, session) := (Gateway.closeAll backend).on session
      match result with
      | .error failure => (⟨1, "", failureText failure⟩, session)
      | .ok ⟨output, some failure⟩ => (⟨1, output, failureText failure⟩, session)
      | .ok ⟨output, none⟩ => (⟨0, output, ""⟩, session)

end Invocation

/-! ## From words to an outcome -/

def versionText : String := "sqlbridge 0.1.0\n"

def usageText : String :=
  "Usage: sqlbridge [OPTIONS] <COMMAND>\n\nCommands:\n" ++
    String.join (program.subcommands.map fun subcommand => "  " ++ subcommand.1 ++ "\n")

def UsageProblem.outcome : UsageProblem → Outcome
  | .version => ⟨0, versionText, ""⟩
  | .help => ⟨0, usageText, ""⟩
  | _ => ⟨2, "", usageText⟩

/-- Runs the program on the words behind its name; what was asked of it decides about the servers
it talks to. -/
def run {σ : Type} (words : List String) (backend : Invocation → Backend σ)
    (milliseconds : UInt64) (servers : σ) : Outcome × Session σ :=
  match Invocation.ofWords words with
  | .error problem => (problem.outcome, .start servers)
  | .ok invocation => invocation.run (backend invocation) milliseconds servers

end SqlGateway.CommandLine
