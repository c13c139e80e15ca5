import SqlGateway.Json.Lookup
import SqlGateway.Server.Script

/-!
# Scripts as documents

A rule is written as an object: `match` is the part of a statement that it answers, `times` how
often it does, `results` its answers, `error` the error behind them, `describe` what preparing
tells, and `hang` keeps the server silent. Programs that try the gateway out against a script read
it from such documents; the gateway itself reads none.
-/

namespace SqlGateway.Script

open Json Json.Lookup

def columnOfJson? : Value → Option Column
  | .array [.string name, .string typeName] => some ⟨name, typeName⟩
  | _ => none

def columnsOfJson (document : Value) : List Column :=
  (items document "columns").filterMap columnOfJson?

def Answer.ofJson (document : Value) : Answer :=
  match natOf? (member document "affected"), optionalText document "tag" with
  | some count, _ => .affected count.toUInt64
  | none, some words => .tag words
  | none, none =>
    if bool document "empty" then .nothing
    else .rows (columnsOfJson document) ((Lookup.items document "rows").map itemsOf)

def Refusal.ofJson? (document : Value) : Option Refusal :=
  match document with
  | .object _ => some ⟨text document "code", nat document "number", text document "message"⟩
  | _ => none

def Description.ofJson? (document : Value) : Option Description :=
  match document, Refusal.ofJson? (member document "error") with
  | .object _, some refusal => some (.refused refusal)
  | .object _, none => some (.columns ((columnsOfJson document).map Column.name))
  | _, _ => none

def Rule.ofJson (document : Value) : Rule where
  part := text document "match"
  uses := natOf? (member document "times")
  answers := (items document "results").map Answer.ofJson
  refusal := Refusal.ofJson? (member document "error")
  description := Description.ofJson? (member document "describe")
  silent := bool document "hang"

def Login.ofJson (document : Value) : Login :=
  match Refusal.ofJson? (member document "error") with
  | some refusal => .refused refusal
  | none => if bool document "hang" then .silent else .granted

end SqlGateway.Script
