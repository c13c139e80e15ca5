import SqlGateway.Json.Value

/-!
# Looking into documents

Readers for documents whose members may all be missing. A member that is missing or of another kind
reads as nothing: the empty text, zero, false, no items. They serve programs that drive the gateway
by documents; the documents of the gateway itself are read strictly, by `Json.Typed`.
-/

namespace SqlGateway.Json.Lookup

def member (document : Value) (name : String) : Value := (document.member? name).getD .null

def text? (value : Value) : Option String :=
  match value with
  | .string text => some text
  | _ => none

def optionalText (document : Value) (name : String) : Option String := text? (member document name)

def text (document : Value) (name : String) : String := (optionalText document name).getD ""

def itemsOf (value : Value) : List Value :=
  match value with
  | .array items => items
  | _ => []

def items (document : Value) (name : String) : List Value := itemsOf (member document name)

def membersOf (value : Value) : List (String × Value) :=
  match value with
  | .object members => members
  | _ => []

def texts (document : Value) (name : String) : List String :=
  (items document name).filterMap text?

def natOf? (value : Value) : Option Nat :=
  match value with
  | .number (.integer integer) => some integer.value.toNat
  | _ => none

def nat (document : Value) (name : String) : Nat := (natOf? (member document name)).getD 0

def boolOf (value : Value) : Bool :=
  match value with
  | .bool value => value
  | _ => false

def bool (document : Value) (name : String) : Bool := boolOf (member document name)

example : text (.object [("name", .string "a")]) "name" = "a" := by decide

example : nat (.object [("name", .string "a")]) "name" = 0 := by decide

end SqlGateway.Json.Lookup
