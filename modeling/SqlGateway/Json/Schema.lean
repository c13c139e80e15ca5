import SqlGateway.Json.Value

/-!
# JSON schemas

A schema describes the JSON values that a request takes. Its parts are put together from the
functions below, each of which gives the schema of one kind of value.
-/

namespace SqlGateway.Json.Schema

def dialect : String := "https://json-schema.org/draft/2020-12/schema"

def also (schema : Value) (more : List (String × Value)) : Value :=
  match schema with
  | .object members => .object (members ++ more)
  | other => other

def under (schema : Value) (more : List (String × Value)) : Value :=
  match schema with
  | .object members => .object (more ++ members)
  | other => other

def describedAs (schema : Value) (description : String) : Value :=
  under schema [("description", .string description)]

def withDefault (schema : Value) (value : Value) : Value := also schema [("default", value)]

def ofType (name : String) : Value := .object [("type", .string name)]

def optionalOfType (name : String) : Value :=
  withDefault (.object [("type", .array [.string name, .string "null"])]) .null

def text : Value := ofType "string"

def optionalText : Value := optionalOfType "string"

def texts : Value := also (ofType "array") [("items", text)]

def constant (word : String) : Value := also text [("const", .string word)]

def oneOf (words : List String) : Value := also text [("enum", .array (words.map .string))]

def optionalReference (name : String) : Value :=
  withDefault (.object [("anyOf", .array [
    .object [("$ref", .string ("#/$defs/" ++ name))], ofType "null"])]) .null

def record (properties : List (String × Value)) (required : List String) : Value :=
  also (ofType "object") [("properties", .object properties),
    ("required", .array (required.map .string))]

def tagged (tag : String) (properties : List (String × Value)) (required : List String) : Value :=
  record (properties ++ [("type", constant tag)]) ("type" :: required)

def document (title description : String) (schema : Value) : Value :=
  under schema [("$schema", .string dialect), ("title", .string title),
    ("description", .string description)]

end SqlGateway.Json.Schema
