import SqlGateway.Engine

/-!
# Categories of column types

The name of a column's type decides how its values are read. Names are compared in lower case, and
the first rule that applies decides.
-/

namespace SqlGateway

inductive TypeCategory where
  | integer
  | float
  | decimal
  | boolean
  | text
  | binary
  | json
  | uuid
  | temporal
  | unknown
deriving DecidableEq, Repr

namespace TypeCategory

def name : TypeCategory → String
  | .integer => "Integer"
  | .float => "Float"
  | .decimal => "Decimal"
  | .boolean => "Boolean"
  | .text => "Text"
  | .binary => "Binary"
  | .json => "Json"
  | .uuid => "Uuid"
  | .temporal => "Temporal"
  | .unknown => "Unknown"

def mentions (words : List String) (typeName : String) : Bool :=
  words.any fun word => Text.occursIgnoringCase word typeName

def isOneOf (words : List String) (typeName : String) : Bool :=
  words.any fun word => word.toList = typeName.toList.map Text.searchChar

def temporalNames : List String :=
  ["timestamp", "timestamptz", "datetime", "datetime2", "date", "time"]

/-- The category of a type by its name. On SQL Server a bit is a truth value. -/
def ofTypeName (typeName : String) (engine : Engine) : TypeCategory :=
  if mentions ["decimal", "numeric"] typeName || isOneOf ["money"] typeName then .decimal
  else if isOneOf temporalNames typeName then .temporal
  else if isOneOf ["bool", "boolean"] typeName then .boolean
  else if engine = .sqlServer && isOneOf ["bit"] typeName then .boolean
  else if mentions ["int", "serial", "tiny"] typeName then .integer
  else if mentions ["float", "double"] typeName || isOneOf ["real"] typeName then .float
  else if isOneOf ["json", "jsonb"] typeName then .json
  else if isOneOf ["uuid", "uniqueidentifier"] typeName then .uuid
  else if mentions ["blob", "binary"] typeName || isOneOf ["bytea"] typeName then .binary
  else if mentions ["char", "text"] typeName || isOneOf ["name"] typeName then .text
  else .unknown

example : ofTypeName "TINYTEXT" .mySql = .integer := by decide
example : ofTypeName "BIT" .mySql = .unknown := by decide
example : ofTypeName "TIMESTAMPTZ" .postgres = .temporal := by decide

end TypeCategory

end SqlGateway
