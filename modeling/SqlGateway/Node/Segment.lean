import SqlGateway.Failure
import SqlGateway.Text.Split

/-!
# Segments of node ids

A segment names one object of a server: its kind, and its name. It is written as a token, the word
for the kind, a colon and the name. A folder groups the objects of one kind under a schema.
-/

namespace SqlGateway.Node

inductive Folder where
  | tables
  | views
  | functions
deriving DecidableEq, Repr, Inhabited

namespace Folder

def all : List Folder := [.tables, .views, .functions]

def name : Folder → String
  | .tables => "tables"
  | .views => "views"
  | .functions => "functions"

def label : Folder → String
  | .tables => "Tables"
  | .views => "Views"
  | .functions => "Functions"

def ofName? (name : String) : Option Folder := all.find? fun folder => folder.name = name

theorem ofName?_name (folder : Folder) : ofName? folder.name = some folder := by
  cases folder <;> decide

end Folder

inductive Kind where
  | root
  | database
  | schema
  | folder
  | table
  | view
  | function
  | column
  | unknown
deriving DecidableEq, Repr

def Kind.name : Kind → String
  | .root => "root"
  | .database => "database"
  | .schema => "schema"
  | .folder => "folder"
  | .table => "table"
  | .view => "view"
  | .function => "function"
  | .column => "column"
  | .unknown => "unknown"

inductive Segment where
  | database (name : String)
  | schema (name : String)
  | folder (folder : Folder)
  | table (name : String)
  | view (name : String)
  | function (name : String)
  | column (name : String)
deriving DecidableEq, Repr

namespace Segment

def word : Segment → String
  | .database _ => "db"
  | .schema _ => "schema"
  | .folder _ => "folder"
  | .table _ => "table"
  | .view _ => "view"
  | .function _ => "func"
  | .column _ => "column"

def value : Segment → String
  | .database name | .schema name | .table name | .view name | .function name
  | .column name => name
  | .folder group => group.name

def kind : Segment → Kind
  | .database _ => .database
  | .schema _ => .schema
  | .folder _ => .folder
  | .table _ => .table
  | .view _ => .view
  | .function _ => .function
  | .column _ => .column

/-- The segment of a word and a name; words outside the list and unknown folders have none. -/
def ofWord? (word value : String) : Option Segment :=
  match word with
  | "db" => some (.database value)
  | "schema" => some (.schema value)
  | "folder" => (Folder.ofName? value).map .folder
  | "table" => some (.table value)
  | "view" => some (.view value)
  | "func" => some (.function value)
  | "column" => some (.column value)
  | _ => none

def tokenChars (segment : Segment) : List Char :=
  segment.word.toList ++ ':' :: segment.value.toList

def token (segment : Segment) : String := String.ofList segment.tokenChars

/-- The segment that a token stands for: the name begins behind the first colon and is not
empty. -/
def ofToken? (token : List Char) : Option Segment :=
  match Text.cut ':' token with
  | none => none
  | some (word, value) =>
    if value.isEmpty then none else ofWord? (String.ofList word) (String.ofList value)

def Addressable (segment : Segment) : Prop :=
  segment.value.toList ≠ [] ∧ '.' ∉ segment.value.toList ∧ ':' ∉ segment.value.toList

instance (segment : Segment) : Decidable segment.Addressable :=
  inferInstanceAs (Decidable (_ ∧ _))

def check (segment : Segment) : Except Failure Unit :=
  if segment.value.toList = [] then
    .error (.node (segment.word ++ ":") .emptyValue)
  else if '.' ∈ segment.value.toList ∨ ':' ∈ segment.value.toList then
    .error (.node segment.token .separatorInValue)
  else .ok ()

theorem check_eq_ok_iff (segment : Segment) :
    segment.check = .ok () ↔ segment.Addressable := by
  unfold check Addressable
  split
  · simp_all
  · split
    · rename_i separated
      simp only [reduceCtorEq, false_iff, not_and, Decidable.not_not]
      intro _ noPoint
      exact separated.resolve_left noPoint
    · simp_all

theorem ofWord?_word_value (segment : Segment) :
    ofWord? segment.word segment.value = some segment := by
  cases segment <;> simp [ofWord?, word, value, Folder.ofName?_name]

theorem colon_not_mem_word (segment : Segment) : ':' ∉ segment.word.toList := by
  cases segment <;> simp [word]

theorem ofToken?_tokenChars {segment : Segment} (named : segment.value.toList ≠ []) :
    ofToken? segment.tokenChars = some segment := by
  simp [ofToken?, tokenChars, Text.cut_append segment.colon_not_mem_word, named,
    String.ofList_toList, ofWord?_word_value]

end Segment

end SqlGateway.Node
