import SqlGateway.Engine

/-!
# Changes of one table

A `TableChange` says what is to change, in words that all engines share. A change whose tag is not
known is kept as `unknown` and skipped when changes are applied.
-/

namespace SqlGateway

inductive ReferentialAction where
  | noAction
  | restrict
  | cascade
  | setNull
  | setDefault
deriving DecidableEq, Repr, Inhabited

namespace ReferentialAction

def all : List ReferentialAction := [.noAction, .restrict, .cascade, .setNull, .setDefault]

def name : ReferentialAction → String
  | .noAction => "no_action"
  | .restrict => "restrict"
  | .cascade => "cascade"
  | .setNull => "set_null"
  | .setDefault => "set_default"

def sql : ReferentialAction → String
  | .noAction => "NO ACTION"
  | .restrict => "RESTRICT"
  | .cascade => "CASCADE"
  | .setNull => "SET NULL"
  | .setDefault => "SET DEFAULT"

end ReferentialAction

structure ForeignKey where
  name : String
  columns : List String
  referencedSchema : Option String
  referencedTable : String
  referencedColumns : List String
  onDelete : Option ReferentialAction
  onUpdate : Option ReferentialAction
deriving DecidableEq, Repr

inductive TableChange where
  | addColumn (name dataType : String) (nullable : Bool) (fallback : Option String)
  | dropColumn (name : String)
  /-- Some engines restate whether a column may be null when its type changes. -/
  | alterColumnType (name dataType : String) (nullable : Option Bool)
  | renameColumn (name newName : String)
  | addPrimaryKey (name : Option String) (columns : List String)
  | dropPrimaryKey (name : String)
  | addForeignKey (key : ForeignKey)
  | dropForeignKey (name : String)
  | unknown
deriving DecidableEq, Repr

def TableChange.kind : TableChange → String
  | .addColumn .. => "add_column"
  | .dropColumn _ => "drop_column"
  | .alterColumnType .. => "alter_column_type"
  | .renameColumn .. => "rename_column"
  | .addPrimaryKey .. => "add_pk"
  | .dropPrimaryKey _ => "drop_pk"
  | .addForeignKey _ => "add_fk"
  | .dropForeignKey _ => "drop_fk"
  | .unknown => "unknown"

end SqlGateway
