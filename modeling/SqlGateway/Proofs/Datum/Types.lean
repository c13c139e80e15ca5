import SqlGateway.Proofs.Datum.Stored
import SqlGateway.Proofs.Text.Utf8

/-!
# The types of PostgreSQL and MySQL

`Stores` lists the types whose values the gateway is to show, each with its values. A library is
`Documented` if it accepts exactly the types that are listed for a kind; then every value is shown
as the JSON value that stands for it, but for the types in `lostTypes`, whose names lead to kinds
that they have no values of.
-/

namespace SqlGateway

open Json (Value)

namespace Driver

/-! ## Kinds by type -/

def compatibleTypes : Engine → Kind → List String
  | .postgres => postgresTypes
  | .mySql => mySqlTypes
  | .sqlServer => fun _ => []

/-- As far as a cell is asked, the library accepts exactly the types that are listed for a kind. -/
def Documented {driver : Driver} (engine : Engine) (cell : driver.Cell) : Prop :=
  ∀ kind ∈ asked engine cell.typeName,
    driver.accepts kind cell.type = true ↔ cell.typeName ∈ compatibleTypes engine kind

def kindsOf (engine : Engine) (typeName : String) : List Kind :=
  (asked engine typeName).filter fun kind =>
    if TypeCategory.ofTypeName typeName engine = .decimal then isDecimal engine typeName
    else typeName ∈ compatibleTypes engine kind

theorem taken_of_documented {driver : Driver} {engine : Engine} {cell : driver.Cell}
    (documented : Documented engine cell) : cell.taken engine = kindsOf engine cell.typeName := by
  apply List.filter_congr
  intro kind member
  rw [takes, ← Cell.typeName]
  split
  · rfl
  · rw [Bool.eq_iff_iff, documented kind member, decide_eq_true_iff]

end Driver

/-! ## Types and their values -/

def postgresIntegerTypes : List (String × IntegerType) :=
  [("INT2", .int16), ("INT4", .int32), ("INT8", .int64)]

def floatTypes : List (Engine × String) :=
  [(.postgres, "FLOAT4"), (.postgres, "FLOAT8"), (.mySql, "FLOAT"), (.mySql, "DOUBLE")]

def decimalTypes : List (Engine × String) :=
  [(.postgres, "NUMERIC"), (.postgres, "MONEY"), (.mySql, "DECIMAL")]

def textTypes : List (Engine × String) :=
  ["TEXT", "VARCHAR", "CHAR", "\"CHAR\"", "NAME", "UNKNOWN", "citext"].map (.postgres, ·) ++
    Driver.characterTypes.map (.mySql, ·)

def octetTypes : List (Engine × String) :=
  [(.postgres, "BYTEA"), (.mySql, "BIT")] ++ Driver.binaryTypes.map (.mySql, ·)

def documentTypes : List (Engine × String) :=
  [(.postgres, "JSON"), (.postgres, "JSONB"), (.mySql, "JSON")]

def otherTypes : List String := ["INTERVAL", "TIMETZ", "BIT", "VARBIT", "XML"]

/-- The types whose values are all shown as null. -/
def lostTypes : List (Engine × String) :=
  ["\"CHAR\"", "OID"].map (.postgres, ·) ++ otherTypes.map (.postgres, ·) ++
    ["TINYTEXT", "TINYBLOB", "BIT", "YEAR"].map (.mySql, ·)

/-- The values that a column of a type may hold. -/
inductive Stores : Engine → String → Stored → Prop
  | integer {typeName : String} {type : IntegerType}
      (named : (typeName, type) ∈ postgresIntegerTypes) {value : Json.Integer}
      (holds : (type.ofInt? value.value).isSome = true) :
      Stores .postgres typeName (.integer value)
  | signed {typeName : String} (named : typeName ∈ Driver.signedTypes) {value : Json.Integer}
      (holds : (IntegerType.int64.ofInt? value.value).isSome = true) :
      Stores .mySql typeName (.integer value)
  | unsigned {typeName : String} (named : typeName ∈ Driver.unsignedTypes) {value : Json.Integer}
      (holds : (IntegerType.uint64.ofInt? value.value).isSome = true) :
      Stores .mySql typeName (.integer value)
  | oid (value : Json.Integer) : Stores .postgres "OID" (.integer value)
  | year (value : Json.Integer) : Stores .mySql "YEAR" (.integer value)
  | flag (value : Int) : Stores .mySql "BOOLEAN" (.flag value)
  | truth (value : Bool) : Stores .postgres "BOOL" (.truth value)
  | number {engine : Engine} {typeName : String} (named : (engine, typeName) ∈ floatTypes)
      (value : Number.FloatReading) : Stores engine typeName (.number value)
  | decimal {engine : Engine} {typeName : String} (named : (engine, typeName) ∈ decimalTypes)
      (value : String) : Stores engine typeName (.decimal value)
  | text {engine : Engine} {typeName : String} (named : (engine, typeName) ∈ textTypes)
      (value : String) : Stores engine typeName (.text value)
  /-- Octets in a text of MySQL that are no text. -/
  | garbled {typeName : String} (named : typeName ∈ Driver.characterTypes) {octets : List UInt8}
      (noText : Text.Utf8.decode? octets = none) : Stores .mySql typeName (.octets octets)
  | octets {engine : Engine} {typeName : String} (named : (engine, typeName) ∈ octetTypes)
      (octets : List UInt8) : Stores engine typeName (.octets octets)
  | document {engine : Engine} {typeName : String} (named : (engine, typeName) ∈ documentTypes)
      (value : Value) : Stores engine typeName (.document value)
  | uuid (value : Uuid) : Stores .postgres "UUID" (.uuid value)
  | date {engine : Engine} (named : engine ≠ .sqlServer) (value : Option Time.Date) :
      Stores engine "DATE" (.date value)
  | time {engine : Engine} (named : engine ≠ .sqlServer) (value : Option Time.TimeOfDay) :
      Stores engine "TIME" (.time value)
  | moment {engine : Engine} {typeName : String}
      (named : (engine, typeName) ∈ [(.postgres, "TIMESTAMP"), (.mySql, "DATETIME")])
      (value : Option Time.Moment) : Stores engine typeName (.moment value)
  | instant {engine : Engine} {typeName : String}
      (named : (engine, typeName) ∈ [(.postgres, "TIMESTAMPTZ"), (.mySql, "TIMESTAMP")])
      (value : Option Time.Moment) : Stores engine typeName (.instant value)
  | other {typeName : String} (named : typeName ∈ otherTypes) : Stores .postgres typeName .other

namespace Driver

theorem other_mem_lostTypes : ∀ typeName ∈ otherTypes, (Engine.postgres, typeName) ∈ lostTypes := by
  decide

/-! ## Kinds of the listed types -/

theorem kindsOf_lost : ∀ pair ∈ lostTypes, kindsOf pair.1 pair.2 = [] := by decide

theorem kindsOf_integer : ∀ pair ∈ postgresIntegerTypes,
    kindsOf .postgres pair.1 = [.integer pair.2] := by decide

theorem signed_mem_kindsOf : ∀ typeName ∈ signedTypes,
    .integer .int64 ∈ kindsOf .mySql typeName := by decide

theorem unsigned_mem_kindsOf : ∀ typeName ∈ unsignedTypes,
    .integer .uint64 ∈ kindsOf .mySql typeName := by decide

theorem kindsOf_flag : kindsOf .mySql "BOOLEAN" = [.truth] := by decide

theorem kindsOf_truth : kindsOf .postgres "BOOL" = [.truth] := by decide

theorem kindsOf_uuid : kindsOf .postgres "UUID" = [.uuid] := by decide

theorem kindsOf_float : ∀ pair ∈ floatTypes,
    kindsOf pair.1 pair.2 ∈ [[.single], [.double], [.double, .single]] := by decide

theorem kindsOf_decimal : ∀ pair ∈ decimalTypes, kindsOf pair.1 pair.2 = [.text] := by decide

theorem kindsOf_text : ∀ pair ∈ textTypes, pair ∉ lostTypes →
    kindsOf pair.1 pair.2 ∈ [[.text], [.text, .octets]] := by decide

theorem kindsOf_characters : ∀ typeName ∈ characterTypes, (.mySql, typeName) ∉ lostTypes →
    kindsOf .mySql typeName = [.text, .octets] ∧
      TypeCategory.ofTypeName typeName .mySql ≠ .binary := by decide

theorem kindsOf_octets : ∀ pair ∈ octetTypes, pair ∉ lostTypes →
    kindsOf pair.1 pair.2 = [.octets] ∧ TypeCategory.ofTypeName pair.2 pair.1 = .binary := by
  decide

theorem kindsOf_document : ∀ pair ∈ documentTypes, kindsOf pair.1 pair.2 = [.document] := by
  decide

theorem kindsOf_temporal {engine : Engine} (named : engine ≠ .sqlServer) :
    kindsOf engine "DATE" = [.date] ∧ kindsOf engine "TIME" = [.time] := by
  cases engine with
  | postgres | mySql => decide
  | sqlServer => exact absurd rfl named

theorem kindsOf_moment : ∀ pair ∈ [(Engine.postgres, "TIMESTAMP"), (.mySql, "DATETIME")],
    kindsOf pair.1 pair.2 = [.moment] := by decide

theorem kindsOf_instant : ∀ pair ∈ [(Engine.postgres, "TIMESTAMPTZ"), (.mySql, "TIMESTAMP")],
    kindsOf pair.1 pair.2 = [.instant] := by decide

section Shown

variable {driver : Driver} {engine : Engine} {cell : driver.Cell} {stored : Stored}
  (reads : Reads engine cell stored) (documented : Documented engine cell)

include reads documented

theorem shown_of_documented {typeName : String} (named : cell.typeName = typeName) :
    cell.shown engine = ((kindsOf engine typeName).findSome? fun kind =>
      (stored.fit? kind).map (shows engine typeName kind)).getD .null := by
  rw [shown_of_reads reads, taken_of_documented documented, named]

theorem shown_of_singleton {typeName : String} (named : cell.typeName = typeName) (kind : Kind)
    (only : kindsOf engine typeName = [kind]) :
    cell.shown engine = ((stored.fit? kind).map (shows engine typeName kind)).getD .null := by
  rw [shown_of_documented reads documented named, only, List.findSome?_singleton]

theorem shown_of_lost (lost : (engine, cell.typeName) ∈ lostTypes) :
    cell.shown engine = .null := by
  rw [shown_of_documented reads documented rfl, kindsOf_lost _ lost]
  rfl

omit reads in
theorem mem_taken {typeName : String} (named : cell.typeName = typeName) {kind : Kind}
    (listed : kind ∈ kindsOf engine typeName) : kind ∈ cell.taken engine := by
  rwa [taken_of_documented documented, named]

/-- Of the listed types, all but the lost ones show their values. -/
theorem shown_of_stores {typeName : String} (named : cell.typeName = typeName)
    (stores : Stores engine typeName stored) (kept : (engine, typeName) ∉ lostTypes) :
    cell.shown engine = stored.toJson?.getD .null := by
  cases stores with
  | integer listed holds =>
    have only := kindsOf_integer (_, _) listed
    exact shown_integer reads (mem_taken documented named (only ▸ List.mem_singleton_self _)) holds
  | signed listed holds =>
    exact shown_integer reads (mem_taken documented named (signed_mem_kindsOf _ listed)) holds
  | unsigned listed holds =>
    exact shown_integer reads (mem_taken documented named (unsigned_mem_kindsOf _ listed)) holds
  | oid => exact absurd (by decide) kept
  | year => exact absurd (by decide) kept
  | flag value =>
    rw [shown_of_singleton reads documented named .truth kindsOf_flag]
    have asBool : (Stored.flag value).fit? .truth = (IntegerType.int8.ofInt? value).map
        fun member => decide (member.value ≠ 0) := rfl
    have shown : (Stored.flag value).toJson? = (IntegerType.int8.ofInt? value).map
        fun member => Value.bool (member.value ≠ 0) := rfl
    rw [asBool, shown]
    cases IntegerType.int8.ofInt? value <;> rfl
  | truth value =>
    rw [shown_of_singleton reads documented named .truth kindsOf_truth]
    rfl
  | number listed value =>
    rw [shown_of_documented reads documented named]
    have kinds := kindsOf_float (engine, typeName) listed
    simp only [List.mem_cons, List.not_mem_nil, or_false] at kinds
    rcases kinds with only | only | both
    · rw [only]
      rfl
    · rw [only]
      rfl
    · rw [both]
      rfl
  | decimal listed value =>
    rw [shown_of_singleton reads documented named .text (kindsOf_decimal (_, _) listed)]
    rfl
  | text listed value =>
    rw [shown_of_documented reads documented named]
    have kinds := kindsOf_text (engine, typeName) listed kept
    simp only [List.mem_cons, List.not_mem_nil, or_false] at kinds
    rcases kinds with only | both
    · rw [only]
      rfl
    · rw [both]
      rfl
  | @garbled _ listed octets noText =>
    have kinds := kindsOf_characters typeName listed kept
    have loose : shows .mySql typeName .octets octets = .ofOctets octets := by
      refine (if_pos ⟨rfl, kinds.2⟩).trans ?_
      rw [Cell.looseText, noText]
    have noFit : (Stored.octets octets).fit? .text = none := congrArg (Option.map _) noText
    rw [shown_of_documented reads documented named, kinds.1, List.findSome?_cons, noFit]
    exact loose
  | octets listed octets =>
    have kinds := kindsOf_octets (engine, typeName) listed kept
    have plain : shows engine typeName .octets octets = .ofOctets octets :=
      if_neg fun loose => loose.2 kinds.2
    rw [shown_of_singleton reads documented named .octets kinds.1]
    exact plain
  | document listed value =>
    rw [shown_of_singleton reads documented named .document (kindsOf_document (_, _) listed)]
    rfl
  | uuid value =>
    rw [shown_of_singleton reads documented named .uuid kindsOf_uuid]
    rfl
  | date apart value =>
    rw [shown_of_singleton reads documented named .date (kindsOf_temporal apart).1]
    rfl
  | time apart value =>
    rw [shown_of_singleton reads documented named .time (kindsOf_temporal apart).2]
    rfl
  | moment listed value =>
    rw [shown_of_singleton reads documented named .moment (kindsOf_moment (_, _) listed)]
    rfl
  | instant listed value =>
    rw [shown_of_singleton reads documented named .instant (kindsOf_instant (_, _) listed)]
    rfl
  | other listed => exact absurd (other_mem_lostTypes _ listed) kept

end Shown

end Driver

end SqlGateway
