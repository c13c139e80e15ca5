import SqlGateway.Proofs.Datum.Sent

/-!
# What is shown of a stored value

The client libraries are taken for what they are assumed to be: a cell that holds a stored value
gives it as every kind that is compatible with the type of its column and that fits the value
(`Libraries.Reads`). Then a row shows of each cell what `Libraries.Shows` says: `row_shows`. The
name of a type decides how its values are read, and some names mention the word of another kind of
types, so that all of their values are lost: PostgreSQL's `INTERVAL` mentions `int`, MySQL's
`TINYTEXT` and `TINYBLOB` mention `tiny`.
-/

namespace SqlGateway

open Json (Value)
open Text.Utf8 (encode)

/-! ## PostgreSQL and MySQL -/

namespace Driver

/-- What is shown of a cell that holds a value. -/
structure Shows {driver : Driver} (engine : Engine) (cell : driver.Cell) (stored : Stored)
    (shown : Value) : Prop where
  /-- Null is shown exactly if no compatible kind that is asked for fits the value, or if it is the
  document that is null. -/
  isNull : shown = .null ↔ ∀ kind ∈ cell.taken engine, ∀ value,
    stored.fit? kind = some value → kind.toJson value = .null
  /-- A whole number is shown as itself if a compatible type of whole numbers holds it. -/
  integer : ∀ (number : Json.Integer) (type : IntegerType), stored = .integer number →
    .integer type ∈ cell.taken engine → (type.ofInt? number.value).isSome = true →
      shown = .ofInteger number
  /-- Nothing is shown of the values of some types. -/
  lost : Documented engine cell → (engine, cell.typeName) ∈ lostTypes → shown = .null
  /-- All other values are shown, if a library has a value for them. -/
  kept : Documented engine cell → Stores engine cell.typeName stored →
    (engine, cell.typeName) ∉ lostTypes → shown = stored.toJson?.getD .null

theorem shows_of_reads {driver : Driver} {engine : Engine} {cell : driver.Cell} {stored : Stored}
    (reads : Reads engine cell stored) : Shows engine cell stored (cell.shown engine) where
  isNull := isNull_iff reads
  integer := by
    rintro number type rfl taken holds
    exact shown_integer reads taken holds
  lost documented lost := shown_of_lost reads documented lost
  kept documented stores kept := shown_of_stores reads documented rfl stores kept

end Driver

/-! ## SQL Server -/

namespace DataDriver

variable {driver : DataDriver}

def temporal? : ColumnData → Option Kind
  | .dateTime (some _) | .smallDateTime (some _) | .dateTime2 (some _) => some .moment
  | .dateTimeOffset (some _) => some .instant
  | .date (some _) => some .date
  | .time (some _) => some .time
  | _ => none

inductive Reads (driver : DataDriver) : ColumnData → Stored → Prop
  | uint8 (value : IntegerType.Member .uint8) :
      Reads driver (.uint8 (some value)) (.integer value.toInteger)
  | int16 (value : IntegerType.Member .int16) :
      Reads driver (.int16 (some value)) (.integer value.toInteger)
  | int32 (value : IntegerType.Member .int32) :
      Reads driver (.int32 (some value)) (.integer value.toInteger)
  | int64 (value : IntegerType.Member .int64) :
      Reads driver (.int64 (some value)) (.integer value.toInteger)
  | float32 (value : Number.FloatReading) : Reads driver (.float32 (some value)) (.number value)
  | float64 (value : Number.FloatReading) : Reads driver (.float64 (some value)) (.number value)
  | bit (value : Bool) : Reads driver (.bit (some value)) (.truth value)
  | numeric (value : Numeric) :
      Reads driver (.numeric (some value)) (.decimal (driver.numericText value))
  | string (value : String) : Reads driver (.string (some value)) (.text value)
  | xml (value : String) : Reads driver (.xml (some value)) (.text value)
  | guid (value : Uuid) : Reads driver (.guid (some value)) (.uuid value)
  | binary (value : List UInt8) : Reads driver (.binary (some value)) (.octets value)
  | moment {data : ColumnData} (asked : temporal? data = some .moment)
      {value : Option Time.Moment} (gives : (driver.get .moment data).value? = value) :
      Reads driver data (.moment value)
  | instant {data : ColumnData} (asked : temporal? data = some .instant)
      {value : Option Time.Moment} (gives : (driver.get .instant data).value? = value) :
      Reads driver data (.instant value)
  | date {data : ColumnData} (asked : temporal? data = some .date)
      {value : Option Time.Date} (gives : (driver.get .date data).value? = value) :
      Reads driver data (.date value)
  | time {data : ColumnData} (asked : temporal? data = some .time)
      {value : Option Time.TimeOfDay} (gives : (driver.get .time data).value? = value) :
      Reads driver data (.time value)

theorem value_eq_valueAs {data : ColumnData} {kind : Kind} (asked : temporal? data = some kind) :
    driver.value data = driver.valueAs kind data := by
  unfold temporal? at asked
  split at asked <;> cases asked <;> rfl

theorem value_of_reads {data : ColumnData} {stored : Stored} (reads : Reads driver data stored) :
    driver.value data = stored.toJson?.getD .null := by
  cases reads with
  | uint8 | int16 | int32 | int64 | float32 | float64 | bit | numeric | string | xml | guid
  | binary => rfl
  | moment asked gives | instant asked gives | date asked gives | time asked gives =>
    rw [value_eq_valueAs asked, valueAs, gives]
    rfl

end DataDriver

/-! ## Rows -/

namespace Libraries

variable (libraries : Libraries)

/-- What is assumed of the client libraries: they give a stored value as the first kind that is
asked for, is compatible with the column and fits the value. -/
def Reads : (engine : Engine) → libraries.Cell engine → Stored → Prop
  | .postgres, cell => Driver.Reads .postgres cell
  | .mySql, cell => Driver.Reads .mySql cell
  | .sqlServer, data => libraries.sqlServer.Reads data

def Shows : (engine : Engine) → libraries.Cell engine → Stored → Value → Prop
  | .postgres, cell => Driver.Shows .postgres cell
  | .mySql, cell => Driver.Shows .mySql cell
  | .sqlServer, _ => fun stored shown => shown = stored.toJson?.getD .null

variable {libraries}

theorem value_shows {engine : Engine} {cell : libraries.Cell engine} {stored : Stored}
    (reads : libraries.Reads engine cell stored) :
    libraries.Shows engine cell stored (libraries.value engine cell) := by
  cases engine with
  | postgres =>
    rcases reads with ⟨raw, content, given⟩
    have shows := Driver.shows_of_reads ⟨raw, content, given⟩
    rwa [← Driver.Cell.postgres_eq _ content] at shows
  | mySql =>
    rcases reads with ⟨raw, content, given⟩
    have shows := Driver.shows_of_reads ⟨raw, content, given⟩
    rwa [← Driver.Cell.mySql_eq _ content] at shows
  | sqlServer => exact DataDriver.value_of_reads reads

end Libraries

theorem Entries.find?_ofList {β : Type} (before : List (String × β)) (name : String) (value : β)
    {after : List (String × β)} (last : ∀ pair ∈ after, pair.1 ≠ name) :
    (Entries.ofList (before ++ (name, value) :: after)).find? name = some value := by
  have kept : ∀ entries : Entries β, entries.find? name = some value →
      (after.foldl (fun entries pair => entries.insert pair.1 pair.2) entries).find? name =
        some value := by
    induction after with
    | nil => exact fun _ found => found
    | cons pair after induction =>
      intro entries found
      rw [List.foldl_cons]
      apply induction (fun other member => last other (List.mem_cons_of_mem _ member))
      rw [Entries.find?_insert, if_neg (last pair List.mem_cons_self).symm]
      exact found
  rw [Entries.ofList, List.foldl_append, List.foldl_cons]
  apply kept
  rw [Entries.find?_insert, if_pos rfl]

/-- A row shows of each cell what is shown of the value that the cell holds, unless a later column
has the same name. -/
theorem row_shows (libraries : Libraries) {engine : Engine}
    {cells before after : List (String × libraries.Cell engine)} {name : String}
    {cell : libraries.Cell engine} {stored : Stored}
    (split : cells = before ++ (name, cell) :: after) (last : ∀ other ∈ after, other.1 ≠ name)
    (reads : libraries.Reads engine cell stored) :
    ∃ shown, (libraries.rowEntries engine cells).find? name = some shown ∧
      libraries.Shows engine cell stored shown := by
  refine ⟨libraries.value engine cell, ?_, Libraries.value_shows reads⟩
  rw [Libraries.rowEntries, split, List.map_append, List.map_cons]
  apply Entries.find?_ofList
  intro pair member
  rcases List.mem_map.mp member with ⟨other, inside, rfl⟩
  exact last other inside

/-- The greatest whole number of MySQL is shown as it is. -/
theorem row_shows_greatest :
    let value : Json.Integer := ⟨18446744073709551615, by decide⟩
    let cell : Libraries.standard.Cell .mySql :=
      Driver.mySqlCell "BIGINT UNSIGNED" (encode (TextForm.integerChars 0 value.value))
    (Libraries.standard.rowEntries .mySql [("total", cell)]).find? "total" =
      some (.ofInteger value) := by
  intro value cell
  have stores : Stores .mySql "BIGINT UNSIGNED" (.integer value) :=
    .unsigned (by decide) (by decide)
  have reads : Libraries.standard.Reads .mySql cell (.integer value) :=
    Driver.reads_mySql stores (.integer 0 value)
  have split : [("total", cell)] = [] ++ ("total", cell) :: [] := rfl
  rcases row_shows Libraries.standard split (List.forall_mem_nil _) reads with ⟨shown, found, shows⟩
  have kept : (Engine.mySql, "BIGINT UNSIGNED") ∉ lostTypes := by decide
  rw [found, shows.kept (Driver.documented_mySql cell) stores kept]
  rfl

/-- A short text of MySQL and an interval of PostgreSQL are lost: the names of their types are taken
for those of whole numbers. -/
theorem row_loses_tinyText :
    (Row.toEntries .mySql ⟨[(⟨"note", "TINYTEXT"⟩, .octets (encode ['a']))]⟩).find? "note" =
        some .null ∧
      (Row.toEntries .postgres ⟨[(⟨"wait", "INTERVAL"⟩, .octets (encode "1 day".toList))]⟩).find?
          "wait" = some .null := by
  decide

end SqlGateway
