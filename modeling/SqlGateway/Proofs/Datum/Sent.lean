import SqlGateway.Proofs.Datum.Forms
import SqlGateway.Proofs.Datum.Types
import SqlGateway.Proofs.Time.Reading

/-!
# Stored values as servers write them

PostgreSQL and MySQL send a stored value in its text form. The standard client libraries read every
text form of a listed type as the value that was written: `reads_postgres` and `reads_mySql`. Dates
and times before the common era, beyond the calendar or beyond a day have no value there.
-/

namespace SqlGateway

open Json (Value)
open Number (BinaryFormat FloatReading)
open Text.Utf8 (encode)
open TextForm (Numeral integerChars markedChars)
open Time (WrittenDate WrittenTime WrittenOffset momentChars)
open Time.Reading (eraChars)

def writtenMoment (date : WrittenDate) (time : WrittenTime) : Time.Moment :=
  ⟨date.date.dayNumber, time.timeOfDay⟩

namespace Driver

theorem documented_postgres (cell : standardPostgres.Cell) : Documented .postgres cell :=
  fun _ _ => decide_eq_true_iff

theorem accepts_mySql (kind : Kind) (type : String) :
    standardMySql.accepts kind type = true ↔ type ∈ mySqlTypes kind :=
  decide_eq_true_iff

theorem documented_mySql (cell : standardMySql.Cell) : Documented .mySql cell :=
  fun kind _ => accepts_mySql kind cell.type

theorem characters?_encode (chars : List Char) :
    TextForm.characters? (encode chars) = some (String.ofList chars) := by
  rw [TextForm.characters?, Text.Utf8.decode?_encode, Option.map_some]

/-! ## PostgreSQL -/

def endless : List String := ["infinity", "-infinity"]

/-- How PostgreSQL writes a value; `format` is the precision of floating-point numbers. -/
inductive PostgresForm (format : BinaryFormat) : Stored → List Char → Prop
  | integer (value : Json.Integer) :
      PostgresForm format (.integer value) (integerChars 0 value.value)
  | decimal (chars : List Char) : PostgresForm format (.decimal (String.ofList chars)) chars
  | number (numeral : Numeral) :
      PostgresForm format (.number (numeral.reading format)) numeral.chars
  | notFinite {word : String} {reading : FloatReading}
      (means : (word, reading) ∈ [("NaN", .undefined), ("Infinity", .infinite false),
        ("-Infinity", .infinite true)]) :
      PostgresForm format (.number reading) word.toList
  | truth (value : Bool) : PostgresForm format (.truth value) [if value then 't' else 'f']
  | text (chars : List Char) : PostgresForm format (.text (String.ofList chars)) chars
  | octets (octets : List UInt8) : PostgresForm format (.octets octets) (markedChars octets)
  | document {chars : List Char} {value : Value}
      (means : TextForm.document? (String.ofList chars) = some value) :
      PostgresForm format (.document value) chars
  | uuid (uuid : Uuid) : PostgresForm format (.uuid uuid) uuid.chars
  | date (date : WrittenDate) (before : Bool) :
      PostgresForm format (.date (if date.isTold && !before then some date.date else none))
        (date.chars ++ eraChars before)
  | time (time : WrittenTime) :
      PostgresForm format (.time (if time.hour < 24 then some time.timeOfDay else none)) time.chars
  | moment (date : WrittenDate) {time : WrittenTime} (within : time.hour < 24) (before : Bool) :
      PostgresForm format
        (.moment (if date.isTold && !before then some (writtenMoment date time) else none))
        (momentChars date time ++ eraChars before)
  | instant (date : WrittenDate) {time : WrittenTime} (within : time.hour < 24)
      (offset : WrittenOffset) (before : Bool) :
      PostgresForm format
        (.instant (if date.isTold && offset.seconds = 0 && !before then
          some ((writtenMoment date time).back offset.value) else none))
        (momentChars date time ++ (offset.chars ++ eraChars before))
  | endlessDate {word : String} (is : word ∈ endless) : PostgresForm format (.date none) word.toList
  | endlessMoment {word : String} (is : word ∈ endless) :
      PostgresForm format (.moment none) word.toList
  | endlessInstant {word : String} (is : word ∈ endless) :
      PostgresForm format (.instant none) word.toList

def formatOf (typeName : String) : BinaryFormat :=
  if typeName = "FLOAT4" then .single else .double

theorem kindsOf_postgresText : ∀ pair ∈ textTypes, pair.1 = .postgres → pair ∉ lostTypes →
    kindsOf .postgres pair.2 = [.text] := by decide

theorem endless_eq_none {word : String} (is : word ∈ endless) :
    Time.Reading.date? word = none ∧ Time.Reading.localMoment? word = none ∧
      Time.Reading.zonedMoment? word = none := by
  simp only [endless, List.mem_cons, List.not_mem_nil, or_false] at is
  rcases is with rfl | rfl <;> exact ⟨rfl, rfl, rfl⟩

section Postgres

variable {type : String} {chars : List Char} {stored : Stored}

def postgresCell (type : String) (chars : List Char) : standardPostgres.Cell :=
  ⟨type, some (.octets (encode chars))⟩

theorem reads_of_postgres?
    (each : ∀ kind ∈ kindsOf .postgres (postgresName type),
      TextForm.postgres? kind (String.ofList chars) = stored.fit? kind) :
    Reads .postgres (postgresCell type chars) stored := by
  refine ⟨_, rfl, given_of_forall fun kind member => ?_⟩
  rw [taken_of_documented (documented_postgres _)] at member
  change (TextForm.characters? (encode chars)).bind (TextForm.postgres? kind) = _
  rw [characters?_encode]
  exact each kind member

section Name

variable {typeName : String} (named : postgresName type = typeName)

include named

theorem reads_of_single {kind : Kind} (only : kindsOf .postgres typeName = [kind])
    (gives : TextForm.postgres? kind (String.ofList chars) = stored.fit? kind) :
    Reads .postgres (postgresCell type chars) stored := by
  apply reads_of_postgres?
  rw [named, only, List.forall_mem_singleton]
  exact gives

theorem reads_float (listed : (Engine.postgres, typeName) ∈ floatTypes) {reading : FloatReading}
    (read : TextForm.float? (formatOf typeName) (String.ofList chars) = some reading) :
    Reads .postgres (postgresCell type chars) (.number reading) := by
  have either : typeName = "FLOAT4" ∨ typeName = "FLOAT8" := by simpa [floatTypes] using listed
  rcases either with rfl | rfl
  · have single : kindsOf .postgres "FLOAT4" = [.single] := by decide
    exact reads_of_single named single read
  · have double : kindsOf .postgres "FLOAT8" = [.double] := by decide
    exact reads_of_single named double read

end Name

theorem reads_postgres (stores : Stores .postgres (postgresName type) stored)
    (form : PostgresForm (formatOf (postgresName type)) stored chars) :
    Reads .postgres (postgresCell type chars) stored := by
  generalize named : postgresName type = typeName at stores form
  by_cases lost : (Engine.postgres, typeName) ∈ lostTypes
  · apply reads_of_postgres?
    rw [named, kindsOf_lost (_, _) lost]
    exact List.forall_mem_nil _
  cases stores with
  | integer listed holds =>
    cases form with
    | integer =>
      exact reads_of_single named (kindsOf_integer (_, _) listed)
        (TextForm.integer?_integerChars _ 0 _)
  | oid => exact absurd (by decide) lost
  | truth value =>
    cases form with
    | truth =>
      refine reads_of_single named kindsOf_truth ?_
      cases value <;> rfl
  | number listed value =>
    cases form with
    | number numeral => exact reads_float named listed (TextForm.float?_chars numeral _)
    | notFinite means =>
      apply reads_float named listed
      rw [String.ofList_toList]
      simp only [List.mem_cons, Prod.mk.injEq, List.not_mem_nil, or_false] at means
      rcases means with ⟨rfl, rfl⟩ | ⟨rfl, rfl⟩ | ⟨rfl, rfl⟩ <;> rfl
  | decimal listed value =>
    cases form with
    | decimal => exact reads_of_single named (kindsOf_decimal (_, _) listed) rfl
  | text listed value =>
    cases form with
    | text => exact reads_of_single named (kindsOf_postgresText (_, _) listed rfl lost) rfl
  | octets listed octets =>
    cases form with
    | octets =>
      exact reads_of_single named (kindsOf_octets (_, _) listed lost).1
        (TextForm.markedOctets?_markedChars octets)
  | document listed value =>
    cases form with
    | document means => exact reads_of_single named (kindsOf_document (_, _) listed) means
  | uuid uuid =>
    cases form with
    | uuid => exact reads_of_single named kindsOf_uuid (TextForm.uuid?_text uuid)
  | date apart value =>
    refine reads_of_single named (kindsOf_temporal apart).1 ?_
    cases form with
    | date date before => exact Time.Reading.date?_written date before
    | endlessDate is =>
      rw [String.ofList_toList]
      exact (endless_eq_none is).1
  | time apart value =>
    cases form with
    | time time =>
      exact reads_of_single named (kindsOf_temporal apart).2 (Time.Reading.time?_written time)
  | moment listed value =>
    refine reads_of_single named (kindsOf_moment (_, _) listed) ?_
    cases form with
    | moment date within before => exact Time.Reading.localMoment?_written date within before
    | endlessMoment is =>
      rw [String.ofList_toList]
      exact (endless_eq_none is).2.1
  | instant listed value =>
    refine reads_of_single named (kindsOf_instant (_, _) listed) ?_
    cases form with
    | instant date within offset before =>
      exact Time.Reading.zonedMoment?_written date within offset before
    | endlessInstant is =>
      rw [String.ofList_toList]
      exact (endless_eq_none is).2.2
  | other listed => exact absurd (other_mem_lostTypes _ listed) lost

end Postgres

/-! ## MySQL -/

/-- How MySQL writes a value. -/
inductive MySqlForm : Stored → List UInt8 → Prop
  | integer (zeros : Nat) (value : Json.Integer) :
      MySqlForm (.integer value) (encode (integerChars zeros value.value))
  | flag (value : Int) : MySqlForm (.flag value) (encode (integerChars 0 value))
  | decimal (chars : List Char) : MySqlForm (.decimal (String.ofList chars)) (encode chars)
  | number (numeral : Numeral) :
      MySqlForm (.number (numeral.reading .double)) (encode numeral.chars)
  | text (chars : List Char) : MySqlForm (.text (String.ofList chars)) (encode chars)
  | octets (octets : List UInt8) : MySqlForm (.octets octets) octets
  | document {chars : List Char} {value : Value}
      (means : TextForm.document? (String.ofList chars) = some value) :
      MySqlForm (.document value) (encode chars)
  | date (date : WrittenDate) :
      MySqlForm (.date (if date.isTold then some date.date else none)) (encode date.chars)
  | time (negative : Bool) (time : WrittenTime) :
      MySqlForm (.time (if !negative && time.hour < 24 then some time.timeOfDay else none))
        (encode (if negative then '-' :: time.chars else time.chars))
  | moment (date : WrittenDate) {time : WrittenTime} (within : time.hour < 24) :
      MySqlForm (.moment (if date.isTold then some (writtenMoment date time) else none))
        (encode (momentChars date time))
  | instant (date : WrittenDate) {time : WrittenTime} (within : time.hour < 24) :
      MySqlForm (.instant (if date.isTold then some (writtenMoment date time) else none))
        (encode (momentChars date time))

theorem kindsOf_integers : ∀ typeName ∈ signedTypes ++ unsignedTypes,
    ∀ kind ∈ kindsOf .mySql typeName, kind ∈ Cell.mySqlIntegers.map Kind.integer ++ [.truth] := by
  decide

theorem kindsOf_mySqlFloat : ∀ pair ∈ floatTypes, pair.1 = .mySql →
    kindsOf .mySql pair.2 = [.double, .single] := by decide

theorem kindsOf_mySqlText : ∀ pair ∈ textTypes, pair.1 = .mySql → pair ∉ lostTypes →
    kindsOf .mySql pair.2 = [.text, .octets] := by decide

theorem time?_negative (negative : Bool) (time : WrittenTime) :
    Time.Reading.time? (String.ofList (if negative then '-' :: time.chars else time.chars)) =
      if !negative && time.hour < 24 then some time.timeOfDay else none := by
  cases negative with
  | true => exact Time.Reading.time?_minus time
  | false =>
    rw [if_neg (by decide), Time.Reading.time?_written]
    by_cases within : time.hour < 24
    · simp [within]
    · simp [within]

section MySql

variable {type : String} {octets : List UInt8} {stored : Stored}

def mySqlCell (type : String) (octets : List UInt8) : standardMySql.Cell :=
  ⟨type, some (.octets octets)⟩

theorem reads_of_given (given : Given (TextForm.mySql? · octets) stored (kindsOf .mySql type)) :
    Reads .mySql (mySqlCell type octets) stored := by
  refine ⟨_, rfl, ?_⟩
  rw [taken_of_documented (documented_mySql _)]
  exact given

theorem reads_of_only {kind : Kind} (only : kindsOf .mySql type = [kind])
    (gives : TextForm.mySql? kind octets = stored.fit? kind) :
    Reads .mySql (mySqlCell type octets) stored := by
  apply reads_of_given
  rw [only]
  exact ⟨gives, fun _ => trivial⟩

theorem mySql?_encode {α : Type} (read : String → Option α) (chars : List Char) :
    (TextForm.characters? (encode chars)).bind read = read (String.ofList chars) := by
  rw [characters?_encode, Option.bind_some]

theorem reads_integers (listed : type ∈ signedTypes ++ unsignedTypes) (zeros : Nat)
    (value : Json.Integer) :
    Reads .mySql (mySqlCell type (encode (integerChars zeros value.value))) (.integer value) := by
  apply reads_of_given
  apply given_of_forall
  intro kind member
  rcases List.mem_append.mp (kindsOf_integers type listed kind member) with integer | truth
  · rcases List.mem_map.mp integer with ⟨other, -, rfl⟩
    exact (mySql?_encode _ _).trans (TextForm.integer?_integerChars other zeros value.value)
  · rw [List.mem_singleton.mp truth]
    exact congrArg (Option.map _)
      ((mySql?_encode _ _).trans (TextForm.integer?_integerChars .int8 zeros value.value))

theorem reads_mySql (stores : Stores .mySql type stored) (form : MySqlForm stored octets) :
    Reads .mySql (mySqlCell type octets) stored := by
  by_cases lost : (Engine.mySql, type) ∈ lostTypes
  · apply reads_of_given
    rw [kindsOf_lost (_, _) lost]
    trivial
  cases stores with
  | signed listed holds =>
    cases form with
    | integer zeros => exact reads_integers (List.mem_append_left _ listed) zeros _
  | unsigned listed holds =>
    cases form with
    | integer zeros => exact reads_integers (List.mem_append_right _ listed) zeros _
  | year => exact absurd (by decide) lost
  | flag value =>
    cases form with
    | flag =>
      refine reads_of_only kindsOf_flag ?_
      exact congrArg (Option.map _)
        ((mySql?_encode _ _).trans (TextForm.integer?_integerChars .int8 0 value))
  | number listed value =>
    cases form with
    | number numeral =>
      have read : TextForm.mySql? .double (encode numeral.chars) = some (numeral.reading .double) :=
        (mySql?_encode (TextForm.float? .double) _).trans (TextForm.float?_chars numeral .double)
      apply reads_of_given
      rw [kindsOf_mySqlFloat _ listed rfl]
      exact given_cons read rfl _
  | decimal listed value =>
    cases form with
    | decimal chars =>
      exact reads_of_only (kindsOf_decimal (_, _) listed) (characters?_encode chars)
  | text listed value =>
    cases form with
    | text chars =>
      apply reads_of_given
      rw [kindsOf_mySqlText _ listed rfl lost]
      exact given_cons (characters?_encode chars) rfl _
  | garbled listed noText =>
    cases form with
    | octets =>
      apply reads_of_given
      rw [(kindsOf_characters _ listed lost).1]
      exact ⟨rfl, fun _ => ⟨rfl, fun _ => trivial⟩⟩
  | octets listed =>
    cases form with
    | octets => exact reads_of_only (kindsOf_octets (_, _) listed lost).1 rfl
  | document listed value =>
    cases form with
    | document means =>
      exact reads_of_only (kindsOf_document (_, _) listed) ((mySql?_encode _ _).trans means)
  | date apart value =>
    cases form with
    | date date =>
      exact reads_of_only (kindsOf_temporal apart).1
        ((mySql?_encode _ _).trans (Time.Reading.date?_chars date))
  | time apart value =>
    cases form with
    | time negative time =>
      exact reads_of_only (kindsOf_temporal apart).2
        ((mySql?_encode _ _).trans (time?_negative negative time))
  | moment listed value =>
    cases form with
    | moment date within =>
      exact reads_of_only (kindsOf_moment (_, _) listed)
        ((mySql?_encode _ _).trans (Time.Reading.moment?_chars date within))
  | instant listed value =>
    cases form with
    | instant date within =>
      exact reads_of_only (kindsOf_instant (_, _) listed)
        ((mySql?_encode _ _).trans (Time.Reading.moment?_chars date within))

end MySql

end Driver

end SqlGateway
