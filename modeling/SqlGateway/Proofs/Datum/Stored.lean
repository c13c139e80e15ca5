import Mathlib.Data.List.Basic
import SqlGateway.Datum.Decode

/-!
# Cells as requests one after the other

Whatever the category of a type, the decoder of a cell comes down to a list of kinds, `asked`: the
cell shows the first value that the library gives. A library that reads a cell as a stored value
(`Driver.Reads`) gives it as the first of these kinds that it takes the cell for and that fits the
value. So a value is shown as null exactly if there is no such kind (`Driver.isNull_iff`), and a
whole number is shown as itself by whichever kind fits it (`Driver.shown_integer`).
-/

namespace SqlGateway

open Json (Value)
open Number (FloatReading)

/-! ## Stored values -/

/-- A value in a column. Dates and times are the ones that a client library has for them, if it has
one. -/
inductive Stored where
  | integer (value : Json.Integer)
  /-- A truth value kept as a whole number. -/
  | flag (value : Int)
  | number (value : FloatReading)
  | decimal (text : String)
  | truth (value : Bool)
  | text (text : String)
  | octets (octets : List UInt8)
  | document (document : Value)
  | uuid (uuid : Uuid)
  | date (date : Option Time.Date)
  | time (time : Option Time.TimeOfDay)
  | moment (moment : Option Time.Moment)
  | instant (moment : Option Time.Moment)
  /-- A value that none of the kinds stands for, such as an interval. -/
  | other

namespace Stored

def fit? : Stored → (kind : Kind) → Option kind.Denote
  | .integer value, .integer type => type.ofInt? value.value
  | .integer value, .truth =>
    (IntegerType.int8.ofInt? value.value).map fun member => decide (member.value ≠ 0)
  | .flag value, .truth =>
    (IntegerType.int8.ofInt? value).map fun member => decide (member.value ≠ 0)
  | .number value, .single | .number value, .double => some value
  | .decimal value, .text => some value
  | .truth value, .truth => some value
  | .text value, .text => some value
  | .text value, .octets => some (Text.Utf8.encode value.toList)
  | .octets value, .octets => some value
  | .octets value, .text => (Text.Utf8.decode? value).map String.ofList
  | .document value, .document => some value
  | .uuid value, .uuid => some value
  | .date value, .date => value
  | .time value, .time => value
  | .moment value, .moment => value
  | .instant value, .instant => value
  | _, _ => none

def toJson? : Stored → Option Value
  | .integer value => some (.ofInteger value)
  | .flag value => (IntegerType.int8.ofInt? value).map fun member => .bool (member.value ≠ 0)
  | .number value => some (.ofReading value)
  | .decimal value | .text value => some (.string value)
  | .truth value => some (.bool value)
  | .octets value => some (.ofOctets value)
  | .document value => some value
  | .uuid value => some (.string value.text)
  | .date value => value.map (Kind.toJson .date)
  | .time value => value.map (Kind.toJson .time)
  | .moment value => value.map (Kind.toJson .moment)
  | .instant value => value.map (Kind.toJson .instant)
  | .other => none

end Stored

namespace Driver

/-! ## Requests -/

/-- The kinds that a cell is asked for, in order, by the name of its type. -/
def asked (engine : Engine) (typeName : String) : List Kind :=
  match engine, TypeCategory.ofTypeName typeName engine with
  | .sqlServer, _ => []
  | _, .decimal => [.text]
  | .postgres, .integer => Cell.postgresIntegers.map .integer
  | .mySql, .integer => Cell.mySqlIntegers.map .integer ++ [.truth]
  | _, .boolean => [.truth]
  | _, .float => [.double, .single]
  | _, .binary => [.octets]
  | _, .json => [.document]
  | .postgres, .uuid => [.uuid]
  | .postgres, .temporal => [Cell.postgresTemporal typeName]
  | .mySql, .temporal => [Cell.mySqlTemporal typeName, .text, .octets]
  | .postgres, .text | .postgres, .unknown => [.text]
  | .mySql, .uuid | .mySql, .text | .mySql, .unknown => [.text, .octets]

def isDecimal (engine : Engine) (typeName : String) : Bool :=
  match engine with
  | .postgres => Cell.postgresDecimal typeName
  | .mySql => Cell.mySqlDecimal typeName
  | .sqlServer => false

/-- Whether a cell of a type is taken for a kind. Decimal numbers are taken by their names. -/
def takes (driver : Driver) (engine : Engine) (type : driver.TypeInfo) (kind : Kind) : Bool :=
  if TypeCategory.ofTypeName (driver.typeName type) engine = .decimal then
    isDecimal engine (driver.typeName type)
  else driver.accepts kind type

def shows (engine : Engine) (typeName : String) : (kind : Kind) → kind.Denote → Value
  | .octets, octets =>
    if engine = .mySql ∧ TypeCategory.ofTypeName typeName engine ≠ .binary then
      Cell.looseText octets
    else .ofOctets octets
  | kind, value => kind.toJson value

theorem shows_eq {engine : Engine} {typeName : String} {kind : Kind} (other : kind ≠ .octets)
    (value : kind.Denote) : shows engine typeName kind value = kind.toJson value := by
  cases kind with
  | octets => exact absurd rfl other
  | integer | truth | single | double | text | document | uuid | date | time | moment | instant =>
    rfl

namespace Cell

variable {driver : Driver} (cell : driver.Cell)

def answer (engine : Engine) (kind : Kind) : Option Value :=
  (cell.request (driver.takes engine cell.type kind) (driver.decode kind cell.type)).value?.map
    (shows engine cell.typeName kind)

def shown (engine : Engine) : Value :=
  ((asked engine cell.typeName).findSome? (cell.answer engine)).getD .null

/-! ### Decoders -/

section Category

variable {engine : Engine} {category : TypeCategory}
  (found : TypeCategory.ofTypeName cell.typeName engine = category)

include found

theorem answer_eq_get (other : category ≠ .decimal) (kind : Kind) :
    cell.answer engine kind = (cell.get kind).value?.map (shows engine cell.typeName kind) := by
  rw [answer, takes, ← typeName, found, if_neg other, get]

theorem first?_eq (other : category ≠ .decimal) {kinds : List Kind} (noOctets : .octets ∉ kinds) :
    cell.first? kinds = kinds.findSome? (cell.answer engine) := by
  induction kinds with
  | nil => rfl
  | cons kind kinds induction =>
    rw [List.mem_cons, not_or] at noOctets
    have same : (cell.get kind).value?.map kind.toJson = cell.answer engine kind := by
      rw [cell.answer_eq_get found other]
      cases (cell.get kind).value? with
      | none => rfl
      | some value => exact congrArg some (shows_eq (Ne.symm noOctets.1) value).symm
    have rest := induction noOctets.2
    rw [first?] at rest
    rw [first?, List.findSome?_cons, List.findSome?_cons, same, rest]

theorem first_eq (other : category ≠ .decimal) {kinds : List Kind} (noOctets : .octets ∉ kinds) :
    cell.first kinds = (kinds.findSome? (cell.answer engine)).getD .null := by
  rw [first, cell.first?_eq found other noOctets]

theorem first_octets (binary : category = .binary) :
    cell.first [.octets] = ([Kind.octets].findSome? (cell.answer engine)).getD .null := by
  subst binary
  have plain : shows engine cell.typeName .octets = Kind.toJson .octets :=
    funext fun octets => if_neg fun loose => loose.2 found
  rw [first, first?, List.findSome?_singleton, List.findSome?_singleton,
    cell.answer_eq_get found nofun, plain]

theorem decimal_eq (decimal : category = .decimal) :
    cell.decimal (isDecimal engine cell.typeName) =
      ([Kind.text].findSome? (cell.answer engine)).getD .null := by
  rw [List.findSome?_singleton, answer, takes, ← typeName, found, if_pos decimal]
  rfl

theorem mySqlText_eq (isMySql : engine = .mySql) (noOctets : category ≠ .binary)
    (other : category ≠ .decimal) :
    cell.mySqlText = ([Kind.text, .octets].findSome? (cell.answer engine)).getD .null := by
  have loose : shows engine cell.typeName .octets = looseText :=
    funext fun octets => if_pos ⟨isMySql, by rwa [found]⟩
  rw [mySqlText, List.findSome?_cons, List.findSome?_singleton, cell.answer_eq_get found other,
    cell.answer_eq_get found other, loose]
  cases (cell.get .text).value? with
  | none => rfl
  | some text => rfl

end Category

section Content

variable {raw : driver.Raw} (content : cell.content = some raw)

include content

theorem get_ne_absent (kind : Kind) : cell.get kind ≠ .absent := by
  rw [get, request, content]
  simp only
  split
  · cases driver.decode kind cell.type raw <;> exact nofun
  · exact nofun

theorem integer_eq (types : List IntegerType) (otherwise : Value) :
    cell.integer types otherwise = (cell.first? (types.map .integer)).getD otherwise := by
  rw [integer]
  cases asked : cell.get (.integer .int64) with
  | absent => exact absurd asked (cell.get_ne_absent content _)
  | refused | found => rfl

theorem temporal_eq (kind : Kind) (otherwise : Value) :
    cell.temporal kind otherwise = (cell.first? [kind]).getD otherwise := by
  rw [temporal, first?, List.findSome?_singleton]
  cases asked : cell.get kind with
  | absent => exact absurd asked (cell.get_ne_absent content _)
  | refused | found => rfl

theorem postgres_eq : cell.postgres = cell.shown .postgres := by
  unfold postgres shown asked
  cases found : TypeCategory.ofTypeName cell.typeName .postgres with
  | decimal => exact cell.decimal_eq found rfl
  | integer => exact (cell.integer_eq content _ _).trans (cell.first_eq found nofun (by decide))
  | binary => exact cell.first_octets found rfl
  | temporal =>
    have noOctets : .octets ∉ [postgresTemporal cell.typeName] := by
      unfold postgresTemporal
      split <;> decide
    exact (cell.temporal_eq content _ _).trans (cell.first_eq found nofun noOctets)
  | boolean | float | json | uuid | text | unknown =>
    exact cell.first_eq found nofun (by decide)

theorem mySql_eq : cell.mySql = cell.shown .mySql := by
  unfold mySql shown asked
  cases found : TypeCategory.ofTypeName cell.typeName .mySql with
  | decimal => exact cell.decimal_eq found rfl
  | integer =>
    change cell.integer mySqlIntegers (cell.first [.truth]) = _
    rw [cell.integer_eq content, cell.first_eq found nofun (by decide),
      cell.first?_eq found nofun (by decide), ← Option.getD_or, ← List.findSome?_append]
  | binary => exact cell.first_octets found rfl
  | temporal =>
    have noOctets : .octets ∉ [mySqlTemporal cell.typeName] := by
      unfold mySqlTemporal
      split <;> decide
    change cell.temporal (mySqlTemporal cell.typeName) cell.mySqlText = _
    rw [cell.temporal_eq content, cell.mySqlText_eq found rfl nofun nofun,
      cell.first?_eq found nofun noOctets, ← Option.getD_or, ← List.findSome?_append]
    rfl
  | uuid | text | unknown => exact cell.mySqlText_eq found rfl nofun nofun
  | boolean | float | json => exact cell.first_eq found nofun (by decide)

end Content

end Cell

/-! ## Readings of stored values -/

def Cell.taken {driver : Driver} (engine : Engine) (cell : driver.Cell) : List Kind :=
  (asked engine cell.typeName).filter (driver.takes engine cell.type)

/-- A value is given as the kinds of a list that fit it, up to the first of them. -/
def Given (give : (kind : Kind) → Option kind.Denote) (stored : Stored) : List Kind → Prop
  | [] => True
  | kind :: kinds =>
    give kind = stored.fit? kind ∧ (stored.fit? kind = none → Given give stored kinds)

/-- A cell holds a value, and the library gives it as what the cell is taken for. -/
def Reads {driver : Driver} (engine : Engine) (cell : driver.Cell) (stored : Stored) : Prop :=
  ∃ raw, cell.content = some raw ∧
    Given (fun kind => driver.decode kind cell.type raw) stored (cell.taken engine)

theorem given_of_forall {give : (kind : Kind) → Option kind.Denote} {stored : Stored}
    {kinds : List Kind} (each : ∀ kind ∈ kinds, give kind = stored.fit? kind) :
    Given give stored kinds := by
  induction kinds with
  | nil => trivial
  | cons kind kinds induction =>
    rw [List.forall_mem_cons] at each
    exact ⟨each.1, fun _ => induction each.2⟩

theorem given_cons {give : (kind : Kind) → Option kind.Denote} {stored : Stored} {kind : Kind}
    {value : kind.Denote} (gives : give kind = some value) (fits : stored.fit? kind = some value)
    (kinds : List Kind) : Given give stored (kind :: kinds) := by
  refine ⟨gives.trans fits.symm, fun unfit => ?_⟩
  rw [fits] at unfit
  cases unfit

theorem findSome?_given {give : (kind : Kind) → Option kind.Denote} {stored : Stored}
    {kinds : List Kind} (given : Given give stored kinds)
    (display : (kind : Kind) → kind.Denote → Value) :
    (kinds.findSome? fun kind => (give kind).map (display kind)) =
      kinds.findSome? fun kind => (stored.fit? kind).map (display kind) := by
  induction kinds with
  | nil => rfl
  | cons kind kinds induction =>
    rw [List.findSome?_cons, List.findSome?_cons, given.1]
    cases fits : stored.fit? kind with
    | none => exact induction (given.2 fits)
    | some value => rfl

section Reads

variable {driver : Driver} {engine : Engine} {cell : driver.Cell} {stored : Stored}

theorem shown_of_reads (reads : Reads engine cell stored) :
    cell.shown engine = ((cell.taken engine).findSome? fun kind =>
      (stored.fit? kind).map (shows engine cell.typeName kind)).getD .null := by
  rcases reads with ⟨raw, content, given⟩
  have answers : ∀ kind ∈ asked engine cell.typeName, cell.answer engine kind =
      if driver.takes engine cell.type kind then
        (driver.decode kind cell.type raw).map (shows engine cell.typeName kind)
      else none := by
    intro kind _
    rw [Cell.answer, Cell.request, content]
    simp only
    split
    · cases driver.decode kind cell.type raw <;> rfl
    · rfl
  rw [← findSome?_given given, Cell.shown, Cell.taken, ← List.head?_filterMap,
    ← List.head?_filterMap, List.filterMap_filter, List.filterMap_congr answers]

/-! ### What is shown as null -/

theorem toJson_ne_null {kind : Kind} (other : kind ≠ .document) (value : kind.Denote) :
    kind.toJson value ≠ .null := by
  cases kind with
  | document => exact absurd rfl other
  | single | double => cases value <;> exact nofun
  | integer | truth | text | octets | uuid | date | time | moment | instant => exact nofun

theorem looseText_ne_null (octets : List UInt8) : Cell.looseText octets ≠ .null := by
  unfold Cell.looseText
  split <;> exact nofun

theorem shows_eq_null_iff (engine : Engine) (typeName : String) {kind : Kind}
    (value : kind.Denote) :
    shows engine typeName kind value = .null ↔ kind.toJson value = .null := by
  by_cases octets : kind = .octets
  · subst octets
    have plain : Kind.octets ≠ .document := nofun
    rw [shows]
    split
    · exact iff_of_false (looseText_ne_null value) (toJson_ne_null plain value)
    · rfl
  · rw [shows_eq octets]

theorem asked_of_document {typeName : String} (member : .document ∈ asked engine typeName) :
    asked engine typeName = [.document] := by
  have temporal : Cell.postgresTemporal typeName ≠ .document ∧
      Cell.mySqlTemporal typeName ≠ .document := by
    unfold Cell.postgresTemporal Cell.mySqlTemporal
    constructor <;> split <;> exact nofun
  unfold asked at member ⊢
  split <;> simp_all [Cell.postgresIntegers, Cell.mySqlIntegers]

/-- A value is shown as null exactly if the cell is taken for no kind that fits it, or if it is the
document that is null. -/
theorem isNull_iff (reads : Reads engine cell stored) :
    cell.shown engine = .null ↔ ∀ kind ∈ cell.taken engine, ∀ value,
      stored.fit? kind = some value → kind.toJson value = .null := by
  rw [shown_of_reads reads]
  constructor
  · intro null kind member value fits
    cases answered : (cell.taken engine).findSome? fun kind =>
        (stored.fit? kind).map (shows engine cell.typeName kind) with
    | none =>
      have unfit := List.findSome?_eq_none_iff.mp answered kind member
      rw [fits] at unfit
      cases unfit
    | some answer =>
      rw [answered, Option.getD_some] at null
      subst null
      rcases List.exists_of_findSome?_eq_some answered with ⟨other, taken, answer⟩
      rcases Option.map_eq_some_iff.mp answer with ⟨shown, otherFits, isNull⟩
      rw [shows_eq_null_iff] at isNull
      -- Only a document is shown as null, and then nothing else is asked for.
      have isDocument : other = .document := by
        by_contra apart
        exact toJson_ne_null apart shown isNull
      subst isDocument
      have alone := asked_of_document (List.mem_filter.mp taken).1
      have same : kind = .document := by
        have asked := (List.mem_filter.mp member).1
        rwa [alone, List.mem_singleton] at asked
      subst same
      rw [fits, Option.some.injEq] at otherFits
      rw [otherFits, isNull]
  · intro allNull
    cases answered : (cell.taken engine).findSome? fun kind =>
        (stored.fit? kind).map (shows engine cell.typeName kind) with
    | none => rfl
    | some answer =>
      rcases List.exists_of_findSome?_eq_some answered with ⟨kind, member, answer⟩
      rcases Option.map_eq_some_iff.mp answer with ⟨value, fits, rfl⟩
      exact (shows_eq_null_iff _ _ _).mpr (allNull kind member value fits)

theorem asked_of_integer {typeName : String} {type : IntegerType}
    (member : .integer type ∈ asked engine typeName) :
    ∃ types : List IntegerType, type ∈ types ∧
      ∃ rest, asked engine typeName = types.map Kind.integer ++ rest := by
  have temporal : Cell.postgresTemporal typeName ≠ .integer type ∧
      Cell.mySqlTemporal typeName ≠ .integer type := by
    unfold Cell.postgresTemporal Cell.mySqlTemporal
    constructor <;> split <;> exact nofun
  unfold asked at member ⊢
  split at member
  · cases member
  · simp at member
  · exact ⟨Cell.postgresIntegers, by simpa using member, [], (List.append_nil _).symm⟩
  · exact ⟨Cell.mySqlIntegers, by simpa using member, [.truth], rfl⟩
  all_goals simp [Ne.symm temporal.1, Ne.symm temporal.2] at member

theorem shown_integer {number : Json.Integer} (reads : Reads engine cell (.integer number))
    {type : IntegerType} (taken : .integer type ∈ cell.taken engine)
    (holds : (type.ofInt? number.value).isSome = true) :
    cell.shown engine = .ofInteger number := by
  rcases asked_of_integer (List.mem_filter.mp taken).1 with ⟨types, member, rest, split⟩
  let answer := fun kind => ((Stored.integer number).fit? kind).map
    (shows engine cell.typeName kind)
  let first := (types.map Kind.integer).filter (driver.takes engine cell.type)
  have each : ∀ kind ∈ first, ∀ value, answer kind = some value → value = .ofInteger number := by
    intro kind inside value shown
    rcases List.mem_map.mp (List.mem_filter.mp inside).1 with ⟨other, -, rfl⟩
    rcases Option.map_eq_some_iff.mp shown with ⟨found, fits, rfl⟩
    exact congrArg Value.ofInteger (IntegerType.toInteger_of_ofInt? fits)
  have answered : (first.findSome? answer).isSome = true := by
    rw [List.findSome?_isSome_iff]
    refine ⟨.integer type, ?_, ?_⟩
    · exact List.mem_filter.mpr ⟨List.mem_map_of_mem member, (List.mem_filter.mp taken).2⟩
    · rw [Option.isSome_map]
      exact holds
  rcases Option.isSome_iff_exists.mp answered with ⟨value, found⟩
  rcases List.exists_of_findSome?_eq_some found with ⟨kind, inside, shown⟩
  rw [shown_of_reads reads, Cell.taken, split, List.filter_append, List.findSome?_append, found,
    each kind inside value shown]
  rfl

end Reads

end Driver

end SqlGateway
