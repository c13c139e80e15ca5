import SqlGateway.Gateway.Change
import SqlGateway.Proofs.Row.Reading
import SqlGateway.Proofs.Server.Statements

/-!
# What an update sends

An update that changes nothing, or that is refused, leaves the session as it was. Every other one
sends a single `UPDATE` once a pool is open and the column types are known, and in it every value is
bound to its own column: `updateRow_binds`.
-/

namespace SqlGateway

/-! ## Updates among the traffic -/

def Traffic.isUpdate : Traffic → Bool
  | .statement _ sql _ => "UPDATE ".toList.isPrefixOf sql.toList
  | .connecting .. | .closing _ | .batch .. => false

def Session.updates {σ : Type} (session : Session σ) : List Traffic :=
  session.traffic.filter Traffic.isUpdate

namespace Gateway

variable {σ : Type} (backend : Backend σ)

theorem updates_log_of_not {session : Session σ} {item : Traffic} (other : item.isUpdate = false) :
    (session.log item).updates = session.updates := by
  simp [Session.updates, Session.log, other]

theorem updates_pool (connection : String) (database : Option String) (session : Session σ) :
    ((pool backend connection database).on session).2.updates = session.updates := by
  rw [pool, on_ofSession]
  split
  · rfl
  · split
    · rfl
    · next definition key cell registry found =>
      split
      · rfl
      · rw [fillCell, on_ofSession]
        generalize backend.connect definition key.database session.servers = answer
        rcases answer with ⟨failure | ⟨⟨⟩⟩, servers⟩
        · exact updates_log_of_not rfl
        · exact updates_log_of_not rfl

theorem traffic_statement {α : Type} (late : Failure) (value : List BatchItem → α) (pool : Pool)
    (sql : String) (parameters : List Parameter) (session : Session σ) :
    ((do return value (← complete late (← sendStatement backend pool sql parameters))).on
        session).2.traffic = .statement pool sql parameters :: session.traffic := by
  rw [snd_on_statement]
  rfl

theorem isPrefixOf_block (lines : List String) :
    "UPDATE ".toList.isPrefixOf (Text.block lines).toList = false := by
  rw [Text.block, String.append_assoc, String.toList_append]
  rfl

theorem updates_columnTypes (pool : Pool) (schema : Option String) (table : String)
    (session : Session σ) :
    ((columnTypes backend pool schema table).on session).2.updates = session.updates := by
  have fetched (parameters : List Parameter) :
      ((fetch backend pool Queries.PostgreSql.columnTypes parameters).on session).2.updates =
        session.updates := by
    rw [Session.updates, fetch, traffic_statement, List.filter_cons, Traffic.isUpdate,
      Queries.PostgreSql.columnTypes, isPrefixOf_block]
    rfl
  rw [columnTypes]
  split
  · rw [on_bind]
    have unchanged := fetched [pool.engine.schemaParameter schema, .string table]
    split
    · next ran =>
      rw [ran] at unchanged
      exact unchanged
    · next ran =>
      rw [ran] at unchanged
      exact unchanged
  · rfl
  · rfl

end Gateway

/-! ## One update -/

namespace RowUpdate

/-- The statement and the parameters of an update belong together: the text names the columns in
order, each against the parameter with its number, and this parameter carries the value of the
column; the column of the key comes last. -/
structure Binds (update : RowUpdate) (engine : Engine) (sql : String)
    (parameters : List Parameter) : Prop where
  reads : readUpdate engine sql =
    some ⟨update.schema <|> engine.defaultSchema, update.table, update.columns.zipIdx 1,
      (update.keyColumn, update.columns.length + 1)⟩
  count : parameters.length = update.columns.length + 1
  carries : ∀ (place : Nat) column value, update.updates.toList[place]? = some (column, value) →
    update.columns[place]? = some column ∧ parameters[place]? = some (Parameter.ofJson value)
  key : parameters[update.columns.length]? = some (Parameter.ofJson update.keyValue)

theorem checks_of_check {update : RowUpdate} (accepted : update.check = .ok ()) :
    Sql.checkName update.keyColumn = .ok () ∧
      ∀ column ∈ update.columns, Sql.checkName column = .ok () := by
  rcases Failure.bind_eq_ok_iff.mp accepted with ⟨⟨⟩, -, rest⟩
  rcases Failure.bind_eq_ok_iff.mp rest with ⟨⟨⟩, keyAccepted, rest⟩
  rcases Failure.bind_eq_ok_iff.mp rest with ⟨⟨⟩, -, columnsAccepted⟩
  exact ⟨keyAccepted, Failure.forM_eq_ok_iff.mp columnsAccepted⟩

theorem binds_render {update : RowUpdate} {engine : Engine} {types : ColumnTypes}
    (some : update.updates.isEmpty = false) (accepted : update.check = .ok ())
    (dollarless : Dollarless engine types) :
    update.Binds engine (update.render engine types) update.parameters := by
  have checked := checks_of_check accepted
  have columns : update.columns ≠ [] := by
    intro none
    have empty : update.updates.toList = [] := List.map_eq_nil_iff.mp none
    rw [Entries.isEmpty, empty] at some
    cases some
  have length : update.columns.length =
      (update.updates.toList.map fun entry => Parameter.ofJson entry.2).length := by
    simp [RowUpdate.columns, Entries.names]
  exact {
    reads := readUpdate_statement columns checked.2 checked.1 dollarless
    count := by rw [parameters, List.length_append, length]; rfl
    carries := by
      intro place column value found
      have within : place < (update.updates.toList.map fun entry =>
          Parameter.ofJson entry.2).length := by
        rw [List.length_map]
        exact (List.getElem?_eq_some_iff.mp found).1
      refine ⟨?_, ?_⟩
      · rw [RowUpdate.columns, Entries.names, List.getElem?_map, found]
        rfl
      · rw [parameters, List.getElem?_append_left within, List.getElem?_map, found]
        rfl
    key := by rw [parameters, length, List.getElem?_concat_length] }

/-- Two updates that differ at most in the values that they set and look for. -/
structure SameButValues (left right : RowUpdate) : Prop where
  database : left.database = right.database
  schema : left.schema = right.schema
  table : left.table = right.table
  keyColumn : left.keyColumn = right.keyColumn
  columns : left.columns = right.columns

namespace SameButValues

variable {left right : RowUpdate} (same : SameButValues left right)

include same

theorem isEmpty_eq : left.updates.isEmpty = right.updates.isEmpty := by
  have lengths := congrArg List.isEmpty same.columns
  simpa [RowUpdate.columns, Entries.names, Entries.isEmpty] using lengths

theorem check_eq : left.check = right.check := by
  have columns : left.updates.names = right.updates.names := same.columns
  rw [check, check, same.table, same.keyColumn, same.schema, columns]

theorem render_eq (engine : Engine) (types : ColumnTypes) :
    left.render engine types = right.render engine types := by
  rw [render, render, same.schema, same.table, same.keyColumn, same.columns]

end SameButValues

end RowUpdate

namespace Gateway

variable {σ : Type} (backend : Backend σ) (connection : String)

def prepareUpdate (update : RowUpdate) : Gateway σ (Pool × Entries String) := do
  let pool ← pool backend connection update.database
  let types ← columnTypes backend pool (update.schema <|> pool.engine.defaultSchema) update.table
  return (pool, types)

theorem updates_prepareUpdate (update : RowUpdate) (session : Session σ) :
    ((prepareUpdate backend connection update).on session).2.updates = session.updates := by
  have opened := updates_pool backend connection update.database session
  rw [prepareUpdate, on_bind]
  split
  · next pool after ran =>
    rw [ran] at opened
    rw [snd_on_bind_pure, updates_columnTypes]
    exact opened
  · next ran =>
    rw [ran] at opened
    exact opened

theorem on_updateRow_of_empty {update : RowUpdate} (none : update.updates.isEmpty = true)
    (session : Session σ) :
    (updateRow backend connection update).on session = (.ok .unchanged, session) := by
  rw [updateRow, if_pos none]
  rfl

variable {backend connection} {update : RowUpdate} {session : Session σ}

theorem on_updateRow_of_refused {failure : Failure} (some : update.updates.isEmpty = false)
    (refused : update.check = .error failure) :
    (updateRow backend connection update).on session = (.error failure, session) := by
  have checked : (Gateway.lift update.check).on session = (.error failure, session) := by
    rw [on_lift, refused]
  rw [updateRow, some]
  exact on_bind_of_error _ checked

section Accepted

variable (some : update.updates.isEmpty = false) (accepted : update.check = .ok ())

include some accepted

theorem on_updateRow :
    (updateRow backend connection update).on session =
      (do
        let (pool, types) ← prepareUpdate backend connection update
        return RowOutcome.updated (← write backend pool (update.render pool.engine types.toList)
          update.parameters)).on session := by
  have checked : (Gateway.lift update.check).on session = (.ok (), session) := by
    rw [on_lift, accepted]
  rw [updateRow, some]
  refine (on_bind_of_ok _ checked).trans ?_
  rw [on_bind, on_bind, prepareUpdate, on_bind]
  rcases (pool backend connection update.database).on session with ⟨failure | pool, opened⟩
  · rfl
  · simp only
    rw [on_bind, on_bind]
    rcases (columnTypes backend pool (update.schema <|> pool.engine.defaultSchema)
      update.table).on opened with ⟨failure | types, described⟩
    · rfl
    · rfl

theorem on_updateRow_of_unprepared {failure : Failure} {after : Session σ}
    (unprepared : (prepareUpdate backend connection update).on session = (.error failure, after)) :
    (updateRow backend connection update).on session = (.error failure, after) := by
  rw [on_updateRow some accepted]
  exact on_bind_of_error _ unprepared

theorem updates_updateRow {pool : Pool} {types : Entries String} {after : Session σ}
    (prepared : (prepareUpdate backend connection update).on session = (.ok (pool, types), after)) :
    ((updateRow backend connection update).on session).2.updates =
      .statement pool (update.render pool.engine types.toList) update.parameters ::
        session.updates := by
  have before := updates_prepareUpdate backend connection update session
  rw [prepared] at before
  have begins : "UPDATE ".toList.isPrefixOf
      (update.render pool.engine types.toList).toList = true := by
    rw [List.isPrefixOf_iff_prefix, RowUpdate.render, RowUpdate.statement]
    simp only [String.toList_append, List.append_assoc]
    exact List.prefix_append _ _
  rw [on_updateRow some accepted, on_bind_of_ok _ prepared, Session.updates, snd_on_bind_pure,
    write, traffic_statement, List.filter_cons, Traffic.isUpdate, begins, ← before]
  rfl

end Accepted

/-- An update sends nothing when it changes nothing or is refused, and no `UPDATE` when no pool can
be opened or the column types cannot be told. Otherwise it sends one `UPDATE`, in which every value
is bound to its own column, and whose text depends on the values in nothing. -/
theorem updateRow_binds (backend : Backend σ) (connection : String) (update : RowUpdate)
    (session : Session σ) :
    (update.updates.isEmpty = true →
      (updateRow backend connection update).on session = (.ok .unchanged, session)) ∧
    (update.updates.isEmpty = false →
      (∀ failure, update.check = .error failure →
        (updateRow backend connection update).on session = (.error failure, session)) ∧
      (update.check = .ok () →
        (∀ failure after,
          (prepareUpdate backend connection update).on session = (.error failure, after) →
          (updateRow backend connection update).on session = (.error failure, after) ∧
            after.updates = session.updates) ∧
        ∀ pool types after,
          (prepareUpdate backend connection update).on session = (.ok (pool, types), after) →
          RowUpdate.Dollarless pool.engine types.toList →
          ∃ sql, update.Binds pool.engine sql update.parameters ∧
            ((updateRow backend connection update).on session).2.updates =
              .statement pool sql update.parameters :: session.updates ∧
            ∀ other : RowUpdate, other.SameButValues update →
              ((updateRow backend connection other).on session).2.updates =
                .statement pool sql other.parameters :: session.updates)) := by
  refine ⟨fun none => on_updateRow_of_empty backend connection none session, fun some => ⟨?_, ?_⟩⟩
  · intro failure refused
    exact on_updateRow_of_refused some refused
  · intro accepted
    refine ⟨?_, ?_⟩
    · intro failure after unprepared
      have before := updates_prepareUpdate backend connection update session
      rw [unprepared] at before
      exact ⟨on_updateRow_of_unprepared some accepted unprepared, before⟩
    · intro pool types after prepared dollarless
      refine ⟨update.render pool.engine types.toList, ?binds, ?sent, ?others⟩
      case binds => exact RowUpdate.binds_render some accepted dollarless
      case sent => exact updates_updateRow some accepted prepared
      case others =>
        intro other same
        have prepare : prepareUpdate backend connection other =
            prepareUpdate backend connection update := by
          rw [prepareUpdate, prepareUpdate, same.database, same.schema, same.table]
        rw [← prepare] at prepared
        rw [← same.render_eq]
        exact updates_updateRow (same.isEmpty_eq.trans some) (same.check_eq.trans accepted) prepared

end Gateway

def Backend.answering (items : List BatchItem) : Backend Unit where
  connect _ _ _ := (.ok (), ())
  close _ _ := (true, ())
  batch _ _ _ := (⟨items, .complete⟩, ())
  execute _ _ _ _ := (⟨items, .complete⟩, ())
  describe _ _ _ := (none, ())
  querySeconds := 1

theorem Gateway.updateRow_binds_cast :
    let definition : Definition :=
      ⟨"c", .postgres, "h", none, none, none, none, false, false, false, .standard⟩
    let session : Session Unit := { Session.start () with
      registry := { Registry.empty with definitions := Entries.empty.insert "c" definition } }
    let pool : Pool := ⟨0, definition, none⟩
    let backend := Backend.answering [.row ⟨[(⟨"name", "name"⟩, .text "a"),
      (⟨"column_type", "text"⟩, .text "numeric(10, 2)")]⟩]
    let update := ((RowUpdate.ofKey "t" "id" (.ofNat 7)).set "a" .null).set "b" (.bool true)
    update.updates.isEmpty = false ∧ update.check = .ok () ∧
      ∃ types after, (prepareUpdate backend "c" update).on session = (.ok (pool, types), after) ∧
        RowUpdate.Dollarless .postgres types.toList ∧
        ∃ sql, update.Binds .postgres sql update.parameters ∧
          ((updateRow backend "c" update).on session).2.updates =
            [.statement pool sql update.parameters] := by
  intro definition session pool backend update
  have some : update.updates.isEmpty = false := by decide
  have accepted : update.check = .ok () := by decide
  have prepared : (prepareUpdate backend "c" update).on session =
      (.ok (pool, Entries.empty.insert "a" "numeric(10, 2)"), _) := rfl
  have dollarless : RowUpdate.Dollarless .postgres [("a", "numeric(10, 2)")] := by
    intro _ entry member
    rw [List.mem_singleton.mp member]
    decide
  have binds := ((updateRow_binds backend "c" update session).2 some).2 accepted
  rcases binds.2 pool _ _ prepared dollarless with ⟨sql, bound, sent, -⟩
  exact ⟨some, accepted, _, _, prepared, dollarless, sql, bound, sent⟩

end SqlGateway
