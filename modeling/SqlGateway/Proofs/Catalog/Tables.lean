import SqlGateway.Proofs.Catalog.Answer
import SqlGateway.Proofs.Catalog.Spot
import SqlGateway.Proofs.Node.Path
import SqlGateway.Proofs.Server.Statements

/-!
# Ids that have columns

Columns are listed for an id that leads to a table or view, and a table or view need not stand at
the end of the id for that: names of databases, schemas and folders may follow it, and a column
anywhere in the id rules it out. So an id can have columns and be of another kind, and the other way
round: `columns_asked_iff` says when the two agree.
-/

namespace SqlGateway

open Node (Segment last)

namespace Node

/-- A path leads to a table or view when no other table, view or function stands behind it, and no
column stands anywhere. -/
def LeadsTo (path : List Segment) (name : String) : Prop :=
  (∃ front segment back, path = front ++ segment :: back ∧ segment.table? = some name ∧
    ∀ other ∈ back, other.object? = none) ∧
  ∀ segment ∈ path, segment.column? = none

def ColumnBefore (path : List Segment) : Prop :=
  ∃ front segment, path = front ++ [segment] ∧ segment.table? ≠ none ∧
    ∃ other ∈ front, other.column? ≠ none

def HolderBehind (path : List Segment) : Prop :=
  ∃ front segment, path = front ++ [segment] ∧ segment.object? = none ∧
    ∃ name, LeadsTo front name ∧ segment.column? = none

namespace Segment

theorem eq_of_object? {segment object : Segment} (found : segment.object? = some object) :
    segment = object := by
  cases segment <;> cases found <;> rfl

theorem object?_of_table? {segment : Segment} {name : String}
    (found : segment.table? = some name) : segment.object? = some segment := by
  cases segment <;> first | rfl | cases found

end Segment

section Leads

variable {path : List Segment} {name : String}

theorem leadsTo_iff :
    LeadsTo path name ↔
      (∃ object, last Segment.object? path = some object ∧ object.table? = some name) ∧
        last Segment.column? path = none := by
  rw [LeadsTo, last_eq_none_iff]
  refine and_congr_left' ⟨?_, ?_⟩
  · rintro ⟨front, segment, back, split, found, none⟩
    have object := Segment.object?_of_table? found
    exact ⟨segment, last_eq_some_iff.mpr ⟨front, segment, back, split, object, none⟩, found⟩
  · rintro ⟨object, last, found⟩
    rcases last_eq_some_iff.mp last with ⟨front, segment, back, split, same, none⟩
    rw [← Segment.eq_of_object? same] at found
    exact ⟨front, segment, back, split, found, none⟩

theorem Path.tableOf_eq_ok_iff {node : String} {schema : Option String} {addressed : Path}
    (read : segments node = .ok path) (found : ofId node schema = .ok addressed) :
    addressed.tableOf node = .ok name ↔ LeadsTo path name := by
  rw [ofId_eq read, Except.ok.injEq] at found
  subst found
  rw [leadsTo_iff, tableOf]
  dsimp only
  split
  · next object column => simp [object, column, Segment.table?, eq_comm]
  · next object column => simp [object, column, Segment.table?, eq_comm]
  · next tables views =>
    refine iff_of_false nofun ?_
    rintro ⟨⟨object, last, named⟩, column⟩
    cases object with
    | table => exact tables _ last column
    | view => exact views _ last column
    | _ => cases named

theorem Path.tableOf_eq_error {node : String} {addressed : Path}
    (other : ∀ name, addressed.tableOf node ≠ .ok name) :
    addressed.tableOf node = .error (.node node .notATable) := by
  rw [tableOf] at other ⊢
  split
  · next object column => exact absurd (by rw [object, column]) (other _)
  · next object column => exact absurd (by rw [object, column]) (other _)
  · rfl

/-! ## The last segment -/

variable {front : List Segment} {segment : Segment}

theorem columnBefore_concat :
    ColumnBefore (front ++ [segment]) ↔
      segment.table? ≠ none ∧ last Segment.column? front ≠ none := by
  have column : last Segment.column? front ≠ none ↔ ∃ other ∈ front, other.column? ≠ none := by
    rw [ne_eq, last_eq_none_iff]
    simp
  rw [column]
  constructor
  · rintro ⟨earlier, ends, split, table, found⟩
    rcases List.append_inj' split rfl with ⟨rfl, same⟩
    cases same
    exact ⟨table, found⟩
  · rintro ⟨table, found⟩
    exact ⟨front, segment, rfl, table, found⟩

theorem holderBehind_concat :
    HolderBehind (front ++ [segment]) ↔
      segment.object? = none ∧ segment.column? = none ∧ ∃ name, LeadsTo front name := by
  constructor
  · rintro ⟨earlier, ends, split, object, name, leads, column⟩
    rcases List.append_inj' split rfl with ⟨rfl, same⟩
    cases same
    exact ⟨object, column, name, leads⟩
  · rintro ⟨object, column, name, leads⟩
    exact ⟨front, segment, rfl, object, name, leads, column⟩

theorem leadsTo_concat :
    LeadsTo (front ++ [segment]) name ↔
      (∃ object, segment.object?.or (last Segment.object? front) = some object ∧
        object.table? = some name) ∧
      segment.column? = none ∧ last Segment.column? front = none := by
  rw [leadsTo_iff, last_concat, last_concat, Option.or_eq_none_iff]

/-- Whether a path leads to a table or view is told by its last segment, but for two sorts of
paths. -/
theorem leads_iff_kind (path : List Segment) :
    ((∃ name, LeadsTo path name) ↔
        ∃ segment, path.getLast? = some segment ∧
          (segment.kind = .table ∨ segment.kind = .view)) ↔
      ¬ColumnBefore path ∧ ¬HolderBehind path := by
  rcases List.eq_nil_or_concat' path with rfl | ⟨front, segment, rfl⟩
  · simp [LeadsTo, ColumnBefore, HolderBehind]
  · rw [columnBefore_concat, holderBehind_concat, List.getLast?_concat]
    simp only [leadsTo_concat, Option.some.injEq, exists_eq_left']
    cases segment <;>
      simp [Segment.object?, Segment.table?, Segment.column?, Segment.kind, leadsTo_iff]

theorem last_database_ne_empty {id : String} (read : segments id = .ok path) :
    last Segment.database? path ≠ some "" := by
  intro empty
  rcases last_eq_some_iff.mp empty with ⟨front, segment, back, rfl, found, -⟩
  have named := value_ne_empty_of_segments read segment (by simp)
  cases segment <;> cases found
  exact named rfl

end Leads

end Node

/-! ## Asking for columns -/

namespace Gateway

variable {σ : Type} (backend : Backend σ)

theorem snd_on_fetch (pool : Pool) (sql : String) (parameters : List Parameter)
    (before : Session σ) :
    ((fetch backend pool sql parameters).on before).2 =
      before.sending backend pool sql parameters :=
  snd_on_statement backend brokenLine (Batch.answerRows pool.engine) pool sql parameters before

theorem exists_on_listColumns (pool : Pool) (schema : Option String) (table : String)
    (id : Node.Id) (before : Session σ) :
    ∃ outcome, (listColumns backend pool schema table id).on before =
      (outcome, before.sending backend pool pool.engine.queries.columns
        (pool.engine.columnParameters schema table)) := by
  have sent := snd_on_fetch backend pool pool.engine.queries.columns
    (pool.engine.columnParameters schema table) before
  rcases ran : (fetch backend pool pool.engine.queries.columns
    (pool.engine.columnParameters schema table)).on before with ⟨failure | rows, after⟩
  · rw [ran] at sent
    rw [listColumns, on_bind_of_error _ ran, ← sent]
    exact ⟨_, rfl⟩
  · rw [ran] at sent
    rw [listColumns, on_bind_of_ok _ ran, ← sent]
    cases rows.mapM (CatalogRows.column pool.engine) with
    | error failure => exact ⟨_, rfl⟩
    | ok columns => cases columns <;> exact ⟨_, rfl⟩

section Registered

variable {connection : String} {definition : Definition} {session : Session σ} {node : String}
  {path : List Segment}

theorem on_columns_of_none (known : session.registry.definitions.find? connection = some definition)
    (none : ∀ path name, Node.segments node = .ok path → ¬Node.LeadsTo path name) :
    ∃ problem, (columns backend connection node).on session =
      (.error (.node node problem), session) := by
  rw [columns, on_bind_of_ok _ (on_ask_definition known)]
  cases read : Node.segments node with
  | error failure =>
    rcases Node.exists_of_segments_error read with ⟨problem, rfl⟩
    rw [Node.Path.ofId, read, on_bind_of_error _ (on_lift _ _)]
    exact ⟨problem, rfl⟩
  | ok path =>
    have found := Node.Path.ofId_eq read definition.engine.defaultSchema
    rw [found, on_bind_of_ok _ (on_lift _ _)]
    rw [Node.Path.tableOf_eq_error fun name suited =>
      none path name read ((Node.Path.tableOf_eq_ok_iff read found).mp suited),
      on_bind_of_error _ (on_lift _ _)]
    exact ⟨.notATable, rfl⟩

theorem asked_of_leads (ready : session.Ready connection definition)
    (read : Node.segments node = .ok path) {name : String} (leads : Node.LeadsTo path name) :
    Asked backend definition
      ⟨connection, definition.effectiveDatabase (last Segment.database? path)⟩
      definition.engine.queries.columns
      (definition.engine.columnParameters
        ((last Segment.schema? path).or definition.engine.defaultSchema) name)
      (fun _ => True) session ((columns backend connection node).on session) := by
  rcases (Node.leadsTo_iff.mp leads).1 with ⟨object, ends, -⟩
  have found := Node.Path.ofId_eq read definition.engine.defaultSchema
  rw [ends, Option.isSome_some, if_pos rfl] at found
  have suited := (Node.Path.tableOf_eq_ok_iff read found).mpr leads
  have whole : Node.Id.ofText node = .ok ⟨node⟩ := by rw [Node.Id.ofText, read]
  rw [columns, on_bind_of_ok _ (on_ask_definition ready.known), found,
    on_bind_of_ok _ (on_lift _ _), suited, on_bind_of_ok _ (on_lift _ _), whole,
    on_bind_of_ok _ (on_lift _ _)]
  apply asked_of_answers ready (Node.last_database_ne_empty read)
  intro pool before own selected
  rcases exists_on_listColumns backend pool
    ((last Segment.schema? path).or definition.engine.defaultSchema) name ⟨node⟩ before with
    ⟨outcome, ran⟩
  rw [Pool.engine, own] at ran
  exact ⟨outcome, ran, trivial⟩

end Registered

end Gateway

theorem Asked.traffic_ne {σ α : Type} {backend : Backend σ} {definition : Definition}
    {key : PoolKey} {sql : String} {parameters : List Parameter} {good : Except Failure α → Prop}
    {before : Session σ} {result : Except Failure α × Session σ}
    (asked : Asked backend definition key sql parameters good before result) :
    result.2.traffic ≠ before.traffic := by
  cases asked with
  | refused _ _ traffic => simp [traffic]
  | answered _ _ _ traffic _ =>
    rcases traffic with sent | sent
    · simp [sent]
    · intro same
      have longer := congrArg List.length (sent.symm.trans same)
      simp only [List.length_cons] at longer
      omega

namespace Gateway

/-- For a connection that is known, an id that leads to no table or view is refused before a pool is
asked for, and for any other id the columns of the table or view are asked for. Whether it leads to
one is told by the kind of the id, unless a column stands before the table or view at its end, or
a database, schema or folder behind. -/
theorem columns_asked_iff {σ : Type} (backend : Backend σ) {connection : String}
    {definition : Definition} {session : Session σ} (ready : session.Ready connection definition)
    (node : String) :
    ((∃ problem, (columns backend connection node).on session =
        (.error (.node node problem), session)) ↔
      ∀ path name, Node.segments node = .ok path → ¬Node.LeadsTo path name) ∧
    (∀ path name, Node.segments node = .ok path → Node.LeadsTo path name →
      Asked backend definition
        ⟨connection, definition.effectiveDatabase (last Segment.database? path)⟩
        definition.engine.queries.columns
        (definition.engine.columnParameters
          ((last Segment.schema? path).or definition.engine.defaultSchema) name)
        (fun _ => True) session ((columns backend connection node).on session)) ∧
    ∀ path, Node.segments node = .ok path →
      (((∃ name, Node.LeadsTo path name) ↔
          Node.classify node = .table ∨ Node.classify node = .view) ↔
        ¬Node.ColumnBefore path ∧ ¬Node.HolderBehind path) := by
  refine ⟨⟨?refused, on_columns_of_none backend ready.known⟩, ?asked, ?kind⟩
  case refused =>
    rintro ⟨problem, refused⟩ path name read leads
    have asked := asked_of_leads backend ready read leads
    rw [refused] at asked
    exact asked.traffic_ne rfl
  case asked => exact fun path name read leads => asked_of_leads backend ready read leads
  case kind =>
    intro path read
    rw [← Node.leads_iff_kind, Node.classify_of_segments read]
    cases ends : path.getLast? with
    | none => simp
    | some segment => simp

/-- The id of a database, for which the columns of a table are asked for. -/
theorem columns_asked_iff_behind :
    let definition : Definition :=
      ⟨"c", .postgres, "h", none, none, none, none, false, false, false, .standard⟩
    let session : Session Unit := { Session.start () with
      registry := { Registry.empty with definitions := Entries.empty.insert "c" definition } }
    let backend := Backend.ofNames fun _ => ["id"]
    let node := "db:old.table:orders.schema:sales.db:shop"
    session.Ready "c" definition ∧ Node.classify node = .database ∧
      ∃ pool, pool.key = ⟨"c", some "shop"⟩ ∧
        ((columns backend "c" node).on session).2.traffic.head? =
          some (.statement pool definition.engine.queries.columns
            [.string "orders", .string "sales"]) := by
  intro definition session backend node
  have registered : (Gateway.register definition).on (Session.start ()) = (.ok (), session) := rfl
  have ready : session.Ready "c" definition := ready_register Registry.tidy_empty registered
  let path : List Segment := [.database "old", .table "orders", .schema "sales", .database "shop"]
  have read : Node.segments "db:old.table:orders.schema:sales.db:shop" = .ok path := rfl
  have leads : Node.LeadsTo path "orders" :=
    Node.leadsTo_iff.mpr ⟨⟨.table "orders", rfl, rfl⟩, rfl⟩
  have asked := (columns_asked_iff backend ready node).2.1 path "orders" read leads
  have kind : Node.classify "db:old.table:orders.schema:sales.db:shop" = .database := rfl
  refine ⟨ready, kind, ?_⟩
  rcases result : (columns backend "c" node).on session with ⟨outcome, after⟩
  rw [result] at asked
  cases asked with
  | refused refusal => cases refusal
  | @answered pool _ _ selected _ _ traffic =>
    refine ⟨pool, selected.2, ?_⟩
    rcases traffic with sent | sent <;> rw [sent] <;> rfl

/-- The kind of an id does not tell whether it has columns. -/
theorem not_columns_iff_kind :
    ¬∀ (backend : Backend Unit) (connection : String) (definition : Definition)
      (session : Session Unit) (node : String), session.Ready connection definition →
      ((∃ problem, (columns backend connection node).on session =
          (.error (.node node problem), session)) ↔
        Node.classify node ≠ .table ∧ Node.classify node ≠ .view) := by
  intro claimed
  let definition : Definition :=
    ⟨"c", .postgres, "h", none, none, none, none, false, false, false, .standard⟩
  let session : Session Unit := { Session.start () with
    registry := { Registry.empty with definitions := Entries.empty.insert "c" definition } }
  let backend := Backend.ofNames fun _ => ["id"]
  let path : List Segment := [.table "orders", .schema "sales"]
  have registered : (Gateway.register definition).on (Session.start ()) = (.ok (), session) := rfl
  have ready : session.Ready "c" definition := ready_register Registry.tidy_empty registered
  have read : Node.segments "table:orders.schema:sales" = .ok path := rfl
  have leads : Node.LeadsTo path "orders" :=
    Node.leadsTo_iff.mpr ⟨⟨.table "orders", rfl, rfl⟩, rfl⟩
  have schema : Node.classify "table:orders.schema:sales" = .schema := rfl
  have kind : Node.classify "table:orders.schema:sales" ≠ .table ∧
      Node.classify "table:orders.schema:sales" ≠ .view := by
    rw [schema]
    exact ⟨nofun, nofun⟩
  rcases (claimed backend "c" definition session _ ready).mpr kind with ⟨problem, refused⟩
  have asked := asked_of_leads backend ready read leads
  rw [refused] at asked
  exact asked.traffic_ne rfl

end Gateway

end SqlGateway
