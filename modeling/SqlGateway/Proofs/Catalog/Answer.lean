import SqlGateway.Proofs.Catalog.Listing
import SqlGateway.Proofs.Server.Pools

/-!
# Questions to a pool

A listing sends the one statement of its question, and what the catalog holds comes back as nodes.
With the pool asked for first, nothing else passes but the opening of that pool: `asked_of_answers`.
-/

namespace SqlGateway

open Node (Folder Segment)

/-- An answer with names gives their nodes; only a table that has no columns is not found. -/
def Question.Gives (question : Question) (names : List String)
    (lists : List CatalogObject → Prop) (outcome : Except Failure (List CatalogObject)) : Prop :=
  match question, names with
  | .columns _ table, [] => outcome = .error (.object "Table not found or has no columns" table)
  | _, _ => ∃ nodes, outcome = .ok nodes ∧ lists nodes

namespace Question

variable {question : Question} {names : List String} {lists : List CatalogObject → Prop}

theorem Gives.imp {more : List CatalogObject → Prop} {outcome : Except Failure (List CatalogObject)}
    (gives : question.Gives names lists outcome) (implies : ∀ nodes, lists nodes → more nodes) :
    question.Gives names more outcome := by
  unfold Gives at gives ⊢
  split at gives
  · exact gives
  · rcases gives with ⟨nodes, listed, rest⟩
    exact ⟨nodes, listed, implies nodes rest⟩

theorem Gives.of_ok {nodes : List CatalogObject} (gives : question.Gives names lists (.ok nodes)) :
    lists nodes := by
  unfold Gives at gives
  split at gives
  · cases gives
  · rcases gives with ⟨_, listed, rest⟩
    cases listed
    exact rest

theorem parameters_columns (engine : Engine) (schema table : String) :
    (columns schema table).parameters engine = engine.columnParameters (some schema) table := by
  cases engine <;> rfl

end Question

/-- A statement was put through the pool of a key and nothing else was sent, unless the pool could
not be opened. -/
inductive Asked {σ α : Type} (backend : Backend σ) (definition : Definition) (key : PoolKey)
    (sql : String) (parameters : List Parameter) (good : Except Failure α → Prop)
    (before : Session σ) : Except Failure α × Session σ → Prop
  | refused {failure : Failure} {servers : σ} {after : Session σ}
      (refusal : backend.connect definition key.database before.servers =
        (.error failure, servers))
      (ready : after.Ready key.connection definition)
      (traffic : after.traffic = .connecting definition key :: before.traffic) :
      Asked backend definition key sql parameters good before (.error failure, after)
  | answered {pool : Pool} {outcome : Except Failure α} {after : Session σ}
      (selected : pool.definition = definition ∧ pool.key = key)
      (ready : after.Ready key.connection definition) (holds : after.Holds key pool)
      (traffic : after.traffic = .statement pool sql parameters :: before.traffic ∨
        after.traffic =
          .statement pool sql parameters :: .connecting definition key :: before.traffic)
      (gives : good outcome) :
      Asked backend definition key sql parameters good before (outcome, after)

theorem Asked.imp {σ α : Type} {backend : Backend σ} {definition : Definition} {key : PoolKey}
    {sql : String} {parameters : List Parameter} {good better : Except Failure α → Prop}
    {before : Session σ} {result : Except Failure α × Session σ}
    (asked : Asked backend definition key sql parameters good before result)
    (implies : ∀ outcome, good outcome → better outcome) :
    Asked backend definition key sql parameters better before result := by
  cases asked with
  | refused refusal ready traffic => exact .refused refusal ready traffic
  | answered selected ready holds traffic gives =>
    exact .answered selected ready holds traffic (implies _ gives)

namespace Gateway

section Listing

variable {σ : Type} {backend : Backend σ} {definition : Definition} {catalog : CatalogNames}
  (shows : backend.Shows definition catalog) {pool : Pool} (own : pool.definition = definition)
  {database : Option String} (selected : pool.database = database) (before : Session σ)

include shows own selected

theorem on_fetch_question (question : Question) (parameters : List Parameter) {sql : String}
    (asks : question.statement definition.engine = some sql)
    (names : question.parameters definition.engine = parameters) :
    ∃ rows, (fetch backend pool sql parameters).on before =
        (.ok rows, before.sending backend pool sql parameters) ∧
      List.Forall₂ (question.Tells definition.engine) rows (catalog database question) := by
  subst own selected names
  rcases shows pool question sql before.servers rfl asks with ⟨_, _, rows, replied, told⟩
  exact ⟨rows, on_fetch backend replied, told⟩

theorem on_listDatabases :
    ∃ outcome, (listDatabases backend pool).on before =
        (outcome, before.sending backend pool definition.engine.queries.databases []) ∧
      Question.databases.Gives (catalog database .databases)
        (Children [] Node.rootId (Question.databases.kind definition.engine)
          (catalog database .databases)) outcome := by
  rcases on_fetch_question shows own selected before .databases [] rfl rfl with ⟨rows, ran, told⟩
  have top : Node.Id.Composed none [] := rfl
  have databases := CatalogObject.children_ofNames top Node.naming_database
  have schemas := CatalogObject.children_ofNames top Node.naming_schema
  rw [listDatabases, Pool.engine, own, on_bind_of_ok _ ran, CatalogRows.databaseNames_eq_ok told,
    on_bind_of_ok _ (on_lift _ _), Question.kind]
  split
  · exact ⟨_, rfl, _, rfl, databases _⟩
  · exact ⟨_, rfl, _, rfl, schemas _⟩

variable {above : List Segment}

theorem on_listSchemas {sql : String} (asks : definition.engine.queries.schemas = some sql)
    {parent : Option Node.Id} (composed : Node.Id.Composed parent above) :
    ∃ outcome, (listSchemas backend pool parent).on before =
        (outcome, before.sending backend pool sql []) ∧
      Question.schemas.Gives (catalog database .schemas)
        (Children above ((parent.map Node.Id.text).getD Node.rootId) .schema
          (catalog database .schemas)) outcome := by
  rcases on_fetch_question shows own selected before .schemas [] asks rfl with ⟨rows, ran, told⟩
  refine ⟨_, ?_, _, rfl, CatalogObject.children_ofNames composed Node.naming_schema _⟩
  rw [listSchemas, Pool.engine, own, asks]
  change (fetch backend pool sql [] >>= _).on before = _
  rw [on_bind_of_ok _ ran, CatalogRows.names_eq_ok told, on_bind_of_ok _ (on_lift _ _)]
  rfl

variable {parent : Node.Id} (composed : Node.Id.compose above = .ok parent) (schema : String)

include composed

theorem on_listObjects (folder : Folder) :
    ∃ outcome, (listObjects backend pool folder (some schema) parent).on before =
        (outcome, before.sending backend pool (definition.engine.queries.objects folder)
          [.string schema]) ∧
      (Question.objects schema folder).Gives (catalog database (.objects schema folder))
        (Children above parent.text folder.objectKind
          (catalog database (.objects schema folder))) outcome := by
  rcases on_fetch_question shows own selected before (.objects schema folder) [.string schema] rfl
    rfl with ⟨rows, ran, told⟩
  have under : Node.Id.Composed (some parent) above := composed
  refine ⟨_, ?_, _, rfl, CatalogObject.children_ofNames under (Node.naming_object folder) _⟩
  rw [listObjects, Pool.engine, own]
  change (fetch backend pool _ [.string schema] >>= _).on before = _
  rw [on_bind_of_ok _ ran, CatalogRows.names_eq_ok told, on_bind_of_ok _ (on_lift _ _)]
  rfl

theorem on_listColumns (table : String) :
    ∃ outcome, (listColumns backend pool (some schema) table parent).on before =
        (outcome, before.sending backend pool definition.engine.queries.columns
          ((Question.columns schema table).parameters definition.engine)) ∧
      (Question.columns schema table).Gives (catalog database (.columns schema table))
        (Children above parent.text .column (catalog database (.columns schema table)))
        outcome := by
  rcases on_fetch_question shows own selected before (.columns schema table) _ rfl rfl with
    ⟨rows, ran, told⟩
  rcases CatalogRows.exists_columns told with ⟨columns, read, named⟩
  rw [listColumns, Pool.engine, own, ← Question.parameters_columns, on_bind_of_ok _ ran, read,
    on_bind_of_ok _ (on_lift _ _), ← named]
  cases columns with
  | nil => exact ⟨_, rfl, rfl⟩
  | cons first rest =>
    exact ⟨_, rfl, _, rfl, CatalogObject.children_ofColumns composed (first :: rest)⟩

end Listing

theorem asked_of_answers {σ α : Type} {backend : Backend σ} {definition : Definition}
    {connection : String} {session : Session σ} (ready : session.Ready connection definition)
    {database : Option String} (usable : database ≠ some "") {sql : String}
    {parameters : List Parameter} {good : Except Failure α → Prop} {list : Pool → Gateway σ α}
    (answers : ∀ (pool : Pool) (before : Session σ), pool.definition = definition →
      pool.database = definition.effectiveDatabase database →
      ∃ outcome, (list pool).on before = (outcome, before.sending backend pool sql parameters) ∧
        good outcome) :
    Asked backend definition ⟨connection, definition.effectiveDatabase database⟩ sql parameters
      good session ((pool backend connection database >>= list).on session) := by
  have opens := opens_pool backend ready usable
  rcases ran : (pool backend connection database).on session with ⟨outcome, between⟩
  rw [ran] at opens
  cases opens with
  | refused refusal ready traffic =>
    rw [on_bind_of_error _ ran]
    exact .refused refusal ready traffic
  | @opened pool _ ready holds traffic =>
    rcases ready.of_holds holds with ⟨own, database⟩
    rcases answers pool between own database with ⟨outcome, answered, gives⟩
    have key : pool.key = ⟨connection, pool.database⟩ := by
      rw [Pool.key, own, ready.tidy.named ready.known]
    rw [on_bind_of_ok _ ran, answered]
    refine .answered ⟨own, by rw [key, database]⟩ ⟨ready.tidy, ready.known⟩ holds ?_ gives
    rcases traffic with same | opened
    · exact .inl (congrArg _ same)
    · exact .inr (congrArg _ opened)

end Gateway

end SqlGateway
