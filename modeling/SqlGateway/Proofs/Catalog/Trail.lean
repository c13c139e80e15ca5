import SqlGateway.Proofs.Catalog.Answer
import SqlGateway.Proofs.Catalog.Spot

/-!
# Trails through the hierarchy

A trail starts at the top, and each node on it was listed when the one before it was visited. What
is asked of the server at the end of a trail is told by the names on the trail alone (`below`), and
the database whose pool is asked is the one on the trail, or the default one. `visit_stays` says
that a visit asks just this, and what it shows for the answer.
-/

namespace SqlGateway

open Node (Folder Segment)

/-! ## What the nodes of a trail choose -/

def chosen (kind : ObjectKind) (trail : List CatalogObject) : Option String :=
  (trail.find? fun node => node.kind = kind).map CatalogObject.name

def endId (trail : List CatalogObject) : String :=
  (trail.getLast?.map CatalogObject.id).getD Node.rootId

def Node.Folder.ofLabel? (label : String) : Option Folder :=
  Folder.all.find? fun folder => folder.label = label

theorem Node.Folder.ofLabel?_label (folder : Folder) : ofLabel? folder.label = some folder := by
  cases folder <;> decide

inductive Below where
  /-- What the server answers to a question. -/
  | answer (question : Question)
  /-- The folders that every schema has. -/
  | folders
  | nothing
deriving DecidableEq

def below (definition : Definition) (trail : List CatalogObject) : Below :=
  match trail.getLast? with
  | none =>
    if definition.engine.hasDatabaseLevel && !definition.showAllDatabases then .answer .schemas
    else .answer .databases
  | some node =>
    match node.kind with
    | .database => .answer .schemas
    | .schema => .folders
    | .folder =>
      match chosen .schema trail, Folder.ofLabel? node.name with
      | some schema, some folder => .answer (.objects schema folder)
      | _, _ => .nothing
    | .table | .view =>
      match chosen .schema trail with
      | some schema => .answer (.columns schema node.name)
      | none => .nothing
    | .function | .column => .nothing

def visit {σ : Type} (backend : Backend σ) (connection : String) (top : Option String)
    (trail : List CatalogObject) : Gateway σ (List CatalogObject) :=
  match trail.getLast? with
  | none => Gateway.expand backend connection top
  | some node =>
    match node.kind with
    | .table | .view => Gateway.columns backend connection node.id
    | .database | .schema | .folder | .function | .column =>
      Gateway.expand backend connection (some node.id)

/-- Every node was listed when the trail before it was visited, in whatever session. -/
inductive Trail {σ : Type} (backend : Backend σ) (connection : String) (definition : Definition)
    (top : Option String) : List CatalogObject → Prop
  | top : Trail backend connection definition top []
  | follow {trail nodes : List CatalogObject} {node : CatalogObject} {session after : Session σ}
      (before : Trail backend connection definition top trail)
      (ready : session.Ready connection definition)
      (listed : (visit backend connection top trail).on session = (.ok nodes, after))
      (member : node ∈ nodes) : Trail backend connection definition top (trail ++ [node])

/-- What a visit gives: the nodes for the answer to the question that is put to the pool of a key,
or the folders of a schema, or nothing. -/
def Shown {σ : Type} (backend : Backend σ) (definition : Definition) (catalog : CatalogNames)
    (key : PoolKey) (lists : ObjectKind → List String → List CatalogObject → Prop)
    (before : Session σ) (result : Except Failure (List CatalogObject) × Session σ) :
    Below → Prop
  | .answer question =>
    ∃ sql, question.statement definition.engine = some sql ∧
      Asked backend definition key sql (question.parameters definition.engine)
        (question.Gives (catalog key.database question)
          (lists (question.kind definition.engine) (catalog key.database question))) before result
  | .folders =>
    ∃ nodes, result = (.ok nodes, before) ∧ lists .folder (Folder.all.map Folder.label) nodes
  | .nothing => result = (.ok [], before)

theorem Shown.imp {σ : Type} {backend : Backend σ} {definition : Definition}
    {catalog : CatalogNames} {key : PoolKey}
    {lists more : ObjectKind → List String → List CatalogObject → Prop} {before : Session σ}
    {result : Except Failure (List CatalogObject) × Session σ} {place : Below}
    (shown : Shown backend definition catalog key lists before result place)
    (implies : ∀ kind names nodes, lists kind names nodes → more kind names nodes) :
    Shown backend definition catalog key more before result place := by
  cases place with
  | answer question =>
    rcases shown with ⟨sql, asks, asked⟩
    exact ⟨sql, asks, asked.imp fun outcome gives => gives.imp (implies _ _)⟩
  | folders =>
    rcases shown with ⟨nodes, same, listed⟩
    exact ⟨nodes, same, implies _ _ _ listed⟩
  | nothing => exact shown

/-! ## Where a trail stands -/

/-- The nodes of a trail stand for the segments of a spot, and the id at its end is composed of
them. -/
structure Stands (definition : Definition) (trail : List CatalogObject) (spot : Spot) : Prop where
  marks : List.Forall₂ CatalogObject.Marks trail spot.segments
  composed : ∀ node, trail.getLast? = some node → Node.Id.compose spot.segments = .ok ⟨node.id⟩
  level : spot.database? ≠ none → definition.engine.hasDatabaseLevel = true

theorem chosen_eq {trail : List CatalogObject} {path : List Segment}
    (marks : List.Forall₂ CatalogObject.Marks trail path) (kind : ObjectKind) :
    chosen kind trail =
      (path.find? fun segment => segment.objectKind = kind).map Segment.label := by
  induction marks with
  | nil => rfl
  | cons first _ induction =>
    rw [chosen] at induction ⊢
    rw [List.find?_cons, List.find?_cons, first.kind]
    split
    · exact congrArg some first.name
    · exact induction

theorem exists_last {trail : List CatalogObject} {path : List Segment} {segment : Segment}
    (marks : List.Forall₂ CatalogObject.Marks trail path) (last : path.getLast? = some segment) :
    ∃ node, trail.getLast? = some node ∧ node.Marks segment := by
  induction marks with
  | nil => cases last
  | @cons node head trail path first rest induction =>
    cases rest with
    | nil =>
      cases last
      exact ⟨node, rfl, first⟩
    | cons second others =>
      rw [List.getLast?_cons_cons] at last ⊢
      exact induction last

def Spot.below (definition : Definition) : Spot → Below
  | .top =>
    if definition.engine.hasDatabaseLevel && !definition.showAllDatabases then .answer .schemas
    else .answer .databases
  | .database _ => .answer .schemas
  | .schema .. => .folders
  | .folder _ group kind => .answer (.objects group kind)
  | .object _ group .tables name | .object _ group .views name => .answer (.columns group name)
  | .object _ _ .functions _ | .column .. => .nothing

namespace Stands

variable {definition : Definition} {trail : List CatalogObject} {spot : Spot}
  (stands : Stands definition trail spot)

include stands

theorem chosen_database : chosen .database trail = spot.database? := by
  rw [chosen_eq stands.marks]
  rcases spot with _ | _ | ⟨_ | _, _⟩ | ⟨_ | _, _, _⟩ | ⟨_ | _, _, _ | _ | _, _⟩ |
    ⟨_ | _, _, _ | _ | _, _, _⟩ <;> rfl

theorem chosen_schema : chosen .schema trail = spot.path.schema := by
  rw [chosen_eq stands.marks]
  rcases spot with _ | _ | ⟨_ | _, _⟩ | ⟨_ | _, _, _⟩ | ⟨_ | _, _, _ | _ | _, _⟩ |
    ⟨_ | _, _, _ | _ | _, _, _⟩ <;> rfl

theorem exists_last {segment : Segment} (last : spot.last? = some segment) :
    ∃ node, trail.getLast? = some node ∧ node.Marks segment ∧
      Node.Id.compose spot.segments = .ok ⟨node.id⟩ := by
  rw [← spot.getLast?_segments] at last
  rcases SqlGateway.exists_last stands.marks last with ⟨node, found, marks⟩
  exact ⟨node, found, marks, stands.composed node found⟩

theorem nil_of_top (top : spot = .top) : trail = [] := by
  subst top
  exact List.forall₂_nil_right_iff.mp stands.marks

theorem below_eq : SqlGateway.below definition trail = spot.below definition := by
  have schema := stands.chosen_schema
  cases ended : spot.last? with
  | none =>
    have top : spot = .top := by cases spot <;> simp_all [Spot.last?]
    rw [stands.nil_of_top top, top]
    rfl
  | some segment =>
    rcases stands.exists_last ended with ⟨node, last, marks, -⟩
    have kind := marks.kind
    have name := marks.name
    rw [SqlGateway.below, last]
    rcases spot with _ | _ | _ | _ | ⟨_, _, _ | _ | _, _⟩ | _ <;> cases ended <;>
      simp_all [Spot.below, Segment.objectKind, Segment.label, Folder.ofLabel?_label, Spot.path,
        Folder.segment]

theorem endId_eq {segment : Segment} (last : spot.last? = some segment) :
    Node.Id.compose spot.segments = .ok ⟨endId trail⟩ := by
  rcases stands.exists_last last with ⟨node, found, -, composed⟩
  rw [composed, endId, found]
  rfl

theorem exists_leaf (nothing : spot.below definition = .nothing) :
    ∃ node, trail.getLast? = some node ∧ node.kind.hasChildren = false := by
  have leaf : ∃ segment, spot.last? = some segment ∧ segment.objectKind.hasChildren = false := by
    rcases spot with _ | _ | _ | _ | ⟨_, _, _ | _ | _, _⟩ | _
    case top =>
      simp only [Spot.below] at nothing
      split at nothing <;> cases nothing
    all_goals first | cases nothing; done | exact ⟨_, rfl, rfl⟩
  rcases leaf with ⟨segment, last, childless⟩
  rcases stands.exists_last last with ⟨node, found, marks, -⟩
  exact ⟨node, found, marks.kind ▸ childless⟩

end Stands

/-! ## Visits -/

theorem Engine.exists_schemas {engine : Engine} (level : engine.hasDatabaseLevel = true) :
    ∃ sql, engine.queries.schemas = some sql := by
  cases engine with
  | mySql => cases level
  | postgres | sqlServer => exact ⟨_, rfl⟩

theorem Definition.effectiveDatabase_default (definition : Definition) :
    definition.effectiveDatabase definition.database = definition.effectiveDatabase none := by
  cases database : definition.database <;> simp [effectiveDatabase, database]

section Visits

variable {σ : Type} {backend : Backend σ} {connection : String} {definition : Definition}
  {top : Option String} {catalog : CatalogNames} {trail : List CatalogObject}
  {session : Session σ}

theorem visit_of_segment {spot : Spot} (stands : Stands definition trail spot) {segment : Segment}
    (last : spot.last? = some segment) :
    visit backend connection top trail =
      match segment.objectKind with
      | .table | .view => Gateway.columns backend connection (endId trail)
      | .database | .schema | .folder | .function | .column =>
        Gateway.expand backend connection (some (endId trail)) := by
  rcases stands.exists_last last with ⟨node, found, marks, -⟩
  rw [visit, endId, found, ← marks.kind]
  rfl

theorem on_visit_of_expanded (ready : session.Ready connection definition) {spot : Spot}
    (stands : Stands definition trail spot) {segment : Segment}
    (last : spot.last? = some segment)
    (expanded : segment.objectKind ≠ .table ∧ segment.objectKind ≠ .view) :
    (visit backend connection top trail).on session =
      (Gateway.list backend connection (Expansion.atSpot ⟨endId trail⟩ spot)).on session := by
  have planned : Expansion.plan definition (some (endId trail)) =
      .ok (.atSpot ⟨endId trail⟩ spot) := Expansion.plan_atSpot (stands.endId_eq last)
  rw [visit_of_segment stands last, ← Gateway.expand_of_plan backend ready.known planned]
  cases sort : segment.objectKind with
  | table => exact absurd sort expanded.1
  | view => exact absurd sort expanded.2
  | database | schema | folder | function | column => rfl

variable (shows : backend.Shows definition catalog) (ready : session.Ready connection definition)

include shows ready

theorem asked_of_schemas {sql : String} (asks : definition.engine.queries.schemas = some sql)
    {above : List Segment} {database : Option String} (usable : database ≠ some "")
    {parent : Option Node.Id} (composed : Node.Id.Composed parent above) :
    Asked backend definition ⟨connection, definition.effectiveDatabase database⟩ sql []
      (Question.schemas.Gives (catalog (definition.effectiveDatabase database) .schemas)
        (Children above ((parent.map Node.Id.text).getD Node.rootId) .schema
          (catalog (definition.effectiveDatabase database) .schemas))) session
      ((Gateway.list backend connection (.schemas database parent)).on session) := by
  apply Gateway.asked_of_answers ready usable
  intro pool before own selected
  exact Gateway.on_listSchemas shows own selected before asks composed

theorem asked_of_databases :
    Asked backend definition ⟨connection, definition.effectiveDatabase none⟩
      definition.engine.queries.databases []
      (Question.databases.Gives (catalog (definition.effectiveDatabase none) .databases)
        (Children [] Node.rootId (Question.databases.kind definition.engine)
          (catalog (definition.effectiveDatabase none) .databases))) session
      ((Gateway.list backend connection .databases).on session) := by
  apply Gateway.asked_of_answers ready (Option.some_ne_none _).symm
  intro pool before own selected
  exact Gateway.on_listDatabases shows own selected before

theorem shown_at_top (usable : definition.database ≠ some "") (isTop : Node.isTop top = true) :
    Shown backend definition catalog ⟨connection, definition.effectiveDatabase none⟩
      (Children [] Node.rootId) session ((visit backend connection top []).on session)
      (Spot.top.below definition) := by
  have planned : Expansion.plan definition top = .ok (Expansion.top definition) := by
    cases top with
    | none => rfl
    | some id => rw [Expansion.plan, if_pos isTop]
  change Shown _ _ _ _ _ _ ((Gateway.expand backend connection top).on session) _
  rw [Gateway.expand_of_plan backend ready.known planned, Expansion.top, Spot.below]
  cases level : definition.engine.hasDatabaseLevel with
  | false => exact ⟨_, rfl, asked_of_databases shows ready⟩
  | true =>
    cases definition.showAllDatabases with
    | true => exact ⟨_, rfl, asked_of_databases shows ready⟩
    | false =>
      rcases Engine.exists_schemas level with ⟨sql, asks⟩
      have highest : Node.Id.Composed none [] := rfl
      have asked := asked_of_schemas shows ready asks usable highest
      rw [definition.effectiveDatabase_default] at asked
      exact ⟨sql, asks, asked⟩

theorem shown_of_stands (usable : definition.database ≠ some "") (isTop : Node.isTop top = true)
    {spot : Spot} (stands : Stands definition trail spot) :
    Shown backend definition catalog ⟨connection, definition.effectiveDatabase spot.database?⟩
      (Children spot.segments (endId trail)) session
      ((visit backend connection top trail).on session) (spot.below definition) := by
  cases spot with
  | top =>
    have none : trail = [] := stands.nil_of_top rfl
    subst none
    exact shown_at_top shows ready usable isTop
  | database name =>
    have composed := stands.endId_eq rfl
    have inside : Node.Id.Composed (some ⟨endId trail⟩) (Spot.database name).segments := composed
    rcases Engine.exists_schemas (stands.level (Option.some_ne_none name)) with ⟨sql, asks⟩
    rw [on_visit_of_expanded ready stands rfl ⟨nofun, nofun⟩]
    exact ⟨sql, asks, asked_of_schemas shows ready asks (Spot.named_database composed) inside⟩
  | schema owner name =>
    rcases Expansion.exists_folderNodes (stands.endId_eq rfl) with ⟨nodes, built, children⟩
    rw [on_visit_of_expanded ready stands rfl ⟨nofun, nofun⟩]
    refine ⟨nodes, ?_, children⟩
    rw [Expansion.atSpot, Gateway.list, built, Gateway.on_lift]
  | folder owner group kind =>
    have composed := stands.endId_eq rfl
    rw [on_visit_of_expanded ready stands rfl ⟨nofun, nofun⟩]
    refine ⟨_, rfl, ?_⟩
    apply Gateway.asked_of_answers ready (Spot.named_database composed)
    intro pool before own selected
    exact Gateway.on_listObjects shows own selected before composed group kind
  | object owner group kind name =>
    have composed := stands.endId_eq rfl
    cases kind with
    | functions =>
      rw [on_visit_of_expanded ready stands rfl ⟨nofun, nofun⟩]
      rfl
    | tables | views =>
      rw [visit_of_segment stands rfl]
      change Shown _ _ _ _ _ _ ((Gateway.columns backend connection _).on session) _
      rw [Gateway.columns_of_spot backend ready.known composed rfl]
      refine ⟨_, rfl, ?_⟩
      apply Gateway.asked_of_answers ready (Spot.named_database composed)
      intro pool before own selected
      exact Gateway.on_listColumns shows own selected before composed group name
  | column owner group kind table name =>
    rw [on_visit_of_expanded ready stands rfl ⟨nofun, nofun⟩]
    rfl

end Visits

/-! ## Following a trail -/

def Below.kind? (engine : Engine) : Below → Option ObjectKind
  | .answer question => some (question.kind engine)
  | .folders => some .folder
  | .nothing => none

theorem Node.Segment.exists_of_objectKind {segment : Segment} {folder : Folder}
    (sort : segment.objectKind = folder.objectKind) : ∃ name, segment = folder.segment name := by
  cases folder <;> cases segment <;> first | exact ⟨_, rfl⟩ | cases sort

namespace Spot

theorem exists_below {definition : Definition} {spot : Spot} {segment : Segment}
    (level : spot.database? ≠ none → definition.engine.hasDatabaseLevel = true)
    (sort : (spot.below definition).kind? definition.engine = some segment.objectKind) :
    ∃ next : Spot, next.segments = spot.segments ++ [segment] ∧
      (next.database? ≠ none → definition.engine.hasDatabaseLevel = true) := by
  cases spot with
  | top =>
    simp only [below] at sort
    split at sort
    · cases segment <;> cases sort
      next name => exact ⟨.schema none name, rfl, level⟩
    · simp only [Below.kind?, Question.kind, Option.some.injEq] at sort
      split at sort
      · next above =>
        cases segment <;> cases sort
        next name => exact ⟨.database name, rfl, fun _ => above⟩
      · cases segment <;> cases sort
        next name => exact ⟨.schema none name, rfl, level⟩
  | database owner =>
    cases segment <;> cases sort
    next name => exact ⟨.schema (some owner) name, rfl, level⟩
  | schema owner name =>
    cases segment <;> cases sort
    next kind => exact ⟨.folder owner name kind, rfl, level⟩
  | folder owner group kind =>
    rcases Node.Segment.exists_of_objectKind (Option.some.inj sort).symm with ⟨name, rfl⟩
    exact ⟨.object owner group kind name, rfl, level⟩
  | object owner group kind table =>
    cases kind with
    | functions => cases sort
    | tables | views =>
      cases segment <;> cases sort
      next name => exact ⟨.column owner group _ table name, rfl, level⟩
  | column => cases sort

end Spot

section Trails

variable {σ : Type} {backend : Backend σ} {connection : String} {definition : Definition}
  {top : Option String} {catalog : CatalogNames}

theorem Children.exists_segment {above : List Segment} {parent : String} {kind : ObjectKind}
    {names : List String} {nodes : List CatalogObject}
    (children : Children above parent kind names nodes) {node : CatalogObject}
    (member : node ∈ nodes) :
    ∃ segment, node.Marks segment ∧ Node.Id.compose (above ++ [segment]) = .ok ⟨node.id⟩ ∧
      kind = segment.objectKind := by
  rcases children.marks node member with ⟨segment, marks, composed⟩
  exact ⟨segment, marks, composed, by rw [← marks.kind, children.kinds node member]⟩

theorem exists_segment_of_shown {key : PoolKey} {above : List Segment} {parent : String}
    {before after : Session σ} {nodes : List CatalogObject} {place : Below}
    (shown : Shown backend definition catalog key (Children above parent) before
      (.ok nodes, after) place) {node : CatalogObject} (member : node ∈ nodes) :
    ∃ segment, node.Marks segment ∧ Node.Id.compose (above ++ [segment]) = .ok ⟨node.id⟩ ∧
      place.kind? definition.engine = some segment.objectKind := by
  cases place with
  | answer question =>
    rcases shown with ⟨sql, -, asked⟩
    cases asked with
    | answered _ _ _ _ gives =>
      rcases gives.of_ok.exists_segment member with ⟨segment, marks, composed, kind⟩
      exact ⟨segment, marks, composed, congrArg some kind⟩
  | folders =>
    rcases shown with ⟨others, same, children⟩
    cases same
    rcases children.exists_segment member with ⟨segment, marks, composed, kind⟩
    exact ⟨segment, marks, composed, congrArg some kind⟩
  | nothing =>
    cases shown
    cases member

variable (shows : backend.Shows definition catalog) (usable : definition.database ≠ some "")
  (isTop : Node.isTop top = true)

include shows usable isTop

theorem Trail.exists_spot {trail : List CatalogObject}
    (followed : Trail backend connection definition top trail) :
    ∃ spot, Stands definition trail spot := by
  induction followed with
  | top => exact ⟨.top, .nil, nofun, nofun⟩
  | @follow trail nodes node session after before ready listed member induction =>
    -- The spot of the trail before tells what the visit gave, and so what the node stands for.
    rcases induction with ⟨spot, stands⟩
    have shown := shown_of_stands shows ready usable isTop stands
    rw [listed] at shown
    rcases exists_segment_of_shown shown member with ⟨segment, marks, composed, sort⟩
    rcases spot.exists_below stands.level sort with ⟨next, extended, level⟩
    refine ⟨next, ?marks, ?composed, level⟩
    case marks =>
      rw [extended]
      exact List.rel_append stands.marks (.cons marks .nil)
    case composed =>
      intro last found
      rw [List.getLast?_concat, Option.some.injEq] at found
      rw [extended, composed, found]

end Trails

/-- A visit at the end of a trail shows what lies below the nodes on the way, and only below
functions and columns lies nothing. A question to the server is about the schema and the table on
the trail, and it goes to the pool of the database on the trail, or of the default one. The nodes
shown for the answer are those of the addressable names, in order; they stand under the node
visited, and each has an id of its own kind. -/
theorem visit_stays {σ : Type} {backend : Backend σ} {connection : String}
    {definition : Definition} {top : Option String} {catalog : CatalogNames}
    {trail : List CatalogObject} {session : Session σ}
    (shows : backend.Shows definition catalog) (usable : definition.database ≠ some "")
    (isTop : Node.isTop top = true) (followed : Trail backend connection definition top trail)
    (ready : session.Ready connection definition) :
    Shown backend definition catalog
        ⟨connection, definition.effectiveDatabase (chosen .database trail)⟩ (Lists (endId trail))
        session ((visit backend connection top trail).on session) (below definition trail) ∧
      (below definition trail = .nothing →
        ∃ node, trail.getLast? = some node ∧ node.kind.hasChildren = false) := by
  rcases followed.exists_spot shows usable isTop with ⟨spot, stands⟩
  have shown := shown_of_stands shows ready usable isTop stands
  rw [stands.chosen_database, stands.below_eq]
  exact ⟨shown.imp fun kind names nodes children => children.lists, stands.exists_leaf⟩

theorem visit_stays_shop :
    let definition : Definition :=
      ⟨"c", .postgres, "h", none, none, none, some "main", true, false, false, .standard⟩
    let session : Session Unit := { Session.start () with
      registry := { Registry.empty with definitions := Entries.empty.insert "c" definition } }
    let names : Option String → List String := fun database =>
      if database = some "shop" then ["public", "a.b", "orders"] else ["", "shop"]
    let backend := Backend.ofNames names
    let shop : CatalogObject := ⟨"db:shop", "shop", .database, "root", true, none⟩
    let schema : CatalogObject :=
      ⟨"db:shop.schema:public", "public", .schema, "db:shop", true, none⟩
    let folder : CatalogObject :=
      ⟨"db:shop.schema:public.folder:views", "Views", .folder, "db:shop.schema:public", true, none⟩
    ∃ pool nodes after,
      (visit backend "c" none [shop, schema, folder]).on session = (.ok nodes, after) ∧
        pool.key = ⟨"c", some "shop"⟩ ∧
        after.traffic.head? =
          some (.statement pool (definition.engine.queries.objects .views) [.string "public"]) ∧
        Lists "db:shop.schema:public.folder:views" .view ["public", "a.b", "orders"] nodes := by
  intro definition session names backend shop schema folder
  have shows := Backend.shows_ofNames names definition
  have registered : (Gateway.register definition).on (Session.start ()) = (.ok (), session) := rfl
  have ready : session.Ready "c" definition :=
    Gateway.ready_register Registry.tidy_empty registered
  have databases : ((visit backend "c" none []).on session).1 = .ok [shop] := by
    dsimp only [session, definition, backend, names, shop]
    rfl
  have schemas : ((visit backend "c" none [shop]).on session).1 =
      .ok [schema, ⟨"db:shop.schema:orders", "orders", .schema, "db:shop", true, none⟩] := by
    dsimp only [session, definition, backend, names, shop, schema]
    rfl
  have folders : ((visit backend "c" none [shop, schema]).on session).1 =
      .ok [⟨schema.id ++ ".folder:tables", "Tables", .folder, schema.id, true, none⟩, folder,
        ⟨schema.id ++ ".folder:functions", "Functions", .folder, schema.id, true, none⟩] := by
    dsimp only [session, definition, backend, names, shop, schema, folder]
    rfl
  have first : Trail backend "c" definition none [shop] :=
    Trail.top.follow ready (Prod.ext databases rfl) (by simp)
  have second : Trail backend "c" definition none [shop, schema] :=
    first.follow ready (Prod.ext schemas rfl) (by simp)
  have third : Trail backend "c" definition none [shop, schema, folder] :=
    second.follow ready (Prod.ext folders rfl) (by simp)
  rcases (visit_stays shows (by decide) rfl third ready).1 with ⟨sql, asks, asked⟩
  cases asks
  rcases result : (visit backend "c" none [shop, schema, folder]).on session with ⟨outcome, after⟩
  rw [result] at asked
  cases asked with
  | refused refusal => cases refusal
  | @answered pool _ _ selected _ _ traffic gives =>
    rcases gives with ⟨nodes, rfl, lists⟩
    refine ⟨pool, nodes, after, rfl, selected.2, ?_, lists⟩
    rcases traffic with sent | sent <;> rw [sent] <;> rfl

end SqlGateway
