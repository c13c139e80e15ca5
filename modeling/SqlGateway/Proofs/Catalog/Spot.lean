import SqlGateway.Proofs.Catalog.Listing
import SqlGateway.Proofs.Server.Pools

/-!
# Spots in the hierarchy

A spot is a place that can be reached from the top of the hierarchy, told by the names on the way
to it. The id of a node there is composed of one segment for each of them. What is listed for such
an id is told by the spot alone, and so is the database whose pool is asked for.
-/

namespace SqlGateway

open Node (Folder Segment)

inductive Spot where
  | top
  | database (name : String)
  | schema (owner : Option String) (name : String)
  | folder (owner : Option String) (group : String) (kind : Folder)
  | object (owner : Option String) (group : String) (kind : Folder) (name : String)
  | column (owner : Option String) (group : String) (kind : Folder) (table name : String)

namespace Spot

def database? : Spot → Option String
  | .top => none
  | .database name => some name
  | .schema owner _ | .folder owner .. | .object owner .. | .column owner .. => owner

def segments : Spot → List Segment
  | .top => []
  | .database name => [.database name]
  | .schema owner name => (owner.map .database).toList ++ [.schema name]
  | .folder owner group kind => (owner.map .database).toList ++ [.schema group] ++ [.folder kind]
  | .object owner group kind name =>
    (owner.map .database).toList ++ [.schema group] ++ [.folder kind] ++ [kind.segment name]
  | .column owner group kind table name =>
    (owner.map .database).toList ++ [.schema group] ++ [.folder kind] ++ [kind.segment table] ++
      [.column name]

def last? : Spot → Option Segment
  | .top => none
  | .database name => some (.database name)
  | .schema _ name => some (.schema name)
  | .folder _ _ kind => some (.folder kind)
  | .object _ _ kind name => some (kind.segment name)
  | .column _ _ _ _ name => some (.column name)

theorem getLast?_segments (spot : Spot) : spot.segments.getLast? = spot.last? := by
  cases spot <;> simp [segments, last?]

def path : Spot → Node.Path
  | .top => .empty
  | .database name => ⟨some name, none, none, none, none⟩
  | .schema owner name => ⟨owner, some name, none, none, none⟩
  | .folder owner group kind => ⟨owner, some group, some kind, none, none⟩
  | .object owner group kind name => ⟨owner, some group, some kind, some (kind.segment name), none⟩
  | .column owner group kind table name =>
    ⟨owner, some group, some kind, some (kind.segment table), some name⟩

@[simp] theorem database_path (spot : Spot) : spot.path.database = spot.database? := by
  cases spot <;> rfl

theorem foldl_add_segments (spot : Spot) :
    spot.segments.foldl Node.Path.add .empty = spot.path := by
  rcases spot with _ | _ | ⟨_ | _, _⟩ | ⟨_ | _, _, _⟩ | ⟨_ | _, _, _ | _ | _, _⟩ |
    ⟨_ | _, _, _ | _ | _, _, _⟩ <;> rfl

theorem complete_path (spot : Spot) (schema : Option String) :
    spot.path.complete schema = spot.path := by
  cases spot <;> rfl

variable {spot : Spot} {id : Node.Id} (composed : Node.Id.compose spot.segments = .ok id)

include composed

theorem ofId_eq (schema : Option String) : Node.Path.ofId id.text schema = .ok spot.path := by
  rw [Node.Path.ofId_of_segments (Node.Id.segments_of_compose composed), foldl_add_segments,
    complete_path]

theorem ofText_eq : Node.Id.ofText id.text = .ok id := by
  rw [Node.Id.ofText, Node.Id.segments_of_compose composed]

theorem named_database : spot.database? ≠ some "" := by
  intro unnamed
  have addressable := (Node.Id.compose_eq_ok_iff.mp composed).2.1 (.database "")
  have member : Segment.database "" ∈ spot.segments := by
    cases spot <;> simp_all [database?, segments]
  exact absurd (addressable member) (by decide)

end Spot

/-! ## What is planned -/

namespace Expansion

theorem plan_of_segments {definition : Definition} {id : String} {path : List Segment}
    (read : Node.segments id = .ok path) :
    plan definition (some id) = below definition.engine id := by
  have inner : Node.isTop (some id) = false := by
    have named : id ≠ "" := by
      rintro rfl
      cases read
    have apart : id ≠ Node.rootId := by
      rintro rfl
      cases read
    simp [Node.isTop, named, apart]
  simp [plan, inner]

def atSpot (id : Node.Id) : Spot → Expansion
  | .database name => .schemas (some name) (some id)
  | .schema .. => .folders id
  | .folder owner group kind => .objects owner (some group) kind id
  | .top | .object .. | .column .. => .leaf

theorem plan_atSpot {definition : Definition} {spot : Spot} {id : Node.Id}
    (composed : Node.Id.compose spot.segments = .ok id) :
    plan definition (some id.text) = .ok (atSpot id spot) := by
  have read := Node.Id.segments_of_compose composed
  have path := spot.ofId_eq composed none
  have whole := spot.ofText_eq composed
  rw [plan_of_segments read, below, Node.classify_of_segments read]
  -- With the database and the folder known, the segments and all that is read from them compute.
  rcases spot with _ | _ | ⟨_ | _, _⟩ | ⟨_ | _, _, _⟩ | ⟨_ | _, _, _ | _ | _, _⟩ |
      ⟨_ | _, _, _ | _ | _, _, _⟩ <;>
    simp only [path, whole] <;> rfl

end Expansion

namespace Gateway

variable {σ : Type} (backend : Backend σ) {definition : Definition} {connection : String}
  {session : Session σ}

section Known

variable (known : session.registry.definitions.find? connection = some definition)

include known

theorem on_ask_definition :
    (ask fun registry => registry.definition connection).on session =
      (.ok definition, session) := by
  rw [ask, on_ofSession, Registry.definition, known]

theorem expand_of_plan {parent : Option String} {expansion : Expansion}
    (planned : Expansion.plan definition parent = .ok expansion) :
    (expand backend connection parent).on session =
      (list backend connection expansion).on session := by
  rw [expand, on_bind_of_ok _ (on_ask_definition known), planned, on_bind_of_ok _ (on_lift _ _)]

theorem columns_of_spot {spot : Spot} {id : Node.Id}
    (composed : Node.Id.compose spot.segments = .ok id) {table : String}
    (suited : spot.path.tableOf id.text = .ok table) :
    (columns backend connection id.text).on session =
      (pool backend connection spot.database? >>= fun pool =>
        listColumns backend pool spot.path.schema table id).on session := by
  rw [columns, on_bind_of_ok _ (on_ask_definition known), spot.ofId_eq composed,
    on_bind_of_ok _ (on_lift _ _), suited, on_bind_of_ok _ (on_lift _ _), spot.ofText_eq composed,
    on_bind_of_ok _ (on_lift _ _), Spot.database_path]

end Known

end Gateway

end SqlGateway
