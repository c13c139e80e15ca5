import SqlGateway.Proofs.Catalog.Server
import SqlGateway.Proofs.Node.Id

/-!
# Ids of children and columns

A child's id is the parent's with one more token behind it. Where the parent's id has a colon, it
reads back as the parent's segments and the child's own, so the columns of a table still lead to
the table. A table name that stands by itself has no colon, and with a token behind it the name is
no longer understood: `extends_iff_colon`.
-/

namespace SqlGateway

namespace Node

theorem filterMap_pieces_of_bare {text : List Char} (bare : ':' ∉ text) :
    (Text.pieces '.' text).filterMap Segment.ofToken? = [] := by
  rw [List.filterMap_eq_nil_iff]
  intro piece member
  exact Segment.ofToken?_of_not_mem fun inside =>
    bare (Text.subset_of_mem_pieces member inside)

namespace Id

theorem segments_of_bare_child {id next : Id} {segment : Segment} (bare : ':' ∉ id.text.toList)
    (reached : id.child segment = .ok next) : segments next.text = .ok [segment] := by
  rw [segments_child reached, filterMap_pieces_of_bare bare, List.nil_append]

theorem segments_child_iff {id next : Id} {path : List Segment} {segment : Segment}
    (read : segments id.text = .ok path) (reached : id.child segment = .ok next) :
    segments next.text = .ok (path ++ [segment]) ↔ ':' ∈ id.text.toList := by
  constructor
  · intro extended
    apply Decidable.byContradiction
    intro bare
    rw [segments_of_bare_child bare reached, segments_of_bare bare read] at extended
    simp at extended
  · exact fun colon => segments_of_child colon read reached

end Id

namespace Path

theorem complete_add_column (path : Path) (name : String) (schema : Option String) :
    (path.add (.column name)).complete schema = (path.complete schema).add (.column name) := by
  by_cases needed : (path.schema.isNone && path.object.isSome) = true <;>
    simp [complete, add, needed]

theorem ofId_column_iff {id next : Id} {path : Path} {name : String} {schema : Option String}
    (addressed : ofId id.text schema = .ok path)
    (reached : id.child (.column name) = .ok next) :
    ofId next.text schema = .ok { path with column := some name } ↔ ':' ∈ id.text.toList := by
  cases read : segments id.text with
  | error failure => simp [ofId, read] at addressed
  | ok segments =>
    rw [ofId_of_segments read, Except.ok.injEq] at addressed
    constructor
    · intro extended
      apply Decidable.byContradiction
      intro bare
      rw [ofId_of_segments (Id.segments_of_bare_child bare reached)] at extended
      rw [segments_of_bare bare read] at addressed
      subst addressed
      simp [add, complete, empty] at extended
    · intro colon
      rw [ofId_of_segments (Id.segments_of_child colon read reached), List.foldl_append,
        ← addressed]
      exact congrArg Except.ok (complete_add_column _ name schema)

end Path

end Node

theorem CatalogObject.mem_ofColumns {table : Node.Id} {columns : List CatalogColumn}
    {node : CatalogObject} (member : node ∈ ofColumns table columns) :
    table.child (.column node.name) = .ok ⟨node.id⟩ := by
  rw [ofColumns, List.mem_filterMap] at member
  rcases member with ⟨found, -, built⟩
  cases reached : table.child (.column found.name) with
  | error failure => simp [reached] at built
  | ok id =>
    rw [reached, Option.some.injEq] at built
    subst built
    exact reached

namespace Gateway

variable {σ : Type} {backend : Backend σ} {connection node : String} {session after : Session σ}

theorem exists_of_columns {nodes : List CatalogObject}
    (ran : (columns backend connection node).on session = (.ok nodes, after)) :
    ∃ path found, Node.segments node = .ok path ∧
      nodes = CatalogObject.ofColumns ⟨node⟩ found := by
  rcases exists_of_on_bind ran with ⟨definition, _, -, ran⟩
  rcases exists_of_on_bind ran with ⟨path, _, -, ran⟩
  rcases exists_of_on_bind ran with ⟨table, _, -, ran⟩
  rcases exists_of_on_bind ran with ⟨id, _, accepted, ran⟩
  rcases exists_of_on_bind ran with ⟨pool, _, -, ran⟩
  rcases exists_of_on_bind ran with ⟨rows, _, -, ran⟩
  rcases exists_of_on_bind ran with ⟨found, _, -, ran⟩
  rw [on_lift, Prod.mk.injEq, Node.Id.ofText] at accepted
  split at accepted
  · cases accepted.1
  · next path read =>
    have same := Except.ok.inj accepted.1
    subst same
    split at ran
    · cases ran
    · cases ran
      exact ⟨path, found, read, rfl⟩

/-- The segments of a child are those of its parent and its own exactly if the parent's id has a
colon. Likewise, the columns that are listed for an id address what the id does exactly if it has a
colon. -/
theorem extends_iff_colon {σ : Type} (backend : Backend σ) (connection : String)
    (parent : Node.Id) :
    (∀ (next : Node.Id) (path : List Node.Segment) (segment : Node.Segment),
      Node.segments parent.text = .ok path → parent.child segment = .ok next →
      (Node.segments next.text = .ok (path ++ [segment]) ↔ ':' ∈ parent.text.toList)) ∧
    ∀ (session after : Session σ) (nodes : List CatalogObject) (schema : Option String),
      (columns backend connection parent.text).on session = (.ok nodes, after) →
      ∃ path, Node.Path.ofId parent.text schema = .ok path ∧
        ∀ column ∈ nodes,
          (Node.Path.ofId column.id schema = .ok { path with column := some column.name } ↔
            ':' ∈ parent.text.toList) := by
  constructor
  · intro next path segment read reached
    exact Node.Id.segments_child_iff read reached
  · intro session after nodes schema ran
    rcases exists_of_columns ran with ⟨path, found, read, rfl⟩
    refine ⟨_, Node.Path.ofId_of_segments read schema, ?_⟩
    intro column member
    exact Node.Path.ofId_column_iff (Node.Path.ofId_of_segments read schema)
      (CatalogObject.mem_ofColumns member)

theorem extends_iff_colon_listed :
    let definition : Definition :=
      ⟨"c", .postgres, "h", none, none, none, none, false, false, false, .standard⟩
    let session : Session Unit := { Session.start () with
      registry := { Registry.empty with definitions := Entries.empty.insert "c" definition } }
    let backend := Backend.ofNames fun _ => ["id"]
    let path : List Node.Segment := [.schema "shop", .table "orders"]
    let column : CatalogObject :=
      .column ⟨"users.column:id"⟩ "id" "users" (.make "text" false none none)
    (Node.segments "schema:shop.index:7.table:orders" = .ok path ∧
      Node.Id.child ⟨"schema:shop.index:7.table:orders"⟩ (.column "id") =
        .ok ⟨"schema:shop.index:7.table:orders.column:id"⟩ ∧
      Node.segments "schema:shop.index:7.table:orders.column:id" = .ok (path ++ [.column "id"])) ∧
    ∃ after, (columns backend "c" "users").on session = (.ok [column], after) ∧
      Node.Path.ofId column.id none ≠ .ok ⟨none, none, none, some (.table "users"), some "id"⟩ := by
  intro definition session backend path column
  have read : Node.segments "schema:shop.index:7.table:orders" = .ok path := rfl
  have reached : Node.Id.child ⟨"schema:shop.index:7.table:orders"⟩ (.column "id") =
    .ok ⟨"schema:shop.index:7.table:orders.column:id"⟩ := rfl
  have outcome : ((columns backend "c" "users").on session).1 = .ok [column] := by
    dsimp only [session, definition, backend, column]
    rfl
  have listed : (columns backend "c" "users").on session = (.ok [column], _) :=
    Prod.ext outcome rfl
  refine ⟨⟨read, reached, ?extended⟩, _, listed, ?forgotten⟩
  case extended =>
    exact ((extends_iff_colon backend "c" ⟨"schema:shop.index:7.table:orders"⟩).1 _ path _ read
      reached).mpr (by decide)
  case forgotten =>
    rcases (extends_iff_colon backend "c" ⟨"users"⟩).2 session _ _ none listed with
      ⟨path, addressed, extended⟩
    cases addressed
    exact (extended column List.mem_cons_self).not.mpr (by decide)

/-- A column of a table whose name stands by itself does not lead to the table. -/
theorem not_extends_of_bareName :
    ¬∀ (parent next : Node.Id) (path : List Node.Segment) (segment : Node.Segment),
      Node.Id.ofText parent.text = .ok parent → Node.segments parent.text = .ok path →
      path ≠ [] → parent.child segment = .ok next →
      Node.segments next.text = .ok (path ++ [segment]) := by
  intro claimed
  have extended := claimed ⟨"users"⟩ ⟨"users.column:id"⟩ [.table "users"] (.column "id")
    rfl rfl (by decide) rfl
  have read : Node.segments "users.column:id" = .ok [.column "id"] := rfl
  rw [read] at extended
  simp at extended

end Gateway

end SqlGateway
