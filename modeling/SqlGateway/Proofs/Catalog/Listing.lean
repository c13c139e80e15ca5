import SqlGateway.Proofs.Catalog.Server
import SqlGateway.Proofs.Node.Id

/-!
# What a listing shows

Names become nodes under a parent. Those that can stand in an id are listed in order, and the id of
each is composed of the segments of the parent and one of its own. So a node's id has the kind of
the node, and no two names share one: `Children.lists`.
-/

namespace SqlGateway

open Node (Folder Segment)

def Node.Addressable (name : String) : Prop :=
  name.toList ≠ [] ∧ '.' ∉ name.toList ∧ ':' ∉ name.toList

instance (name : String) : Decidable (Node.Addressable name) := inferInstanceAs (Decidable (_ ∧ _))

def ObjectKind.nodeKind : ObjectKind → Node.Kind
  | .database => .database
  | .schema => .schema
  | .folder => .folder
  | .table => .table
  | .view => .view
  | .function => .function
  | .column => .column

/-- The nodes listed under a parent are those of the addressable names, in order. -/
structure Lists (parent : String) (kind : ObjectKind) (names : List String)
    (nodes : List CatalogObject) : Prop where
  names : nodes.map CatalogObject.name = names.filter fun name => Node.Addressable name
  parents : ∀ node ∈ nodes, node.parentId = parent
  kinds : ∀ node ∈ nodes, node.kind = kind ∧ Node.classify node.id = kind.nodeKind
  ids : ∀ left ∈ nodes, ∀ right ∈ nodes, left.name ≠ right.name → left.id ≠ right.id

/-! ## Nodes and segments -/

namespace Node.Segment

def objectKind : Segment → ObjectKind
  | .database _ => .database
  | .schema _ => .schema
  | .folder _ => .folder
  | .table _ => .table
  | .view _ => .view
  | .function _ => .function
  | .column _ => .column

def label : Segment → String
  | .folder group => group.label
  | .database name | .schema name | .table name | .view name | .function name
  | .column name => name

@[simp] theorem nodeKind_objectKind (segment : Segment) :
    segment.objectKind.nodeKind = segment.kind := by
  cases segment <;> rfl

end Node.Segment

structure Node.Naming {α : Type} (kind : ObjectKind) (nameOf : α → String)
    (segment : α → Segment) : Prop where
  kind : ∀ item, (segment item).objectKind = kind
  label : ∀ item, (segment item).label = nameOf item
  addressable_iff : ∀ item, (segment item).Addressable ↔ Addressable (nameOf item)

namespace Node

theorem naming_database : Naming .database (fun name => name) .database :=
  ⟨fun _ => rfl, fun _ => rfl, fun _ => .rfl⟩

theorem naming_schema : Naming .schema (fun name => name) .schema :=
  ⟨fun _ => rfl, fun _ => rfl, fun _ => .rfl⟩

theorem naming_object (folder : Folder) :
    Naming folder.objectKind (fun name => name) folder.segment := by
  cases folder <;> exact ⟨fun _ => rfl, fun _ => rfl, fun _ => .rfl⟩

theorem naming_column :
    Naming .column CatalogColumn.name fun found => .column found.name :=
  ⟨fun _ => rfl, fun _ => rfl, fun _ => .rfl⟩

theorem naming_folder : Naming .folder Folder.label .folder := by
  refine ⟨fun _ => rfl, fun _ => rfl, fun folder => ?_⟩
  cases folder <;> decide

end Node

structure CatalogObject.Marks (node : CatalogObject) (segment : Segment) : Prop where
  kind : node.kind = segment.objectKind
  name : node.name = segment.label

/-- The nodes listed under a parent whose id is composed of the segments `above`. -/
structure Children (above : List Segment) (parent : String) (kind : ObjectKind)
    (names : List String) (nodes : List CatalogObject) : Prop where
  names : nodes.map CatalogObject.name = names.filter fun name => Node.Addressable name
  parents : ∀ node ∈ nodes, node.parentId = parent
  kinds : ∀ node ∈ nodes, node.kind = kind
  marks : ∀ node ∈ nodes, ∃ segment, node.Marks segment ∧
    Node.Id.compose (above ++ [segment]) = .ok ⟨node.id⟩

theorem Children.lists {above : List Segment} {parent : String} {kind : ObjectKind}
    {names : List String} {nodes : List CatalogObject}
    (children : Children above parent kind names nodes) : Lists parent kind names nodes where
  names := children.names
  parents := children.parents
  kinds node member := by
    have sort := children.kinds node member
    rcases children.marks node member with ⟨segment, marks, composed⟩
    refine ⟨sort, ?_⟩
    rw [Node.classify_of_segments (Node.Id.segments_of_compose composed), ← sort, marks.kind]
    simp
  ids left leftMember right rightMember apart same := by
    rcases children.marks left leftMember with ⟨segment, leftMarks, leftComposed⟩
    rcases children.marks right rightMember with ⟨other, rightMarks, rightComposed⟩
    have read := Node.Id.segments_of_compose leftComposed
    rw [same] at read
    have equal := Except.ok.inj (read.symm.trans (Node.Id.segments_of_compose rightComposed))
    have equal : segment = other := by simpa using equal
    exact apart (by rw [leftMarks.name, rightMarks.name, equal])

/-! ## Building nodes -/

namespace Node.Id

def Composed (parent : Option Id) (above : List Segment) : Prop :=
  match parent with
  | none => above = []
  | some id => compose above = .ok id

variable {parent : Option Id} {above : List Segment} (composed : Composed parent above)
  {segment : Segment}

include composed

theorem under_eq : under parent segment = compose (above ++ [segment]) := by
  cases parent with
  | none =>
    have top : above = [] := composed
    rw [top]
    rfl
  | some id =>
    have composed : compose above = .ok id := composed
    rw [compose_concat (compose_eq_ok_iff.mp composed).1, composed]
    rfl

theorem under_of_addressable (addressable : segment.Addressable) :
    ∃ id, under parent segment = .ok id ∧ compose (above ++ [segment]) = .ok id := by
  have others : ∀ segment ∈ above, segment.Addressable := by
    cases parent with
    | none => simp [show above = [] from composed]
    | some id => exact (compose_eq_ok_iff.mp composed).2.1
  have all : ∀ lower ∈ above ++ [segment], lower.Addressable := by
    simpa [or_imp, forall_and, addressable] using others
  rw [under_eq composed]
  exact ⟨_, compose_eq_ok_iff.mpr ⟨by simp, all, rfl⟩, compose_eq_ok_iff.mpr ⟨by simp, all, rfl⟩⟩

theorem compose_of_under {id : Id} (reached : under parent segment = .ok id) :
    segment.Addressable ∧ compose (above ++ [segment]) = .ok id := by
  rw [under_eq composed] at reached
  exact ⟨(compose_eq_ok_iff.mp reached).2.1 segment (by simp), reached⟩

end Node.Id

namespace CatalogObject

def node? (parent : Option Node.Id) (segment : Segment) (details : Option ColumnDetails) :
    Option CatalogObject :=
  match Node.Id.under parent segment with
  | .ok id =>
    some ⟨id.text, segment.label, segment.objectKind,
      (parent.map Node.Id.text).getD Node.rootId, segment.objectKind.hasChildren, details⟩
  | .error _ => none

variable {parent : Option Node.Id} {above : List Segment}
  (composed : Node.Id.Composed parent above) {segment : Segment} {details : Option ColumnDetails}

include composed

theorem exists_node? (addressable : segment.Addressable) :
    ∃ node, node? parent segment details = some node ∧ node.name = segment.label := by
  rcases Node.Id.under_of_addressable composed addressable with ⟨id, reached, -⟩
  rw [node?, reached]
  exact ⟨_, rfl, rfl⟩

theorem of_node? {node : CatalogObject} (built : node? parent segment details = some node) :
    segment.Addressable ∧ node.Marks segment ∧
      node.parentId = (parent.map Node.Id.text).getD Node.rootId ∧
      Node.Id.compose (above ++ [segment]) = .ok ⟨node.id⟩ := by
  rw [node?] at built
  split at built
  · next id reached =>
    cases built
    rcases Node.Id.compose_of_under composed reached with ⟨addressable, extended⟩
    exact ⟨addressable, ⟨rfl, rfl⟩, rfl, extended⟩
  · cases built

theorem children_node? {α : Type} {kind : ObjectKind} {nameOf : α → String}
    {segment : α → Segment} (naming : Node.Naming kind nameOf segment)
    (details : α → Option ColumnDetails) (items : List α) :
    Children above ((parent.map Node.Id.text).getD Node.rootId) kind (items.map nameOf)
      (items.filterMap fun item => node? parent (segment item) (details item)) where
  names := by
    induction items with
    | nil => rfl
    | cons item rest induction =>
      cases built : node? parent (segment item) (details item) with
      | none =>
        have refused : ¬Node.Addressable (nameOf item) := by
          intro addressable
          rcases exists_node? composed ((naming.addressable_iff item).mpr addressable) with
            ⟨node, found, -⟩
          rw [built] at found
          cases found
        simp [built, refused, induction]
      | some node =>
        rcases of_node? composed built with ⟨addressable, marks, -⟩
        have addressable := (naming.addressable_iff item).mp addressable
        simp [built, addressable, marks.name, naming.label, induction]
  parents node member := by
    rcases List.mem_filterMap.mp member with ⟨item, -, built⟩
    exact (of_node? composed built).2.2.1
  kinds node member := by
    rcases List.mem_filterMap.mp member with ⟨item, -, built⟩
    exact (of_node? composed built).2.1.kind.trans (naming.kind item)
  marks node member := by
    rcases List.mem_filterMap.mp member with ⟨item, -, built⟩
    rcases of_node? composed built with ⟨-, marks, -, extended⟩
    exact ⟨segment item, marks, extended⟩

theorem children_ofNames {kind : ObjectKind} {segment : String → Segment}
    (naming : Node.Naming kind (fun name => name) segment) (names : List String) :
    Children above ((parent.map Node.Id.text).getD Node.rootId) kind names
      (ofNames parent kind segment names) := by
  have children := children_node? composed naming (fun _ => none) names
  have same : (fun name => node? parent (segment name) none) = fun name =>
      match Node.Id.under parent (segment name) with
      | .ok id => some (make id name kind ((parent.map Node.Id.text).getD Node.rootId))
      | .error _ => none := by
    funext name
    rw [node?, naming.label, naming.kind]
    rfl
  rwa [List.map_id', same] at children

end CatalogObject

section Under

variable {parent : Node.Id} {above : List Segment} (composed : Node.Id.compose above = .ok parent)

include composed

theorem CatalogObject.children_ofColumns (columns : List CatalogColumn) :
    Children above parent.text .column (columns.map CatalogColumn.name)
      (ofColumns parent columns) := by
  have below : Node.Id.Composed (some parent) above := composed
  exact children_node? below Node.naming_column (fun found =>
    some (.make found.dataType found.nullable found.fallback found.keyConstraint)) columns

theorem Expansion.exists_folderNodes :
    ∃ nodes, folderNodes parent = .ok nodes ∧
      Children above parent.text .folder (Folder.all.map Folder.label) nodes := by
  have below : Node.Id.Composed (some parent) above := composed
  have built (folder : Folder) : ∃ node, folderNode parent folder = .ok node ∧
      CatalogObject.node? (some parent) (.folder folder) none = some node := by
    have addressable : (Segment.folder folder).Addressable := by cases folder <;> decide
    rcases Node.Id.under_of_addressable below addressable with ⟨id, reached, -⟩
    refine ⟨_, ?_, by rw [CatalogObject.node?, reached]⟩
    have reached : parent.child (.folder folder) = .ok id := reached
    rw [folderNode, reached]
    rfl
  rcases built .tables with ⟨tables, tablesBuilt, tablesShown⟩
  rcases built .views with ⟨views, viewsBuilt, viewsShown⟩
  rcases built .functions with ⟨functions, functionsBuilt, functionsShown⟩
  refine ⟨[tables, views, functions], ?_, ?_⟩
  · simp [folderNodes, Folder.all, tablesBuilt, viewsBuilt, functionsBuilt]
    rfl
  · have children :=
      CatalogObject.children_node? below Node.naming_folder (fun _ => none) Folder.all
    simpa [Folder.all, tablesShown, viewsShown, functionsShown] using children

end Under

end SqlGateway
