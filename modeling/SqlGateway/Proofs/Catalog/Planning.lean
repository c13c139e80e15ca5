import SqlGateway.Catalog.Hierarchy
import SqlGateway.Proofs.Node.Path

/-!
# What is planned for a node

Every text has a plan, even one that names nothing. The texts that stand for the root show the top
of the hierarchy; for all others the last segment decides what is listed, and the last names of the
id say where: `plan_follows_last`.
-/

namespace SqlGateway.Expansion

open Node (Folder Segment last)

def rootAliases : List (Option String) := [none, some "", some "root"]

/-- The plan that belongs to a parent. -/
inductive Follows (definition : Definition) : Option String → Expansion → Prop
  | allDatabases {parent : Option String} (top : parent ∈ rootAliases)
      (shown : definition.engine.hasDatabaseLevel = false ∨ definition.showAllDatabases = true) :
      Follows definition parent .databases
  | oneDatabase {parent : Option String} (top : parent ∈ rootAliases)
      (level : definition.engine.hasDatabaseLevel = true)
      (hidden : definition.showAllDatabases = false) :
      Follows definition parent (.schemas definition.database none)
  | objects {id : String} {path : List Segment} {folder : Folder}
      (read : Node.segments id = .ok path) (ends : path.getLast? = some (.folder folder)) :
      Follows definition (some id) (.objects (last Segment.database? path)
        ((last Segment.schema? path).or definition.engine.defaultSchema) folder ⟨id⟩)
  | folders {id : String} {path : List Segment} {schema : String}
      (read : Node.segments id = .ok path) (ends : path.getLast? = some (.schema schema)) :
      Follows definition (some id) (.folders ⟨id⟩)
  | schemas {id : String} {path : List Segment} {database : String}
      (read : Node.segments id = .ok path) (ends : path.getLast? = some (.database database)) :
      Follows definition (some id) (.schemas (some database) (some ⟨id⟩))
  | leaf {id : String} {path : List Segment} (read : Node.segments id = .ok path)
      (ends : ∀ segment, path.getLast? = some segment →
        segment.kind ≠ .folder ∧ segment.kind ≠ .schema ∧ segment.kind ≠ .database) :
      Follows definition (some id) .leaf

theorem isTop_iff {parent : Option String} : Node.isTop parent = true ↔ parent ∈ rootAliases := by
  rw [Node.isTop, Bool.or_eq_true, Bool.or_eq_true, decide_eq_true_iff, decide_eq_true_iff,
    decide_eq_true_iff, or_assoc]
  simp [rootAliases, Node.rootId]

theorem not_top_of_segments {id : String} {path : List Segment}
    (read : Node.segments id = .ok path) : some id ∉ rootAliases := by
  have inner := Node.exists_segments_iff.mp ⟨path, read⟩
  simpa [rootAliases, Node.rootId] using inner

def ofLast (engine : Engine) (id : String) (path : List Segment) : Expansion :=
  match path.getLast? with
  | some (.folder folder) =>
    .objects (last Segment.database? path)
      ((last Segment.schema? path).or engine.defaultSchema) folder ⟨id⟩
  | some (.schema _) => .folders ⟨id⟩
  | some (.database database) => .schemas (some database) (some ⟨id⟩)
  | some (.table _) | some (.view _) | some (.function _) | some (.column _) | none => .leaf

section Plan

variable {definition : Definition} {parent : Option String} {id : String} {path : List Segment}

theorem plan_of_top (isTop : parent ∈ rootAliases) :
    plan definition parent = .ok (top definition) := by
  rw [← isTop_iff] at isTop
  cases parent with
  | none => rfl
  | some id => rw [plan, if_pos isTop]

theorem plan_of_read (read : Node.segments id = .ok path) :
    plan definition (some id) = .ok (ofLast definition.engine id path) := by
  have inner : ¬Node.isTop (some id) = true := isTop_iff.not.mpr (not_top_of_segments read)
  have whole : Node.Id.ofText id = .ok ⟨id⟩ := by rw [Node.Id.ofText, read]
  have addressed := Node.Path.ofId_eq read none
  rw [plan, if_neg inner, below, Node.classify_of_segments read, ofLast, addressed, whole]
  cases ends : path.getLast? with
  | none => rfl
  | some segment =>
    cases segment with
    | folder folder =>
      have found : last Segment.folder? path = some folder := Node.last_of_getLast? ends rfl
      rw [found, ite_self, Option.or_none]
      cases last Segment.schema? path <;> rfl
    | database database =>
      have found : last Segment.database? path = some database := Node.last_of_getLast? ends rfl
      rw [found]
      rfl
    | schema | table | view | function | column => rfl

theorem follows_top (isTop : parent ∈ rootAliases) :
    Follows definition parent (top definition) := by
  rw [top]
  cases level : definition.engine.hasDatabaseLevel with
  | false => exact .allDatabases isTop (.inl level)
  | true =>
    cases shown : definition.showAllDatabases with
    | true => exact .allDatabases isTop (.inr shown)
    | false => exact .oneDatabase isTop level shown

theorem follows_ofLast (read : Node.segments id = .ok path) :
    Follows definition (some id) (ofLast definition.engine id path) := by
  rw [ofLast]
  split
  · next ends => exact .objects read ends
  · next ends => exact .folders read ends
  · next ends => exact .schemas read ends
  all_goals
    next ends =>
    refine .leaf read fun segment found => ?_
    rw [ends] at found
    cases found
    try exact ⟨nofun, nofun, nofun⟩

theorem Follows.plan_eq {expansion : Expansion} (follows : Follows definition parent expansion) :
    plan definition parent = .ok expansion := by
  cases follows with
  | allDatabases isTop shown =>
    rw [plan_of_top isTop, top]
    rcases shown with level | shown
    · rw [level]
      rfl
    · rw [shown, Bool.or_true, if_pos rfl]
  | oneDatabase isTop level hidden =>
    rw [plan_of_top isTop, top, level, hidden]
    rfl
  | objects read ends | folders read ends | schemas read ends =>
    rw [plan_of_read read, ofLast, ends]
  | leaf read ends =>
    rw [plan_of_read read, ofLast]
    split
    · next found => exact absurd rfl (ends _ found).1
    · next found => exact absurd rfl (ends _ found).2.1
    · next found => exact absurd rfl (ends _ found).2.2
    all_goals rfl

theorem exists_follows (definition : Definition) (parent : Option String) :
    ∃ expansion, plan definition parent = .ok expansion ∧
      Follows definition parent expansion := by
  by_cases isTop : parent ∈ rootAliases
  · exact ⟨_, plan_of_top isTop, follows_top isTop⟩
  · cases parent with
    | none => exact absurd List.mem_cons_self isTop
    | some id =>
      have inner : id ≠ "" ∧ id ≠ Node.rootId := by
        simpa [rootAliases, Node.rootId] using isTop
      rcases Node.exists_segments_iff.mpr inner with ⟨path, read⟩
      exact ⟨_, plan_of_read read, follows_ofLast read⟩

end Plan

theorem folderNode_eq (node : Node.Id) (folder : Folder) :
    folderNode node folder = .ok
      (.make ⟨node.text ++ (".folder:" ++ folder.name)⟩ folder.label .folder node.text) := by
  have reached : node.child (.folder folder) = .ok ⟨node.text ++ (".folder:" ++ folder.name)⟩ := by
    rw [Node.Id.child_eq_ok_iff]
    cases folder <;> exact ⟨by decide, rfl⟩
  rw [folderNode, reached]
  rfl

/-- Every parent has a plan. The texts that stand for the root get the databases of the server, or
the schemas of the default database; for any other text the last segment decides. The folders under
a node can always be listed. -/
theorem plan_follows_last (definition : Definition) (parent : Option String) :
    (∃ expansion, plan definition parent = .ok expansion) ∧
    (∀ expansion, plan definition parent = .ok expansion ↔ Follows definition parent expansion) ∧
    ∀ node, folderNodes node = .ok (Folder.all.map fun folder =>
      .make ⟨node.text ++ (".folder:" ++ folder.name)⟩ folder.label .folder node.text) := by
  rcases exists_follows definition parent with ⟨expansion, planned, follows⟩
  refine ⟨⟨expansion, planned⟩, ?plans, ?nodes⟩
  case plans =>
    intro other
    constructor
    · intro alsoPlanned
      rw [planned, Except.ok.injEq] at alsoPlanned
      exact alsoPlanned ▸ follows
    · exact Follows.plan_eq
  case nodes =>
    intro node
    rw [folderNodes, Folder.all]
    simp only [List.mapM_cons, List.mapM_nil, folderNode_eq]
    rfl

-- Names may be repeated and stand in any order, and tokens that are not understood are left out.
example :
    let id := "schema:a.db:x.schema:b.index:7.db:y.folder:views"
    plan ⟨"c", .sqlServer, "h", none, none, none, none, false, false, false, .standard⟩ (some id) =
      .ok (.objects (some "y") (some "b") .views ⟨id⟩) := rfl

end SqlGateway.Expansion
