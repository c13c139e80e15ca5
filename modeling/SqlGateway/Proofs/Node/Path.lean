import Mathlib.Data.List.Induction
import SqlGateway.Proofs.Node.Id

/-!
# What an id addresses

Of the names of one sort the last one counts, wherever in the id it stands: `Path.ofId_eq`. Every
text but the empty one and the id of the root can be read as an id, and no name in it is empty.
-/

namespace SqlGateway.Node

namespace Segment

def database? : Segment → Option String
  | .database name => some name
  | _ => none

def schema? : Segment → Option String
  | .schema name => some name
  | _ => none

def folder? : Segment → Option Folder
  | .folder group => some group
  | _ => none

def column? : Segment → Option String
  | .column name => some name
  | _ => none

def object? : Segment → Option Segment
  | .table name => some (.table name)
  | .view name => some (.view name)
  | .function name => some (.function name)
  | _ => none

def table? : Segment → Option String
  | .table name | .view name => some name
  | _ => none

end Segment

/-! ## The last of a sort -/

def last {α : Type} (sort : Segment → Option α) (path : List Segment) : Option α :=
  (path.filterMap sort).getLast?

section Last

variable {α : Type} {sort : Segment → Option α} {path : List Segment}

theorem last_concat (sort : Segment → Option α) (front : List Segment) (segment : Segment) :
    last sort (front ++ [segment]) = (sort segment).or (last sort front) := by
  rw [last, List.filterMap_append, List.getLast?_append]
  cases found : sort segment with
  | none => simp [found, last]
  | some value => simp [found]

theorem last_of_getLast? {segment : Segment} {value : α} (ends : path.getLast? = some segment)
    (found : sort segment = some value) : last sort path = some value := by
  rcases List.getLast?_eq_some_iff.mp ends with ⟨front, rfl⟩
  rw [last_concat, found, Option.some_or]

theorem last_eq_none_iff : last sort path = none ↔ ∀ segment ∈ path, sort segment = none := by
  rw [last, List.getLast?_eq_none_iff, List.filterMap_eq_nil_iff]

theorem last_eq_some_iff {value : α} :
    last sort path = some value ↔
      ∃ front segment back, path = front ++ segment :: back ∧ sort segment = some value ∧
        ∀ other ∈ back, sort other = none := by
  rw [last, List.getLast?_eq_some_iff]
  constructor
  · rintro ⟨earlier, all⟩
    rcases List.filterMap_eq_append_iff.mp all with ⟨start, rest, rfl, -, ends⟩
    rcases List.filterMap_eq_cons_iff.mp ends with ⟨between, segment, back, rfl, -, found, none⟩
    refine ⟨start ++ between, segment, back, by simp, found, ?_⟩
    exact List.filterMap_eq_nil_iff.mp none
  · rintro ⟨front, segment, back, rfl, found, none⟩
    refine ⟨front.filterMap sort, ?_⟩
    rw [List.filterMap_append, List.filterMap_cons_some found, List.filterMap_eq_nil_iff.mpr none]

end Last

theorem Path.field_foldl_add {α : Type} {field : Path → Option α} {sort : Segment → Option α}
    (overwrites : ∀ path segment, field (add path segment) = (sort segment).or (field path))
    (start : field empty = none) (path : List Segment) :
    field (path.foldl add empty) = last sort path := by
  induction path using List.reverseRecOn with
  | nil => exact start
  | append_singleton front segment induction =>
    rw [List.foldl_append, List.foldl_cons, List.foldl_nil, overwrites, induction, last_concat]

theorem Path.foldl_add_eq (path : List Segment) :
    path.foldl add empty = ⟨last Segment.database? path, last Segment.schema? path,
      last Segment.folder? path, last Segment.object? path, last Segment.column? path⟩ := by
  have databases : (path.foldl add empty).database = last Segment.database? path :=
    field_foldl_add (fun path segment => by cases segment <;> rfl) rfl path
  have schemas : (path.foldl add empty).schema = last Segment.schema? path :=
    field_foldl_add (fun path segment => by cases segment <;> rfl) rfl path
  have folders : (path.foldl add empty).folder = last Segment.folder? path :=
    field_foldl_add (fun path segment => by cases segment <;> rfl) rfl path
  have objects : (path.foldl add empty).object = last Segment.object? path :=
    field_foldl_add (fun path segment => by cases segment <;> rfl) rfl path
  have columns : (path.foldl add empty).column = last Segment.column? path :=
    field_foldl_add (fun path segment => by cases segment <;> rfl) rfl path
  rw [← databases, ← schemas, ← folders, ← objects, ← columns]

theorem Path.ofId_eq {id : String} {path : List Segment} (read : segments id = .ok path)
    (schema : Option String) :
    ofId id schema = .ok ⟨last Segment.database? path,
      (last Segment.schema? path).or (if (last Segment.object? path).isSome then schema else none),
      last Segment.folder? path, last Segment.object? path, last Segment.column? path⟩ := by
  rw [ofId_of_segments read, foldl_add_eq, complete]
  cases last Segment.schema? path with
  | none => cases last Segment.object? path <;> rfl
  | some => rfl

/-! ## Texts that are read -/

theorem exists_segments_iff {id : String} :
    (∃ path, segments id = .ok path) ↔ id ≠ "" ∧ id ≠ rootId := by
  rw [segments]
  by_cases named : id = ""
  · simp [named]
  · by_cases top : id = rootId
    · simp [top, rootId]
    · by_cases bare : ':' ∉ id.toList <;> simp [named, top, bare]

theorem exists_of_segments_error {id : String} {failure : Failure}
    (refused : segments id = .error failure) : ∃ problem, failure = .node id problem := by
  rw [segments] at refused
  split at refused
  · exact ⟨_, (Except.error.inj refused).symm⟩
  · split at refused
    · exact ⟨_, (Except.error.inj refused).symm⟩
    · split at refused <;> cases refused

theorem Folder.name_of_ofName? {name : String} {folder : Folder}
    (found : ofName? name = some folder) : folder.name = name := by
  simpa using List.find?_some found

theorem Segment.value_of_ofWord? {word value : String} {segment : Segment}
    (found : ofWord? word value = some segment) : segment.value = value := by
  unfold ofWord? at found
  split at found
  case h_3 =>
    rcases Option.map_eq_some_iff.mp found with ⟨folder, named, rfl⟩
    exact Folder.name_of_ofName? named
  case h_8 => cases found
  all_goals
    cases found
    rfl

theorem Segment.value_ne_empty_of_ofToken? {token : List Char} {segment : Segment}
    (read : ofToken? token = some segment) : segment.value ≠ "" := by
  rw [ofToken?] at read
  split at read
  · cases read
  · next word value cut =>
    split at read
    · cases read
    · next filled =>
      rw [value_of_ofWord? read]
      intro empty
      rw [String.ofList_eq_empty_iff] at empty
      simp [empty] at filled

theorem value_ne_empty_of_segments {id : String} {path : List Segment}
    (read : segments id = .ok path) : ∀ segment ∈ path, segment.value ≠ "" := by
  have named := (exists_segments_iff.mp ⟨path, read⟩).1
  by_cases colon : ':' ∈ id.toList
  · rw [segments_of_colon colon, Except.ok.injEq] at read
    subst read
    intro segment member
    rcases List.mem_filterMap.mp member with ⟨token, -, read⟩
    exact Segment.value_ne_empty_of_ofToken? read
  · rw [segments_of_bare colon read]
    intro segment member
    rw [List.mem_singleton.mp member]
    exact named

end SqlGateway.Node
