import Mathlib.Data.List.Forall2
import Mathlib.Data.List.Induction
import SqlGateway.Proofs.Json.Decoding
import SqlGateway.Proofs.Query.Batch

/-!
# Rows by column name

A row is shown as a map from column names. The names of its columns may repeat: then the map has
each name once, at the place of its first column, with the value of its last one, while the list of
columns has them all. So the map has a value for every cell exactly if no name repeats:
`runBatch_names_columns`.
-/

namespace SqlGateway

open Json (Value)

/-! ## Maps that are written pair by pair -/

namespace Entries

variable {β : Type}

theorem ofList_concat (pairs : List (String × β)) (pair : String × β) :
    ofList (pairs ++ [pair]) = (ofList pairs).insert pair.1 pair.2 := by
  rw [ofList, List.foldl_append]
  rfl

theorem names_ofList (pairs : List (String × β)) :
    (ofList pairs).names = (pairs.map Prod.fst).eraseDups := by
  induction pairs using List.reverseRecOn with
  | nil => rfl
  | append_singleton pairs pair induction =>
    have known : pair.1 ∈ (ofList pairs).names ↔ pair.1 ∈ pairs.map Prod.fst := by
      rw [induction, List.mem_eraseDups]
    rw [ofList_concat, names_insert, List.map_append, List.eraseDups_append, ← induction,
      List.map_singleton]
    by_cases member : pair.1 ∈ pairs.map Prod.fst
    · have added : [pair.1].removeAll (pairs.map Prod.fst) = [] := by
        simp [List.removeAll, member]
      rw [if_pos (known.mpr member), added, List.eraseDups_nil, List.append_nil]
    · have added : [pair.1].removeAll (pairs.map Prod.fst) = [pair.1] := by
        simp [List.removeAll, member]
      rw [if_neg (mt known.mp member), added, List.eraseDups_cons]
      rfl

theorem mem_names_ofList {pairs : List (String × β)} {name : String} :
    name ∈ (ofList pairs).names ↔ name ∈ pairs.map Prod.fst := by
  rw [names_ofList, List.mem_eraseDups]

theorem find?_ofList_eq_getLast? (pairs : List (String × β)) (name : String) :
    (ofList pairs).find? name =
      (pairs.filter fun pair => pair.1 = name).getLast?.map Prod.snd := by
  induction pairs using List.reverseRecOn with
  | nil => rfl
  | append_singleton pairs pair induction =>
    rw [ofList_concat, find?_insert, List.filter_append, induction]
    by_cases same : name = pair.1
    · subst same
      simp
    · have other : ¬pair.1 = name := fun equal => same equal.symm
      simp [same, other]

theorem lookup_ne_none {name : String} {pairs : List (String × β)}
    (member : name ∈ pairs.map Prod.fst) : lookup name pairs ≠ none := by
  induction pairs with
  | nil => cases member
  | cons first rest induction =>
    rw [lookup]
    by_cases same : first.1 = name
    · rw [if_pos same]
      exact Option.some_ne_none first.2
    · rw [if_neg same]
      apply induction
      cases member with
      | head => exact absurd rfl same
      | tail _ later => exact later

theorem length_names_ofList (pairs : List (String × β)) :
    (ofList pairs).names.length ≤ pairs.length ∧
      ((ofList pairs).names.length = pairs.length ↔ (pairs.map Prod.fst).Nodup) := by
  induction pairs using List.reverseRecOn with
  | nil => exact ⟨Nat.le_refl _, iff_of_true rfl .nil⟩
  | append_singleton pairs pair induction =>
    have length : (pairs ++ [pair]).length = pairs.length + 1 := List.length_append
    have nodup : ((pairs ++ [pair]).map Prod.fst).Nodup ↔
        pair.1 ∉ pairs.map Prod.fst ∧ (pairs.map Prod.fst).Nodup := by
      rw [List.map_append, List.nodup_append_comm]
      exact List.nodup_cons
    rw [ofList_concat, names_insert, length, nodup]
    by_cases member : pair.1 ∈ pairs.map Prod.fst
    · rw [if_pos (mem_names_ofList.mpr member)]
      refine ⟨Nat.le_succ_of_le induction.1, iff_of_false (by omega) ?_⟩
      exact fun both => both.1 member
    · rw [if_neg (mt mem_names_ofList.mp member), List.length_append, List.length_singleton,
        and_iff_right member, ← induction.2]
      omega

theorem toList_ofList {pairs : List (String × β)} (distinct : (pairs.map Prod.fst).Nodup) :
    (ofList pairs).toList = pairs :=
  toList_foldl_insert distinct

end Entries

/-! ## Rows -/

namespace Row

def shown (engine : Engine) (cell : Column × Datum) : String × Value :=
  (cell.1.name, cell.2.toJson engine cell.1.typeName)

def lastCell? (row : Row) (name : String) : Option (Column × Datum) :=
  (row.cells.filter fun cell => cell.1.name = name).getLast?

/-- A map that shows a row by the names of its columns. -/
structure Shows (engine : Engine) (row : Row) (entries : Entries Value) : Prop where
  names : entries.names = row.columnNames.eraseDups
  values : ∀ name, entries.find? name = ((row.lastCell? name).map (shown engine)).map Prod.snd
  /-- No cell is lost where no name repeats. -/
  whole : row.columnNames.Nodup → entries.toList = row.cells.map (shown engine)
  /-- Where a name repeats, not every cell has an entry. -/
  lost : ¬row.columnNames.Nodup → entries.toList.length < row.cells.length

theorem names_shown (engine : Engine) (row : Row) :
    (row.cells.map (shown engine)).map Prod.fst = row.columnNames := by
  rw [columnNames, columns, List.map_map, List.map_map]
  rfl

theorem toEntries_eq (engine : Engine) (row : Row) :
    row.toEntries engine = .ofList (row.cells.map (shown engine)) := by
  rw [toEntries, Libraries.rowEntries, named, List.map_map]
  rfl

theorem shows_toEntries (engine : Engine) (row : Row) :
    Shows engine row (row.toEntries engine) := by
  have cells := Entries.length_names_ofList (row.cells.map (shown engine))
  rw [names_shown, List.length_map] at cells
  constructor
  case names => rw [toEntries_eq, Entries.names_ofList, names_shown]
  case values =>
    intro name
    rw [toEntries_eq, Entries.find?_ofList_eq_getLast?, List.filter_map, List.getLast?_map]
    rfl
  case whole =>
    intro distinct
    rw [← names_shown engine] at distinct
    rw [toEntries_eq]
    exact Entries.toList_ofList distinct
  case lost =>
    intro repeats
    have fewer := Nat.lt_of_le_of_ne cells.1 (mt cells.2.mp repeats)
    rw [Entries.names, List.length_map] at fewer
    rwa [toEntries_eq]

end Row

namespace Batch

theorem surface_set {engine : Engine} (earlier : List Outcome) {last : Outcome}
    {names : List String} (columns : last.columns = some names)
    (told : last.rows ≠ [] ∨ engine = .sqlServer) :
    needsDescription engine (report engine (earlier ++ [last])) = false ∧
      surface engine (report engine (earlier ++ [last])) none =
        .ofRows names (last.rows.map (Row.toEntries engine)) := by
  cases told with
  | inl returned => exact surface_report engine earlier columns returned none
  | inr isServer =>
    subst isServer
    exact ⟨rfl, lastSet_report earlier columns⟩

theorem columns_resultOf_nil (engine : Engine) (affected : UInt64)
    (described : Option (List String)) :
    (resultOf engine [] affected described).columns = described.getD [] ∧
      (resultOf engine [] affected described).rows = [] := by
  rcases described with _ | _ | ⟨name, names⟩ <;> exact ⟨rfl, rfl⟩

end Batch

namespace Gateway

open Batch (Outcome)

/-- The rows of a result are shown by the names of their columns, and the result lists the names of
all columns.

1. Where the set of rows has a row, and on SQL Server also where it has none, the columns of the
   result are those of the set, and every row is shown by them.
2. Where it has none on PostgreSQL or MySQL, they are those that the prepared statement tells. -/
theorem runBatch_names_columns {σ : Type} (backend : Backend σ) (pool : Pool) (sql : String)
    (session : Session σ) (earlier : List Outcome) (last : Outcome) {servers : σ}
    (answers : backend.batch pool sql session.servers =
      (⟨Batch.report pool.engine (earlier ++ [last]), .complete⟩, servers))
    {names : List String} (columns : last.columns = some names) :
    (last.rows ≠ [] ∨ pool.engine = .sqlServer → ∃ result,
      (runBatch backend pool sql).on session =
        (.ok result, { session with servers }.log (.batch pool sql)) ∧
      result.columns = names ∧
      (∀ row ∈ last.rows, row.columnNames = names) ∧
      List.Forall₂ (Row.Shows pool.engine) last.rows result.rows) ∧
    (last.rows = [] → pool.engine ≠ .sqlServer → ∀ described after,
      backend.describe pool sql servers = (described, after) → ∃ result,
        (runBatch backend pool sql).on session =
          (.ok result, { session with servers := after }.log (.batch pool sql)) ∧
        result.columns = described.getD [] ∧ result.rows = []) := by
  constructor
  · intro told
    have shown := Batch.surface_set earlier columns told
    refine ⟨_, on_runBatch_of_rows answers shown.1, ?_⟩
    rw [shown.2]
    refine ⟨rfl, ?_, ?_⟩
    · intro row member
      exact Option.some.inj ((last.named row member).symm.trans columns)
    · apply List.forall₂_map_right_iff.mpr
      exact List.forall₂_same.mpr fun row _ => row.shows_toEntries pool.engine
  · intro empty completes described after describes
    have asked : Batch.needsDescription pool.engine
        (Batch.report pool.engine (earlier ++ [last])) = true := by
      rw [Batch.needsDescription_report completes, empty]
      rfl
    refine ⟨_, on_runBatch_of_described answers asked describes, ?_⟩
    rw [Batch.surface_of_completes completes, Batch.lastStatement_report completes, empty]
    exact Batch.columns_resultOf_nil pool.engine last.affected described

/-- Of two columns of one name, the map shows the second one at the place of the first. -/
theorem runBatch_names_columns_repeated :
    let pool : Pool := ⟨0, ⟨"c", .postgres, "h", none, none, none, none, false, false, false,
      .standard⟩, none⟩
    let row : Row := ⟨[(⟨"a", "TEXT"⟩, .text "x"), (⟨"b", "TEXT"⟩, .text "y"),
      (⟨"a", "TEXT"⟩, .text "z")]⟩
    let last : Outcome := ⟨some ["a", "b", "a"], [row], 1, by
      intro _ member
      rw [List.mem_singleton.mp member]
      rfl⟩
    ∃ result, (runBatch (reporting (Batch.report .postgres ([] ++ [last]))) pool "q").on
        (.start ()) = (.ok result, (Session.start ()).log (.batch pool "q")) ∧
      result.columns = ["a", "b", "a"] ∧
      ∃ entries, result.rows = [entries] ∧ entries.names = ["a", "b"] ∧
        entries.find? "a" = some (.string "z") := by
  intro pool row last
  have named := runBatch_names_columns (reporting (Batch.report .postgres ([] ++ [last]))) pool "q"
    (.start ()) [] last rfl rfl
  rcases named.1 (.inl (List.cons_ne_nil _ _)) with ⟨result, ran, columns, -, rows⟩
  rcases List.forall₂_cons_left_iff.mp rows with ⟨entries, more, shows, none, listed⟩
  rw [List.forall₂_nil_left_iff.mp none] at listed
  exact ⟨result, ran, columns, entries, listed, shows.names,
    (shows.values "a").trans (by decide)⟩

end Gateway

end SqlGateway
