import Mathlib.Algebra.BigOperators.Group.List.Basic
import Mathlib.Algebra.GroupWithZero.Nat
import Mathlib.Algebra.Order.BigOperators.Group.List
import Mathlib.Algebra.Order.Group.Nat
import SqlGateway.Proofs.Query.Naming
import SqlGateway.Proofs.Text.Width
import SqlGateway.Report.Table

/-!
# Tables that line up

The lines of a table are as wide as the rules between them, and show every cell in full. The widths
of the columns are taken from the cells that rows have, while a row also shows null where it has no
cell; so a line is wider than the rules by what null overhangs a column that the row lacks:
`table_drawn`.
-/

namespace SqlGateway.Report

open Json (Value)
open Text.Width

/-! ## What a table consists of -/

def measured (result : QueryResult) : List (String × Nat) :=
  result.columns.map fun column => (column, columnWidth result.rows column)

def rule (result : QueryResult) : List Char := separator ((measured result).map Prod.snd)

def names (result : QueryResult) : List Char := header (measured result)

def line (result : QueryResult) (row : Entries Value) : List Char := rowLine (measured result) row

def footer (result : QueryResult) (milliseconds : UInt64) : List Char :=
  (toString result.rows.length ++ (if result.rows.length = 1 then " row" else " rows") ++
    " in set (" ++ seconds milliseconds ++ " sec)\n").toList

def shown (row : Entries Value) (column : String) : List Char :=
  cellChars ((row.find? column).getD .null)

def nullOverhang (rows : List (Entries Value)) (row : Entries Value) (column : String) : Nat :=
  match row.find? column with
  | some _ => 0
  | none => 4 - columnWidth rows column

/-- How far nulls overhang the columns that a row lacks. -/
def overhang (result : QueryResult) (row : Entries Value) : Nat :=
  (result.columns.map (nullOverhang result.rows row)).sum

/-- A line of cells that show texts, each as a whole between blanks. -/
inductive IsLine : List (List Char) → List Char → Prop where
  | ends : IsLine [] ['|', '\n']
  | cell {texts : List (List Char)} {rest : List Char} (before : Nat) (text : List Char)
      (after : Nat) (line : IsLine texts rest) :
      IsLine (text :: texts) ('|' :: ' ' :: (List.replicate before ' ' ++ text ++
        List.replicate after ' ') ++ ' ' :: rest)

/-! ## Widths of columns -/

def widen (column : String) (width : Nat) (row : Entries Value) : Nat :=
  match row.find? column with
  | some value => max width (columns (cellChars value))
  | none => width

theorem le_widen (column : String) (width : Nat) (row : Entries Value) :
    width ≤ widen column width row := by
  fun_cases widen column width row
  · exact Nat.le_max_left _ _
  · exact Nat.le_refl _

section Fold

variable (column : String) (rows : List (Entries Value))

theorem le_foldl_widen (width : Nat) : width ≤ rows.foldl (widen column) width := by
  induction rows generalizing width with
  | nil => exact Nat.le_refl _
  | cons row rows induction => exact Nat.le_trans (le_widen column width row) (induction _)

theorem cell_le_foldl_widen {row : Entries Value} (member : row ∈ rows) {value : Value}
    (present : row.find? column = some value) (width : Nat) :
    columns (cellChars value) ≤ rows.foldl (widen column) width := by
  induction rows generalizing width with
  | nil => cases member
  | cons head rows induction =>
    cases member with
    | head =>
      have here : columns (cellChars value) ≤ widen column width row := by
        rw [widen, present]
        exact Nat.le_max_right _ _
      exact Nat.le_trans here (le_foldl_widen column rows _)
    | tail _ later => exact induction later _

end Fold

theorem columnWidth_eq (rows : List (Entries Value)) (column : String) :
    columnWidth rows column = rows.foldl (widen column) (columns column.toList) := rfl

theorem le_columnWidth (rows : List (Entries Value)) (column : String) :
    columns column.toList ≤ columnWidth rows column := by
  rw [columnWidth_eq]
  exact le_foldl_widen column rows _

theorem cell_le_columnWidth {rows : List (Entries Value)} {row : Entries Value}
    (member : row ∈ rows) {column : String} {value : Value}
    (present : row.find? column = some value) :
    columns (cellChars value) ≤ columnWidth rows column := by
  rw [columnWidth_eq]
  exact cell_le_foldl_widen column rows member present _

/-! ## Widths of lines -/

theorem isPlain_blank : isPlain ' ' = true := by decide

theorem isPlain_bar : isPlain '|' = true := by decide

theorem isPlain_dash : isPlain '-' = true := by decide

theorem isPlain_cross : isPlain '+' = true := by decide

theorem columns_separator (widths : List Nat) :
    columns (separator widths) = (widths.map fun width => 3 + width).sum + 2 := by
  have ends : columns ['+', '\n'] = 2 := by decide
  induction widths with
  | nil => exact ends
  | cons width widths induction =>
    have next : separator (width :: widths) =
        '+' :: (List.replicate (width + 2) '-' ++ separator widths) := by
      rw [separator, List.flatMap_cons]
      simp only [List.cons_append, List.append_assoc]
      rfl
    rw [next, columns_cons isPlain_cross, columns_replicate isPlain_dash, induction, List.map_cons,
      List.sum_cons]
    omega

theorem columns_pad (width : Nat) (right : Bool) (text rest : List Char) :
    columns (pad width right text ++ ' ' :: rest) =
      max width (columns text) + (1 + columns rest) := by
  have blanks (fill : Nat) :
      List.replicate fill ' ' ++ ' ' :: rest = ' ' :: (List.replicate fill ' ' ++ rest) := by
    rw [List.append_cons, ← List.replicate_succ', List.replicate_succ, List.cons_append]
  unfold pad
  cases right with
  | true =>
    simp only [if_true, List.append_assoc]
    rw [columns_replicate isPlain_blank, columns_append text isPlain_blank,
      columns_cons isPlain_blank]
    omega
  | false =>
    simp only [Bool.false_eq_true, if_false, List.append_assoc]
    rw [blanks, columns_append text isPlain_blank, columns_cons isPlain_blank,
      columns_replicate isPlain_blank]
    omega

theorem columns_cell (width : Nat) (right : Bool) (text rest : List Char) :
    columns (cell width right text ++ rest) = 3 + max width (columns text) + columns rest := by
  have parts : cell width right text ++ rest =
      '|' :: ' ' :: (pad width right text ++ ' ' :: rest) := by
    simp only [cell, List.cons_append, List.append_assoc, List.nil_append]
  rw [parts, columns_cons isPlain_bar, columns_cons isPlain_blank, columns_pad]
  omega

/-! ## Lines of cells -/

section Cells

variable (right : String × Nat → Bool) (text : String × Nat → List Char)

def cellLine (pairs : List (String × Nat)) : List Char :=
  pairs.flatMap (fun pair => cell pair.2 (right pair) (text pair)) ++ ['|', '\n']

theorem cellLine_cons (pair : String × Nat) (pairs : List (String × Nat)) :
    cellLine right text (pair :: pairs) =
      cell pair.2 (right pair) (text pair) ++ cellLine right text pairs := by
  rw [cellLine, List.flatMap_cons, List.append_assoc]
  rfl

theorem columns_cellLine (pairs : List (String × Nat)) :
    columns (cellLine right text pairs) =
      (pairs.map fun pair => 3 + max pair.2 (columns (text pair))).sum + 2 := by
  have ends : columns ['|', '\n'] = 2 := by decide
  induction pairs with
  | nil => exact ends
  | cons pair pairs induction =>
    rw [cellLine_cons, columns_cell, induction, List.map_cons, List.sum_cons]
    omega

theorem isLine_cellLine (pairs : List (String × Nat)) :
    IsLine (pairs.map text) (cellLine right text pairs) := by
  induction pairs with
  | nil => exact .ends
  | cons pair pairs induction =>
    let fill := pair.2 - columns (text pair)
    have alone : cell pair.2 (right pair) (text pair) ++ cellLine right text pairs =
        '|' :: ' ' :: pad pair.2 (right pair) (text pair) ++ ' ' :: cellLine right text pairs := by
      rw [cell, List.append_assoc]
      rfl
    rw [cellLine_cons, alone, pad, List.map_cons]
    cases right pair with
    | true =>
      have line := induction.cell fill (text pair) 0
      rw [List.replicate_zero, List.append_nil] at line
      exact line
    | false => exact induction.cell 0 (text pair) fill

end Cells

theorem columns_rule (result : QueryResult) :
    columns (rule result) =
      (result.columns.map fun column => 3 + columnWidth result.rows column).sum + 2 := by
  rw [rule, columns_separator, measured, List.map_map, List.map_map]
  rfl

theorem names_eq (result : QueryResult) :
    names result = cellLine (fun _ => false) (fun pair => pair.1.toList) (measured result) := rfl

theorem line_eq (result : QueryResult) (row : Entries Value) :
    line result row = cellLine (fun pair => isRight ((row.find? pair.1).getD .null))
      (fun pair => shown row pair.1) (measured result) := rfl

theorem columns_names (result : QueryResult) : columns (names result) = columns (rule result) := by
  rw [names_eq, columns_cellLine, columns_rule, measured, List.map_map]
  congr 2
  apply List.map_congr_left
  intro column _
  have least := le_columnWidth result.rows column
  simp only [Function.comp_apply]
  omega

theorem max_shown {rows : List (Entries Value)} {row : Entries Value} (member : row ∈ rows)
    (column : String) :
    max (columnWidth rows column) (columns (shown row column)) =
      columnWidth rows column + nullOverhang rows row column := by
  unfold shown nullOverhang
  cases present : row.find? column with
  | none =>
    have null : columns (cellChars .null) = 4 := by decide
    rw [Option.getD_none, null]
    change max (columnWidth rows column) 4 =
      columnWidth rows column + (4 - columnWidth rows column)
    omega
  | some value => exact Nat.max_eq_left (cell_le_columnWidth member present)

theorem columns_line {result : QueryResult} {row : Entries Value} (member : row ∈ result.rows) :
    columns (line result row) = columns (rule result) + overhang result row := by
  rw [line_eq, columns_cellLine, columns_rule, overhang, measured, List.map_map]
  have cells (listed : List String) :
      (listed.map fun column =>
        3 + max (columnWidth result.rows column) (columns (shown row column))).sum =
      (listed.map fun column => 3 + columnWidth result.rows column).sum +
        (listed.map (nullOverhang result.rows row)).sum := by
    rw [← List.sum_map_add]
    congr 1
    apply List.map_congr_left
    intro column _
    rw [max_shown member, Nat.add_assoc]
  have whole := cells result.columns
  simp only [Function.comp_def]
  omega

theorem overhang_eq_zero_iff (result : QueryResult) (row : Entries Value) :
    overhang result row = 0 ↔
      ∀ column ∈ result.columns, row.find? column = none →
        4 ≤ columnWidth result.rows column := by
  rw [overhang, List.sum_eq_zero_iff, List.forall_mem_map]
  apply forall₂_congr
  intro column _
  fun_cases nullOverhang result.rows row column
  case case1 value present =>
    rw [present]
    exact iff_of_true rfl nofun
  case case2 lacking =>
    rw [forall_prop_of_true lacking]
    exact Nat.sub_eq_zero_iff_le

theorem isLine_names (result : QueryResult) :
    IsLine (result.columns.map String.toList) (names result) := by
  have line := isLine_cellLine (fun _ => false) (fun pair => pair.1.toList) (measured result)
  rw [measured, List.map_map] at line
  exact line

theorem isLine_line (result : QueryResult) (row : Entries Value) :
    IsLine (result.columns.map (shown row)) (line result row) := by
  have line := isLine_cellLine (fun pair => isRight ((row.find? pair.1).getD .null))
    (fun pair => shown row pair.1) (measured result)
  rw [measured, List.map_map] at line
  exact line

theorem toList_table {result : QueryResult} (drawn : result.columns ≠ [])
    (milliseconds : UInt64) :
    (table result milliseconds).toList = rule result ++ names result ++ rule result ++
      (result.rows.map (line result)).flatten ++ rule result ++ footer result milliseconds := by
  have filled : result.columns.isEmpty = false := by
    cases listed : result.columns with
    | nil => exact absurd listed drawn
    | cons column more => rfl
  rw [table, filled, if_neg Bool.false_ne_true]
  simp only [footer, String.toList_append, String.toList_ofList, List.append_assoc]
  rfl

/-- A table shows the names and every cell in full, one line for each row. The line of a row is as
wide as the rules exactly if every column that the row lacks takes at least the four columns of a
null. -/
theorem table_drawn {result : QueryResult} (drawn : result.columns ≠ []) (milliseconds : UInt64) :
    (table result milliseconds).toList = rule result ++ names result ++ rule result ++
        (result.rows.map (line result)).flatten ++ rule result ++ footer result milliseconds ∧
      IsLine (result.columns.map String.toList) (names result) ∧
      columns (names result) = columns (rule result) ∧
      ∀ row ∈ result.rows,
        IsLine (result.columns.map (shown row)) (line result row) ∧
        columns (line result row) = columns (rule result) + overhang result row ∧
        (columns (line result row) = columns (rule result) ↔
          ∀ column ∈ result.columns, row.find? column = none →
            4 ≤ columnWidth result.rows column) := by
  refine ⟨toList_table drawn milliseconds, isLine_names result, columns_names result, ?_⟩
  intro row member
  have width := columns_line member
  refine ⟨isLine_line result row, width, ?_⟩
  rw [width, Nat.add_eq_left]
  exact overhang_eq_zero_iff result row

/-- A null fits below the name of its column. -/
theorem table_drawn_below_name :
    columns (line ⟨[.empty], ["name"], 1⟩ .empty) = columns (rule ⟨[.empty], ["name"], 1⟩) := by
  have drawn := @table_drawn ⟨[.empty], ["name"], 1⟩ nofun 0
  have row := drawn.2.2.2 .empty (.head _)
  apply row.2.2.mpr
  intro column member _
  rw [List.mem_singleton.mp member]
  decide

/-- A null overhangs a column of two. -/
theorem not_table_aligned :
    ¬∀ result : QueryResult, result.columns ≠ [] →
      columns (names result) = columns (rule result) ∧
      ∀ row ∈ result.rows, columns (line result row) = columns (rule result) := by
  intro aligned
  have same := (aligned ⟨[.empty], ["id"], 1⟩ nofun).2 .empty (.head _)
  revert same
  decide

/-- The map of a row that a server returned lacks no column, so the tables of such rows line up. -/
theorem columns_line_of_shows {engine : Engine} {row : Row} {result : QueryResult}
    {entries : Entries Value} (member : entries ∈ result.rows)
    (shows : Row.Shows engine row entries) (named : row.columnNames = result.columns) :
    columns (line result entries) = columns (rule result) := by
  rw [columns_line member, Nat.add_eq_left, overhang_eq_zero_iff]
  intro column listed lacking
  rw [← named, ← List.mem_eraseDups, ← shows.names] at listed
  exact absurd lacking (Entries.lookup_ne_none listed)

end SqlGateway.Report
