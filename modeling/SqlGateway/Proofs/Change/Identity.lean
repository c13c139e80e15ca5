import SqlGateway.Proofs.Change.Reading

/-!
# Statements that say which change they make

Two changes of a table with the same statement are the same but for data types, nullability and
defaults, with three exceptions that lie in the words of the engines: `render_identifies`.
-/

namespace SqlGateway.TableChange

open Sql

/-- What a change is and what it names, without the data type, nullability and default of a
column. -/
def identity : TableChange → TableChange
  | .addColumn name _ _ _ => newColumn name
  | .alterColumnType name _ _ => retypedColumn name
  | change => change

theorem kind_identity (change : TableChange) : change.identity.kind = change.kind := by
  cases change <;> rfl

def Interchangeable (left right : Option ReferentialAction) : Prop :=
  left = right ∨ (left = some .restrict ∧ right = some .noAction) ∨
    (left = some .noAction ∧ right = some .restrict)

instance (left right : Option ReferentialAction) : Decidable (Interchangeable left right) :=
  inferInstanceAs (Decidable (_ ∨ _))

theorem interchangeable_iff {left right : Option ReferentialAction} :
    Interchangeable left right ↔
      left.map (stated .sqlServer) = right.map (stated .sqlServer) := by
  cases left with
  | none =>
    cases right with
    | none => decide
    | some right => cases right <;> decide
  | some left =>
    cases right with
    | none => cases left <;> decide
    | some right => cases left <;> cases right <;> decide

/-- The changes that an engine makes in the same words although they differ. -/
inductive Alike : Engine → TableChange → TableChange → Prop where
  /-- Only MySQL drops foreign keys in words of their own. -/
  | dropConstraint {engine : Engine} (other : engine ≠ .mySql) (name : String) :
    Alike engine (.dropPrimaryKey name) (.dropForeignKey name)
  /-- MySQL does not name its primary keys. -/
  | addPrimaryKey (left right : Option String) (columns : List String) :
    Alike .mySql (.addPrimaryKey left columns) (.addPrimaryKey right columns)
  | dropPrimaryKey (left right : String) :
    Alike .mySql (.dropPrimaryKey left) (.dropPrimaryKey right)
  /-- SQL Server has no `RESTRICT`. -/
  | addForeignKey (key : ForeignKey) {onDelete onUpdate : Option ReferentialAction}
    (deletes : Interchangeable key.onDelete onDelete)
    (updates : Interchangeable key.onUpdate onUpdate) :
    Alike .sqlServer (.addForeignKey key) (.addForeignKey { key with onDelete, onUpdate })

variable {engine : Engine} {left right : TableChange}

theorem statedKey_of_ne (restricts : engine ≠ .sqlServer) (key : ForeignKey) :
    statedKey engine key = key := by
  have same : stated engine = id := by
    funext action
    cases engine with
    | sqlServer => exact absurd rfl restricts
    | postgres => rfl
    | mySql => rfl
  simp [statedKey, same]

theorem alike_of_statedKey_eq {key other : ForeignKey}
    (equal : statedKey .sqlServer key = statedKey .sqlServer other) :
    Alike .sqlServer (.addForeignKey key) (.addForeignKey other) := by
  cases key
  cases other
  simp only [statedKey, ForeignKey.mk.injEq] at equal
  rcases equal with ⟨rfl, rfl, rfl, rfl, rfl, deletes, updates⟩
  exact .addForeignKey _ (interchangeable_iff.mpr deletes) (interchangeable_iff.mpr updates)

theorem identity_or_alike_of_shown_eq (equal : left.shown engine = right.shown engine) :
    left.identity = right.identity ∨ Alike engine left right ∨ Alike engine right left := by
  cases left with
  | addColumn | dropColumn | alterColumnType | renameColumn | unknown =>
    -- Every engine shows the changes of columns in full, and shows nothing else as one of them.
    left
    cases engine <;> cases right <;> cases equal <;> rfl
  | addPrimaryKey name columns =>
    cases engine <;> cases right <;> cases equal
    · exact .inl rfl
    · exact .inr (.inl (.addPrimaryKey _ _ _))
    · exact .inl rfl
  | dropPrimaryKey name =>
    cases engine <;> cases right <;> cases equal
    · exact .inl rfl
    · exact .inr (.inl (.dropConstraint (by decide) _))
    · exact .inr (.inl (.dropPrimaryKey _ _))
    · exact .inl rfl
    · exact .inr (.inl (.dropConstraint (by decide) _))
  | dropForeignKey name =>
    cases engine <;> cases right <;> cases equal
    · exact .inr (.inr (.dropConstraint (by decide) _))
    · exact .inl rfl
    · exact .inl rfl
    · exact .inr (.inr (.dropConstraint (by decide) _))
    · exact .inl rfl
  | addForeignKey key =>
    cases right
    case addForeignKey other =>
      have keys : statedKey engine key = statedKey engine other :=
        TableChange.addForeignKey.inj equal
      by_cases restricts : engine = .sqlServer
      · subst restricts
        exact .inr (.inl (alike_of_statedKey_eq keys))
      · rw [statedKey_of_ne restricts, statedKey_of_ne restricts] at keys
        exact .inl (congrArg TableChange.addForeignKey keys)
    all_goals cases engine <;> cases equal

theorem actionClause_congr {left right : Option ReferentialAction}
    (interchangeable : Interchangeable left right) (event : String) :
    actionClause .sqlServer event left = actionClause .sqlServer event right := by
  rcases interchangeable with rfl | ⟨rfl, rfl⟩ | ⟨rfl, rfl⟩ <;> rfl

theorem render_eq_of_alike (alike : Alike engine left right) (quotedTable : String) :
    left.render engine quotedTable = right.render engine quotedTable := by
  cases alike with
  | dropConstraint other name =>
    cases engine with
    | mySql => exact absurd rfl other
    | postgres => rfl
    | sqlServer => rfl
  | addPrimaryKey | dropPrimaryKey => rfl
  | addForeignKey key deletes updates =>
    unfold render renderChars addForeignKeyClause
    simp only [actionClause_congr deletes, actionClause_congr updates]

/-- Against one table, two known changes with the same statement are of the same kind and have the
same columns, new name, constraint name, key columns, referenced schema, table and columns, and
referential actions, unless the engine makes both in the same words. Where it does, the statements
are the same. -/
theorem render_identifies (engine : Engine) (quotedTable : String) (left right : TableChange)
    (known : left ≠ .unknown) (otherKnown : right ≠ .unknown) :
    (left.render engine quotedTable = right.render engine quotedTable →
      (left.kind = right.kind ∧ left.identity = right.identity) ∨
        Alike engine left right ∨ Alike engine right left) ∧
    (Alike engine left right →
      left.render engine quotedTable = right.render engine quotedTable) := by
  refine ⟨fun equal => ?_, fun alike => render_eq_of_alike alike quotedTable⟩
  have read : readStatement engine quotedTable.toList (left.renderChars engine quotedTable.toList) =
      some (left.shown engine) := readStatement_renderChars known
  have shown : some (left.shown engine) = some (right.shown engine) := by
    rw [← read, String.ofList_injective equal, readStatement_renderChars otherKnown]
  rcases identity_or_alike_of_shown_eq (Option.some.inj shown) with same | alike
  · exact .inl ⟨by rw [← kind_identity left, same, kind_identity], same⟩
  · exact .inr alike

theorem render_identifies_key :
    let key : ForeignKey := ⟨"f", ["a", "b"], some "dbo", "u", ["c"], some .restrict, none⟩
    let other : ForeignKey := { key with onDelete := some .noAction }
    TableChange.addForeignKey key ≠ .unknown ∧ TableChange.addForeignKey other ≠ .unknown ∧
      (TableChange.addForeignKey key).render .sqlServer "[t]" =
        (TableChange.addForeignKey other).render .sqlServer "[t]" ∧
      ((TableChange.addForeignKey key).render .postgres "\"t\"" ≠
        (TableChange.addForeignKey other).render .postgres "\"t\"") := by
  intro key other
  have known : TableChange.addForeignKey key ≠ .unknown := by decide
  have otherKnown : TableChange.addForeignKey other ≠ .unknown := by decide
  have alike : Alike .sqlServer (.addForeignKey key) (.addForeignKey other) :=
    .addForeignKey key (by decide) (by decide)
  refine ⟨known, otherKnown,
    (render_identifies .sqlServer "[t]" _ _ known otherKnown).2 alike, fun equal => ?_⟩
  rcases (render_identifies .postgres "\"t\"" _ _ known otherKnown).1 equal with
    ⟨-, same⟩ | alike | alike
  · exact absurd same (by decide)
  · cases alike
  · cases alike

end SqlGateway.TableChange
