import Mathlib.Data.List.Nodup
import SqlGateway.Registry.Basic

/-!
# What the sections of a registry change

A registry is seen through five things: which definition each connection has, which cell stands
under which key, which pool a cell holds, whether it is busy, and how many cells there are. Each
section is described by what it does to these, and no later proof looks into a section.
-/

namespace SqlGateway.Registry

variable (registry : Registry)

/-! ## Looking up -/

theorem mem_places_of_place? {registry : Registry} {key : PoolKey} {cell : Nat}
    (found : registry.place? key = some cell) : (key, cell) ∈ registry.places := by
  rw [place?, Option.map_eq_some_iff] at found
  rcases found with ⟨⟨other, number⟩, found, rfl⟩
  have equal : other = key := by simpa using List.find?_some found
  rw [← equal]
  exact List.mem_of_find?_eq_some found

theorem place?_eq_none_iff {registry : Registry} {key : PoolKey} :
    registry.place? key = none ↔ ∀ cell, (key, cell) ∉ registry.places := by
  rw [place?, Option.map_eq_none_iff, List.find?_eq_none]
  constructor
  · intro absent cell member
    simpa using absent _ member
  · rintro absent ⟨other, cell⟩ member equal
    have equal : other = key := by simpa using equal
    exact absent cell (equal ▸ member)

theorem place?_eq_some_iff {registry : Registry}
    (distinct : (registry.places.map Prod.fst).Nodup) {key : PoolKey} {cell : Nat} :
    registry.place? key = some cell ↔ (key, cell) ∈ registry.places := by
  constructor
  · exact mem_places_of_place?
  · intro member
    cases found : registry.place? key with
    | none => exact absurd member (place?_eq_none_iff.mp found cell)
    | some other =>
      have same := List.inj_on_of_nodup_map distinct member (mem_places_of_place? found) rfl
      rw [(Prod.mk.inj same).2]

theorem isCurrent_iff {registry : Registry} (distinct : (registry.places.map Prod.fst).Nodup)
    {key : PoolKey} {cell : Nat} :
    registry.isCurrent key cell = true ↔ (key, cell) ∈ registry.places := by
  rw [isCurrent, decide_eq_true_iff, place?_eq_some_iff distinct]

theorem lt_of_content {registry : Registry} {cell : Nat} {pool : Pool}
    (filled : registry.content cell = some pool) : cell < registry.cells.length := by
  apply Nat.lt_of_not_le
  intro outside
  simp [content, List.getElem?_eq_none outside] at filled

/-! ## Marking and filling a cell -/

@[simp] theorem places_setBusy (cell : Nat) (busy : Bool) :
    (registry.setBusy cell busy).places = registry.places := rfl

@[simp] theorem length_setBusy (cell : Nat) (busy : Bool) :
    (registry.setBusy cell busy).cells.length = registry.cells.length := by
  simp [setBusy]

@[simp] theorem content_setBusy (cell other : Nat) (busy : Bool) :
    (registry.setBusy cell busy).content other = registry.content other := by
  simp only [content, setBusy, List.getElem?_modify]
  cases registry.cells[other]? with
  | none => rfl
  | some found => by_cases same : cell = other <;> simp [same]

theorem isBusy_setBusy_self {registry : Registry} {cell : Nat}
    (inside : cell < registry.cells.length) (busy : Bool) :
    (registry.setBusy cell busy).isBusy cell = busy := by
  simp [isBusy, setBusy, inside]

theorem isBusy_setBusy_false (cell : Nat) : (registry.setBusy cell false).isBusy cell = false := by
  simp only [isBusy, setBusy, List.getElem?_modify]
  cases registry.cells[cell]? <;> simp

theorem isBusy_setBusy_of_ne {cell other : Nat} (apart : other ≠ cell) (busy : Bool) :
    (registry.setBusy cell busy).isBusy other = registry.isBusy other := by
  have apart : cell ≠ other := fun equal => apart equal.symm
  simp [isBusy, setBusy, apart]

section Fill

variable (cell : Nat) (definition : Definition) (database : Option String)

@[simp] theorem places_fill :
    (registry.fill cell definition database).2.places = registry.places := rfl

@[simp] theorem opened_fill :
    (registry.fill cell definition database).2.opened = registry.opened + 1 := rfl

@[simp] theorem length_fill :
    (registry.fill cell definition database).2.cells.length = registry.cells.length := by
  simp [fill]

variable {registry cell}

theorem content_fill_self (inside : cell < registry.cells.length) :
    (registry.fill cell definition database).2.content cell =
      some (registry.fill cell definition database).1 := by
  simp [content, fill, inside]

theorem content_fill_of_ne {other : Nat} (apart : other ≠ cell) :
    (registry.fill cell definition database).2.content other = registry.content other := by
  have apart : cell ≠ other := fun equal => apart equal.symm
  simp [content, fill, apart]

theorem isBusy_fill_self : (registry.fill cell definition database).2.isBusy cell = false := by
  simp only [isBusy, fill, List.getElem?_modify]
  cases registry.cells[cell]? <;> simp

theorem isBusy_fill_of_ne {other : Nat} (apart : other ≠ cell) :
    (registry.fill cell definition database).2.isBusy other = registry.isBusy other := by
  have apart : cell ≠ other := fun equal => apart equal.symm
  simp [isBusy, fill, apart]

end Fill

/-! ## Making a cell -/

section Reserve

variable (key : PoolKey)

@[simp] theorem definitions_reserve :
    (registry.reserve key).2.definitions = registry.definitions := by
  rw [reserve]
  split <;> rfl

@[simp] theorem opened_reserve : (registry.reserve key).2.opened = registry.opened := by
  rw [reserve]
  split <;> rfl

theorem length_le_reserve :
    registry.cells.length ≤ (registry.reserve key).2.cells.length := by
  rw [reserve]
  split <;> simp

private theorem getElem?_new_cell (other : Nat) :
    (registry.cells ++ [(⟨none, false⟩ : Cell)])[other]? =
      if other = registry.cells.length then some ⟨none, false⟩ else registry.cells[other]? := by
  rcases Nat.lt_trichotomy other registry.cells.length with less | equal | more
  · rw [List.getElem?_append_left less, if_neg (Nat.ne_of_lt less)]
  · simp [equal]
  · rw [List.getElem?_eq_none (by simp; omega), List.getElem?_eq_none (by omega),
      if_neg (Nat.ne_of_gt more)]

@[simp] theorem content_reserve (other : Nat) :
    (registry.reserve key).2.content other = registry.content other := by
  rw [reserve]
  split
  · rfl
  · simp only [content, getElem?_new_cell]
    split
    · next equal => simp [equal]
    · rfl

@[simp] theorem isBusy_reserve (other : Nat) :
    (registry.reserve key).2.isBusy other = registry.isBusy other := by
  rw [reserve]
  split
  · rfl
  · simp only [isBusy, getElem?_new_cell]
    split
    · next equal => simp [equal]
    · rfl

theorem mem_reserve : (key, (registry.reserve key).1) ∈ (registry.reserve key).2.places := by
  rw [reserve]
  split
  · next found => exact mem_places_of_place? found
  · simp

theorem reserve_cases :
    (∃ cell, (key, cell) ∈ registry.places ∧ registry.reserve key = (cell, registry)) ∨
      (∀ cell, (key, cell) ∉ registry.places) ∧
        (registry.reserve key).1 = registry.cells.length ∧
        (registry.reserve key).2.places = registry.places ++ [(key, registry.cells.length)] ∧
        (registry.reserve key).2.cells.length = registry.cells.length + 1 := by
  rw [reserve]
  split
  · next cell found => exact .inl ⟨cell, mem_places_of_place? found, rfl⟩
  · next absent => exact .inr ⟨place?_eq_none_iff.mp absent, rfl, rfl, by simp⟩

end Reserve

/-! ## Taking cells -/

section Take

variable (taken : PoolKey → Bool)

@[simp] theorem mem_places_takeWhere (key : PoolKey) (cell : Nat) :
    (key, cell) ∈ (registry.takeWhere taken).2.places ↔
      (key, cell) ∈ registry.places ∧ taken key = false := by
  simp [takeWhere]

@[simp] theorem mem_takeWhere (cell : Nat) :
    cell ∈ (registry.takeWhere taken).1 ↔
      ∃ key, (key, cell) ∈ registry.places ∧ taken key = true := by
  simp [takeWhere]

end Take

end SqlGateway.Registry
