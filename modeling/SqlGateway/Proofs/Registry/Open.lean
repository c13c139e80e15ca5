import Mathlib.Data.List.Count
import SqlGateway.Proofs.Registry.Cells

/-!
# The open pools

The pools that a registry holds, by key and by number. Taking cells takes the pools under their
keys and leaves all others, and splits the number of pools between them; a new cell changes nothing;
and filling the cell of a key adds one pool under this key.
-/

namespace SqlGateway.Registry

def Holds (registry : Registry) (key : PoolKey) (pool : Pool) : Prop :=
  ∃ cell, (key, cell) ∈ registry.places ∧ registry.content cell = some pool

def pools (registry : Registry) (cells : List Nat) : List Pool := cells.filterMap registry.content

variable {registry : Registry} {key : PoolKey}

theorem mem_pools {cells : List Nat} {pool : Pool} :
    pool ∈ registry.pools cells ↔ ∃ cell ∈ cells, registry.content cell = some pool := by
  rw [pools, List.mem_filterMap]

theorem Tidy.nodup_pools (tidy : Tidy registry) {cells : List Nat} (distinct : cells.Nodup) :
    (registry.pools cells).Nodup :=
  distinct.filterMap fun _ _ _ left right => tidy.own left right

theorem length_pools (cells : List Nat) :
    (registry.pools cells).length = cells.countP fun cell => (registry.content cell).isSome :=
  List.length_filterMap_eq_countP

theorem poolCount_eq :
    registry.poolCount = registry.places.countP fun place => (registry.content place.2).isSome :=
  List.countP_eq_length_filter.symm

theorem content_fresh : registry.content registry.cells.length = none := by
  cases filled : registry.content registry.cells.length with
  | none => rfl
  | some pool => exact absurd (lt_of_content filled) (Nat.lt_irrefl _)

/-! ## Taking cells -/

section Take

variable (taken : PoolKey → Bool)

theorem holds_takeWhere (pool : Pool) :
    (registry.takeWhere taken).2.Holds key pool ↔
      registry.Holds key pool ∧ taken key = false := by
  constructor
  · rintro ⟨cell, placed, filled⟩
    have kept := (mem_places_takeWhere ..).mp placed
    exact ⟨⟨cell, kept.1, filled⟩, kept.2⟩
  · rintro ⟨⟨cell, placed, filled⟩, untaken⟩
    exact ⟨cell, (mem_places_takeWhere ..).mpr ⟨placed, untaken⟩, filled⟩

theorem mem_pools_takeWhere (pool : Pool) :
    pool ∈ registry.pools (registry.takeWhere taken).1 ↔
      ∃ key, taken key = true ∧ registry.Holds key pool := by
  rw [mem_pools]
  constructor
  · rintro ⟨cell, member, filled⟩
    rcases (mem_takeWhere ..).mp member with ⟨key, placed, isTaken⟩
    exact ⟨key, isTaken, cell, placed, filled⟩
  · rintro ⟨key, isTaken, cell, placed, filled⟩
    exact ⟨cell, (mem_takeWhere ..).mpr ⟨key, placed, isTaken⟩, filled⟩

theorem Tidy.nodup_pools_takeWhere (tidy : Tidy registry) :
    (registry.pools (registry.takeWhere taken).1).Nodup :=
  tidy.nodup_pools (tidy.numbers.sublist (List.filter_sublist.map Prod.snd))

theorem poolCount_takeWhere :
    (registry.takeWhere taken).2.poolCount +
        (registry.pools (registry.takeWhere taken).1).length =
      registry.poolCount := by
  rw [length_pools, poolCount_eq, poolCount_eq, takeWhere, List.countP_map, Nat.add_comm]
  exact (List.countP_eq_countP_filter_add registry.places _ fun place => taken place.1).symm

end Take

/-! ## Making a cell -/

theorem holds_reserve (key other : PoolKey) (pool : Pool) :
    (registry.reserve key).2.Holds other pool ↔ registry.Holds other pool := by
  have content := content_reserve registry key
  rcases reserve_cases registry key with ⟨cell, -, same⟩ | ⟨-, -, added, -⟩
  · rw [same]
  · rw [Holds, added]
    constructor
    · rintro ⟨cell, placed, filled⟩
      rw [content] at filled
      rw [List.mem_append, List.mem_singleton, Prod.mk.injEq] at placed
      rcases placed with placed | ⟨-, rfl⟩
      · exact ⟨cell, placed, filled⟩
      · exact absurd (lt_of_content filled) (Nat.lt_irrefl _)
    · rintro ⟨cell, placed, filled⟩
      exact ⟨cell, List.mem_append_left _ placed, (content cell).trans filled⟩

theorem poolCount_reserve (key : PoolKey) :
    (registry.reserve key).2.poolCount = registry.poolCount := by
  have content : (registry.reserve key).2.content = registry.content :=
    funext fun cell => content_reserve registry key cell
  rw [poolCount_eq, poolCount_eq, content]
  rcases reserve_cases registry key with ⟨cell, -, same⟩ | ⟨-, -, added, -⟩
  · rw [same]
  · rw [added, List.countP_append]
    simp [content_fresh]

/-! ## Filling the cell of a key -/

section Fill

variable (tidy : Tidy registry) {cell : Nat} (placed : (key, cell) ∈ registry.places)
  (empty : registry.content cell = none) (definition : Definition) (database : Option String)

include tidy placed empty

theorem holds_fill (other : PoolKey) (pool : Pool) :
    (registry.fill cell definition database).2.Holds other pool ↔
      registry.Holds other pool ∨
        other = key ∧ pool = (registry.fill cell definition database).1 := by
  have filled := content_fill_self definition database (tidy.inside placed)
  constructor
  · rintro ⟨own, there, held⟩
    by_cases same : own = cell
    · subst same
      exact .inr ⟨tidy.key_unique there placed, Option.some.inj (held.symm.trans filled)⟩
    · rw [content_fill_of_ne definition database same] at held
      exact .inl ⟨own, there, held⟩
  · rintro (⟨own, there, held⟩ | ⟨rfl, rfl⟩)
    · have apart : own ≠ cell := by
        rintro rfl
        rw [empty] at held
        cases held
      exact ⟨own, there, (content_fill_of_ne definition database apart).trans held⟩
    · exact ⟨cell, placed, filled⟩

theorem poolCount_fill :
    (registry.fill cell definition database).2.poolCount = registry.poolCount + 1 := by
  have once : (registry.places.map Prod.snd).count cell = 1 :=
    List.count_eq_one_of_mem tidy.numbers (List.mem_map_of_mem placed)
  have filled := content_fill_self definition database (tidy.inside placed)
  rw [poolCount_eq, poolCount_eq, ← once]
  change registry.places.countP _ = _
  clear once placed
  induction registry.places with
  | nil => rfl
  | cons place places induction =>
    rw [List.countP_cons, List.countP_cons, List.map_cons, List.count_cons, induction]
    by_cases same : place.2 = cell
    · rw [same, filled, empty]
      simp
      omega
    · rw [content_fill_of_ne definition database same]
      simp [same]
      omega

end Fill

end SqlGateway.Registry
