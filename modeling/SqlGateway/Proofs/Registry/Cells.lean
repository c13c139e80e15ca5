import SqlGateway.Proofs.Registry.Sections

/-!
# Cells and the definitions behind them

A registry is tidy when its places, cells and definitions fit each other; above all, a cell that is
placed holds no pool but one that was opened with the definition its connection has now. A registry
evolves into another when no cell loses its pool, no cell comes back once it was taken, and no
connection with cells changes its definition. Every section keeps the one and does the other.
-/

namespace SqlGateway.Registry

/-- The places, the cells and the definitions of a registry fit each other. -/
structure Tidy (registry : Registry) : Prop where
  keys : (registry.places.map Prod.fst).Nodup
  numbers : (registry.places.map Prod.snd).Nodup
  inside : ∀ {key cell}, (key, cell) ∈ registry.places → cell < registry.cells.length
  known : ∀ {key cell}, (key, cell) ∈ registry.places →
    ∃ definition, registry.definitions.find? key.connection = some definition
  named : ∀ {id definition}, registry.definitions.find? id = some definition →
    definition.id = id
  serial : ∀ {cell pool}, registry.content cell = some pool → pool.serial < registry.opened
  own : ∀ {left right pool}, registry.content left = some pool →
    registry.content right = some pool → left = right
  current : ∀ {key cell pool}, (key, cell) ∈ registry.places →
    registry.content cell = some pool →
    registry.definitions.find? key.connection = some pool.definition ∧
      pool.database = key.database

/-- What those who hold the numbers of cells may count on from one registry to a later one. -/
structure Evolves (before after : Registry) : Prop where
  length : before.cells.length ≤ after.cells.length
  content : ∀ {cell pool}, before.content cell = some pool → after.content cell = some pool
  placed : ∀ {key cell}, (key, cell) ∈ after.places → cell < before.cells.length →
    (key, cell) ∈ before.places ∧
      after.definitions.find? key.connection = before.definitions.find? key.connection

variable {registry : Registry}

theorem Evolves.refl : Evolves registry registry :=
  ⟨Nat.le_refl _, fun filled => filled, fun placed _ => ⟨placed, rfl⟩⟩

theorem Evolves.trans {before between after : Registry} (first : Evolves before between)
    (second : Evolves between after) : Evolves before after where
  length := Nat.le_trans first.length second.length
  content filled := second.content (first.content filled)
  placed placed inside := by
    have later := second.placed placed (Nat.lt_of_lt_of_le inside first.length)
    have earlier := first.placed later.1 inside
    exact ⟨earlier.1, later.2.trans earlier.2⟩

theorem tidy_empty : Tidy empty where
  keys := .nil
  numbers := .nil
  inside placed := nomatch placed
  known placed := nomatch placed
  named known := nomatch known
  serial filled := nomatch filled
  own filled := nomatch filled
  current placed := nomatch placed

theorem Tidy.key_unique (tidy : Tidy registry) {left right : PoolKey} {cell : Nat}
    (first : (left, cell) ∈ registry.places) (second : (right, cell) ∈ registry.places) :
    left = right :=
  (Prod.mk.inj (List.inj_on_of_nodup_map tidy.numbers first second rfl)).1

/-! ## Definitions -/

section Definitions

variable {definitions : Entries Definition}
  (same : ∀ {key cell}, (key, cell) ∈ registry.places →
    definitions.find? key.connection = registry.definitions.find? key.connection)

include same

theorem Tidy.define (tidy : Tidy registry)
    (named : ∀ {id definition}, definitions.find? id = some definition → definition.id = id) :
    Tidy { registry with definitions } where
  keys := tidy.keys
  numbers := tidy.numbers
  inside := tidy.inside
  known placed := by
    rcases tidy.known placed with ⟨definition, known⟩
    exact ⟨definition, (same placed).trans known⟩
  named := named
  serial := tidy.serial
  own := tidy.own
  current placed filled := by
    rcases tidy.current placed filled with ⟨known, database⟩
    exact ⟨(same placed).trans known, database⟩

theorem Evolves.define : Evolves registry { registry with definitions } where
  length := Nat.le_refl _
  content filled := filled
  placed placed _ := ⟨placed, same placed⟩

end Definitions

theorem Tidy.named_insert (tidy : Tidy registry) (definition : Definition) {id : String}
    {found : Definition}
    (known : (registry.definitions.insert definition.id definition).find? id = some found) :
    found.id = id := by
  rw [Entries.find?_insert] at known
  split at known
  · next equal =>
    cases known
    exact equal.symm
  · exact tidy.named known

/-! ## Cells -/

theorem Tidy.setBusy (tidy : Tidy registry) (cell : Nat) (busy : Bool) :
    Tidy (registry.setBusy cell busy) where
  keys := tidy.keys
  numbers := tidy.numbers
  inside placed := by simpa using tidy.inside placed
  known := tidy.known
  named := tidy.named
  serial filled := tidy.serial (by simpa using filled)
  own left right := tidy.own (by simpa using left) (by simpa using right)
  current placed filled := tidy.current placed (by simpa using filled)

theorem Evolves.setBusy (cell : Nat) (busy : Bool) :
    Evolves registry (registry.setBusy cell busy) where
  length := by simp
  content filled := by simpa using filled
  placed placed _ := ⟨placed, rfl⟩

section Fill

variable {cell : Nat} {definition : Definition} {database : Option String}

theorem content_fill_cases {other : Nat} {pool : Pool}
    (filled : (registry.fill cell definition database).2.content other = some pool) :
    registry.content other = some pool ∨
      other = cell ∧ cell < registry.cells.length ∧
        pool = ⟨registry.opened, definition, database⟩ := by
  by_cases same : other = cell
  · have inside := lt_of_content filled
    rw [length_fill, same] at inside
    rw [same, content_fill_self definition database inside] at filled
    exact .inr ⟨same, inside, (Option.some.inj filled).symm⟩
  · rw [content_fill_of_ne definition database same] at filled
    exact .inl filled

theorem Tidy.fill (tidy : Tidy registry)
    (served : ∀ {key}, (key, cell) ∈ registry.places →
      registry.definitions.find? key.connection = some definition ∧ database = key.database) :
    Tidy (registry.fill cell definition database).2 where
  keys := tidy.keys
  numbers := tidy.numbers
  inside placed := by simpa using tidy.inside placed
  known := tidy.known
  named := tidy.named
  serial filled := by
    rw [opened_fill]
    rcases content_fill_cases filled with filled | ⟨-, -, rfl⟩
    · exact Nat.lt_succ_of_lt (tidy.serial filled)
    · exact Nat.lt_succ_self _
  own left right := by
    -- A pool that was there before has a lower serial than the new one.
    rcases content_fill_cases left with first | ⟨sameLeft, -, new⟩ <;>
      rcases content_fill_cases right with second | ⟨sameRight, -, alsoNew⟩
    · exact tidy.own first second
    · rw [alsoNew] at first
      exact absurd (tidy.serial first) (Nat.lt_irrefl _)
    · rw [new] at second
      exact absurd (tidy.serial second) (Nat.lt_irrefl _)
    · rw [sameLeft, sameRight]
  current placed filled := by
    rcases content_fill_cases filled with filled | ⟨rfl, -, rfl⟩
    · exact tidy.current placed filled
    · exact served placed

theorem Evolves.fill (empty : registry.content cell = none) :
    Evolves registry (registry.fill cell definition database).2 where
  length := by simp
  content {other pool} filled := by
    have apart : other ≠ cell := by
      rintro rfl
      rw [empty] at filled
      cases filled
    rwa [content_fill_of_ne definition database apart]
  placed placed _ := ⟨placed, rfl⟩

end Fill

/-! ## Places -/

theorem Tidy.reserve (tidy : Tidy registry) {key : PoolKey} {definition : Definition}
    (known : registry.definitions.find? key.connection = some definition) :
    Tidy (registry.reserve key).2 := by
  rcases reserve_cases registry key with ⟨cell, -, same⟩ | ⟨absent, -, added, length⟩
  · rw [same]
    exact tidy
  · have mem_added {other : PoolKey} {cell : Nat} :
        (other, cell) ∈ (registry.reserve key).2.places ↔
          (other, cell) ∈ registry.places ∨ other = key ∧ cell = registry.cells.length := by
      rw [added, List.mem_append, List.mem_singleton, Prod.mk.injEq]
    constructor
    case keys =>
      rw [added, List.map_append, List.nodup_append]
      refine ⟨tidy.keys, by simp, ?_⟩
      rintro other member last lastMember rfl
      rcases List.mem_map.mp member with ⟨⟨_, cell⟩, placed, rfl⟩
      simp only [List.map_cons, List.map_nil, List.mem_singleton] at lastMember
      exact absent cell (lastMember ▸ placed)
    case numbers =>
      rw [added, List.map_append, List.nodup_append]
      refine ⟨tidy.numbers, by simp, ?_⟩
      rintro number member last lastMember rfl
      rcases List.mem_map.mp member with ⟨⟨other, _⟩, placed, rfl⟩
      simp only [List.map_cons, List.map_nil, List.mem_singleton] at lastMember
      exact Nat.ne_of_lt (tidy.inside placed) lastMember
    case inside =>
      intro other cell placed
      rw [length]
      rcases mem_added.mp placed with placed | ⟨-, rfl⟩
      · exact Nat.lt_succ_of_lt (tidy.inside placed)
      · exact Nat.lt_succ_self _
    case known =>
      intro other cell placed
      rw [definitions_reserve]
      rcases mem_added.mp placed with placed | ⟨rfl, -⟩
      · exact tidy.known placed
      · exact ⟨definition, known⟩
    case named =>
      intro id found known
      rw [definitions_reserve] at known
      exact tidy.named known
    case serial =>
      intro cell pool filled
      rw [content_reserve] at filled
      rw [opened_reserve]
      exact tidy.serial filled
    case own =>
      intro left right pool first second
      rw [content_reserve] at first second
      exact tidy.own first second
    case current =>
      intro other cell pool placed filled
      rw [content_reserve] at filled
      rw [definitions_reserve]
      rcases mem_added.mp placed with placed | ⟨-, rfl⟩
      · exact tidy.current placed filled
      · exact absurd (lt_of_content filled) (Nat.lt_irrefl _)

theorem Evolves.reserve (key : PoolKey) : Evolves registry (registry.reserve key).2 where
  length := length_le_reserve registry key
  content filled := by
    rw [content_reserve]
    exact filled
  placed {other cell} placed inside := by
    rw [definitions_reserve]
    rcases reserve_cases registry key with ⟨_, -, same⟩ | ⟨-, -, added, -⟩
    · rw [same] at placed
      exact ⟨placed, rfl⟩
    · rw [added, List.mem_append, List.mem_singleton, Prod.mk.injEq] at placed
      rcases placed with placed | ⟨-, rfl⟩
      · exact ⟨placed, rfl⟩
      · exact absurd inside (Nat.lt_irrefl _)

section Places

variable {places : List (PoolKey × Nat)} (fewer : places ⊆ registry.places)

include fewer

theorem Tidy.withPlaces (tidy : Tidy registry) (keys : (places.map Prod.fst).Nodup)
    (numbers : (places.map Prod.snd).Nodup) : Tidy { registry with places } where
  keys := keys
  numbers := numbers
  inside placed := tidy.inside (fewer placed)
  known placed := tidy.known (fewer placed)
  named := tidy.named
  serial := tidy.serial
  own := tidy.own
  current placed := tidy.current (fewer placed)

theorem Evolves.withPlaces : Evolves registry { registry with places } where
  length := Nat.le_refl _
  content filled := filled
  placed placed _ := ⟨fewer placed, rfl⟩

end Places

theorem Tidy.takeWhere (tidy : Tidy registry) (taken : PoolKey → Bool) :
    Tidy (registry.takeWhere taken).2 :=
  tidy.withPlaces (List.filter_subset_self _)
    (tidy.keys.sublist (List.filter_sublist.map Prod.fst))
    (tidy.numbers.sublist (List.filter_sublist.map Prod.snd))

theorem Evolves.takeWhere (taken : PoolKey → Bool) :
    Evolves registry (registry.takeWhere taken).2 :=
  .withPlaces (List.filter_subset_self _)

theorem Tidy.reorder (tidy : Tidy registry) {places : List (PoolKey × Nat)}
    (same : places.Perm registry.places) : Tidy { registry with places } :=
  tidy.withPlaces same.subset ((same.map Prod.fst).nodup_iff.mpr tidy.keys)
    ((same.map Prod.snd).nodup_iff.mpr tidy.numbers)

end SqlGateway.Registry
