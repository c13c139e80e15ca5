/-!
# Named values in order of first appearance

`Entries` is a map from names that keeps the order in which names first appeared: writing a name
again replaces its value in place. The main statements say which names a write leaves
(`names_insert`) and which value is found under a name afterwards (`find?_insert`). Changing all
values commutes with writing and with erasing (`insert_mapValues`, `erase_mapValues`).
-/

namespace SqlGateway

/-- Pairs of a name and a value, no name twice. -/
structure Entries (β : Type) where
  toList : List (String × β)
  distinct : (toList.map Prod.fst).Nodup

namespace Entries

variable {β γ : Type}

instance [DecidableEq β] : DecidableEq (Entries β) := fun left right =>
  if equal : left.toList = right.toList then
    isTrue (by cases left; cases right; simp_all)
  else isFalse fun same => equal (by rw [same])

theorem ext {left right : Entries β} (equal : left.toList = right.toList) : left = right := by
  cases left; cases right; simp_all

def empty : Entries β := ⟨[], .nil⟩

instance : Inhabited (Entries β) := ⟨empty⟩

def names (entries : Entries β) : List String := entries.toList.map Prod.fst

def isEmpty (entries : Entries β) : Bool := entries.toList.isEmpty

def put (name : String) (value : β) : List (String × β) → List (String × β)
  | [] => [(name, value)]
  | (key, old) :: rest =>
    if key = name then (key, value) :: rest else (key, old) :: put name value rest

def lookup (name : String) : List (String × β) → Option β
  | [] => none
  | (key, value) :: rest => if key = name then some value else lookup name rest

theorem keys_put (name : String) (value : β) (pairs : List (String × β)) :
    (put name value pairs).map Prod.fst =
      if name ∈ pairs.map Prod.fst then pairs.map Prod.fst
      else pairs.map Prod.fst ++ [name] := by
  induction pairs with
  | nil => simp [put]
  | cons head tail induction =>
    obtain ⟨key, old⟩ := head
    by_cases same : key = name
    · simp [put, same]
    · have other : name ≠ key := fun equal => same equal.symm
      simp only [put, same, ↓reduceIte, List.map_cons, induction, List.mem_cons, other, false_or]
      split <;> simp

theorem lookup_put (name other : String) (value : β) (pairs : List (String × β)) :
    lookup other (put name value pairs) =
      if other = name then some value else lookup other pairs := by
  induction pairs with
  | nil => simp [put, lookup, eq_comm]
  | cons head tail induction =>
    obtain ⟨key, old⟩ := head
    by_cases same : key = name
    · subst same
      by_cases asked : other = key
      · simp [put, lookup, asked]
      · have apart : ¬key = other := fun equal => asked equal.symm
        simp [put, lookup, asked, apart]
    · by_cases asked : key = other
      · subst asked
        simp [put, lookup, same]
      · simp [put, lookup, same, asked, induction]

theorem nodup_put {name : String} {value : β} {pairs : List (String × β)}
    (distinct : (pairs.map Prod.fst).Nodup) : ((put name value pairs).map Prod.fst).Nodup := by
  rw [keys_put]
  split
  · exact distinct
  · rename_i fresh
    rw [List.nodup_append]
    refine ⟨distinct, by simp, ?_⟩
    intro left leftMember right rightMember equal
    simp only [List.mem_singleton] at rightMember
    exact fresh (rightMember ▸ equal ▸ leftMember)

def insert (entries : Entries β) (name : String) (value : β) : Entries β :=
  ⟨put name value entries.toList, nodup_put entries.distinct⟩

def erase (entries : Entries β) (name : String) : Entries β :=
  ⟨entries.toList.filter fun pair => pair.1 ≠ name,
    List.Nodup.sublist (List.filter_sublist.map Prod.fst) entries.distinct⟩

def find? (entries : Entries β) (name : String) : Option β := lookup name entries.toList

def ofList (pairs : List (String × β)) : Entries β :=
  pairs.foldl (fun entries pair => entries.insert pair.1 pair.2) empty

theorem lookup_filter_ne (name other : String) (pairs : List (String × β)) :
    lookup other (pairs.filter fun pair => pair.1 ≠ name) =
      if other = name then none else lookup other pairs := by
  induction pairs with
  | nil => simp [lookup]
  | cons head tail induction =>
    obtain ⟨key, value⟩ := head
    by_cases same : key = name
    · subst same
      by_cases asked : other = key
      · simp_all
      · have apart : ¬key = other := fun equal => asked equal.symm
        simp_all [lookup]
    · by_cases asked : key = other
      · subst asked
        simp [lookup, same]
      · simp_all [lookup]

theorem find?_erase (entries : Entries β) (name other : String) :
    (entries.erase name).find? other = if other = name then none else entries.find? other :=
  lookup_filter_ne name other entries.toList

theorem names_insert (entries : Entries β) (name : String) (value : β) :
    (entries.insert name value).names =
      if name ∈ entries.names then entries.names else entries.names ++ [name] :=
  keys_put name value entries.toList

theorem find?_insert (entries : Entries β) (name other : String) (value : β) :
    (entries.insert name value).find? other =
      if other = name then some value else entries.find? other :=
  lookup_put name other value entries.toList

/-! ## Changing all values -/

section MapValues

variable (change : β → γ)

theorem keys_map (pairs : List (String × β)) :
    (pairs.map fun pair => (pair.1, change pair.2)).map Prod.fst = pairs.map Prod.fst := by
  rw [List.map_map]
  rfl

def mapValues (entries : Entries β) : Entries γ where
  toList := entries.toList.map fun pair => (pair.1, change pair.2)
  distinct := by
    rw [keys_map]
    exact entries.distinct

theorem lookup_map (name : String) (pairs : List (String × β)) :
    lookup name (pairs.map fun pair => (pair.1, change pair.2)) =
      (lookup name pairs).map change := by
  induction pairs with
  | nil => rfl
  | cons first rest induction =>
    rw [List.map_cons, lookup, lookup, induction]
    split
    · rfl
    · rfl

theorem put_map (name : String) (value : β) (pairs : List (String × β)) :
    put name (change value) (pairs.map fun pair => (pair.1, change pair.2)) =
      (put name value pairs).map fun pair => (pair.1, change pair.2) := by
  induction pairs with
  | nil => rfl
  | cons first rest induction =>
    rw [List.map_cons, put, put, induction]
    split
    · rfl
    · rfl

variable (entries : Entries β) (name : String)

@[simp]
theorem find?_mapValues : (entries.mapValues change).find? name = (entries.find? name).map change :=
  lookup_map change name entries.toList

theorem insert_mapValues (value : β) :
    (entries.mapValues change).insert name (change value) =
      (entries.insert name value).mapValues change :=
  ext (put_map change name value entries.toList)

theorem erase_mapValues :
    (entries.mapValues change).erase name = (entries.erase name).mapValues change := by
  apply ext
  change (entries.toList.map fun pair => (pair.1, change pair.2)).filter _ = _
  rw [List.filter_map]
  rfl

end MapValues

end Entries

end SqlGateway
