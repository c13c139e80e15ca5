import Mathlib.Data.List.Nodup
import SqlGateway.Json.Decode

/-!
# Values that decoders read back

For each plain kind of value, and for the lists, maps and options of them, the decoder gives back
what the value was written from. For a record, it is enough that no name stands twice, that each
known member can be decoded, and that its fields are then read as they were: `record_object`.
-/

namespace SqlGateway

namespace Entries

variable {β : Type}

theorem put_of_notMem {name : String} {pairs : List (String × β)}
    (fresh : name ∉ pairs.map Prod.fst) (value : β) :
    put name value pairs = pairs ++ [(name, value)] := by
  induction pairs with
  | nil => rfl
  | cons first rest induction =>
    rw [List.map_cons, List.mem_cons, not_or] at fresh
    rw [put, if_neg fun same => fresh.1 same.symm, induction fresh.2, List.cons_append]

theorem toList_foldl_insert {pairs : List (String × β)} {entries : Entries β}
    (distinct : ((entries.toList ++ pairs).map Prod.fst).Nodup) :
    (pairs.foldl (fun entries pair => entries.insert pair.1 pair.2) entries).toList =
      entries.toList ++ pairs := by
  induction pairs generalizing entries with
  | nil => simp
  | cons pair rest induction =>
    have fresh : pair.1 ∉ entries.toList.map Prod.fst := by
      intro member
      rw [List.map_append, List.nodup_append'] at distinct
      exact distinct.2.2 member (by simp)
    have inserted : (entries.insert pair.1 pair.2).toList = entries.toList ++ [pair] :=
      put_of_notMem fresh pair.2
    rw [List.foldl_cons, induction (by rwa [inserted, List.append_assoc]), inserted,
      List.append_assoc, List.singleton_append]

theorem ofList_toList (entries : Entries β) : ofList entries.toList = entries :=
  ext (toList_foldl_insert (show ((empty.toList ++ entries.toList).map Prod.fst).Nodup from
    entries.distinct))

theorem lookup_eq_none {name : String} {pairs : List (String × β)}
    (missing : name ∉ pairs.map Prod.fst) : lookup name pairs = none := by
  induction pairs with
  | nil => rfl
  | cons first rest induction =>
    rw [List.map_cons, List.mem_cons, not_or] at missing
    rw [lookup, if_neg fun same => missing.1 same.symm, induction missing.2]

end Entries

namespace Json

/-! Reading goes on with what has been read. -/

@[simp] theorem ok_bind {α β : Type} (item : α) (next : α → Except DecodeError β) :
    (Except.ok item >>= next) = next item := rfl

@[simp] theorem error_bind {α β : Type} (error : DecodeError) (next : α → Except DecodeError β) :
    (Except.error error >>= next) = .error error := rfl

/-! ## Plain values -/

namespace Decoder

@[simp] theorem value_eq (found : Value) : value found = .ok found := rfl

@[simp] theorem string_string (text : String) : string (.string text) = .ok text := rfl

@[simp] theorem bool_bool (flag : Bool) : bool (.bool flag) = .ok flag := rfl

@[simp] theorem optional_null {α : Type} (decoder : Decoder α) :
    optional decoder .null = .ok none := rfl

@[simp] theorem optional_string (text : String) :
    optional string (.string text) = .ok (some text) := rfl

@[simp] theorem optional_bool (flag : Bool) :
    optional bool (.bool flag) = .ok (some flag) := rfl

@[simp] theorem optional_ofText? (text : Option String) :
    optional string (.ofText? text) = .ok text := by
  cases text <;> rfl

theorem natBelow_ofNat {limit count : Nat} (below : count < limit) (fits : limit ≤ UInt64.size)
    (expected : String) : natBelow limit expected (.ofNat count) = .ok count := by
  have bounds : -9223372036854775808 ≤ (count : Int) ∧ (count : Int) < 18446744073709551616 := by
    rw [UInt64.size] at fits
    omega
  have inside : 0 ≤ (count : Int) ∧ (count : Int) < limit := by omega
  simp [natBelow, Value.ofNat, Value.ofInteger, Integer.ofInt?, bounds, inside]

@[simp] theorem uint16_ofNat (count : UInt16) : uint16 (.ofNat count.toNat) = .ok count := by
  rw [uint16, natBelow_ofNat count.toNat_lt (by decide)]
  simp [Except.map]

@[simp] theorem uint32_ofNat (count : UInt32) : uint32 (.ofNat count.toNat) = .ok count := by
  rw [uint32, natBelow_ofNat count.toNat_lt (by decide)]
  simp [Except.map]

@[simp] theorem uint64_ofNat (count : UInt64) : uint64 (.ofNat count.toNat) = .ok count := by
  rw [uint64, natBelow_ofNat count.toNat_lt (by decide)]
  simp [Except.map]

theorem ofNat_toNat (count : UInt64) : Value.ofNat count.toNat = .ofUInt64 count := by
  have below := count.toNat_lt
  have bounds : -9223372036854775808 ≤ (count.toNat : Int) ∧
      (count.toNat : Int) < 18446744073709551616 := by omega
  simp [Value.ofNat, Value.ofUInt64, Integer.ofInt?, Integer.ofUInt64, bounds]

@[simp] theorem uint64_ofUInt64 (count : UInt64) : uint64 (.ofUInt64 count) = .ok count := by
  rw [← ofNat_toNat, uint64_ofNat]

theorem optional_some {α : Type} {decoder : Decoder α} {found : Value} {item : α}
    (present : found ≠ .null) (read : decoder found = .ok item) :
    optional decoder found = .ok (some item) := by
  cases found with
  | null => exact absurd rfl present
  | bool | number | string | array | object => simp [optional, read, Except.map]

@[simp] theorem optional_ofUInt64 (count : UInt64) :
    optional uint64 (.ofUInt64 count) = .ok (some count) :=
  optional_some nofun (uint64_ofUInt64 count)

/-! ## Lists and maps -/

theorem list_map {α : Type} {decoder : Decoder α} {write : α → Value}
    (read : ∀ item, decoder (write item) = .ok item) (items : List α) :
    list decoder (.array (items.map write)) = .ok items := by
  induction items with
  | nil => rfl
  | cons first rest induction =>
    rw [list] at induction ⊢
    rw [List.map_cons, List.mapM_cons, read, induction]
    rfl

@[simp] theorem list_string (texts : List String) :
    list string (.array (texts.map .string)) = .ok texts :=
  list_map string_string texts

@[simp] theorem entries_ofEntries (pairs : Entries Value) :
    entries value (.ofEntries pairs) = .ok pairs := by
  have members : pairs.toList.mapM (fun member =>
      (value member.2).map fun item => (member.1, item)) = .ok pairs.toList := by
    induction pairs.toList with
    | nil => rfl
    | cons first rest induction =>
      rw [List.mapM_cons, induction]
      rfl
  rw [Value.ofEntries, entries, members]
  exact congrArg Except.ok pairs.ofList_toList

end Decoder

/-! ## Records -/

section Records

variable {α : Type} {checks : List FieldCheck} {members : List (String × Value)}

def Passes (checks : List FieldCheck) (member : String × Value) : Prop :=
  ∀ check, Entries.lookup member.1 checks = some check → check member.2 = .ok ()

@[simp] theorem passes_nil (member : String × Value) : Passes [] member := nofun

theorem fieldCheck_eq_ok {name : String} {decoder : Decoder α} {found : Value} :
    (fieldCheck name decoder).2 found = .ok () ↔ ∃ item, decoder found = .ok item := by
  cases read : decoder found <;> simp [fieldCheck, read, Except.map]

@[simp] theorem passes_fieldCheck (name other : String) (decoder : Decoder α) (found : Value) :
    Passes (fieldCheck other decoder :: checks) (name, found) ↔
      if other = name then ∃ item, decoder found = .ok item else Passes checks (name, found) := by
  have first : Entries.lookup name (fieldCheck other decoder :: checks) =
      if other = name then some (fieldCheck other decoder).2 else Entries.lookup name checks := rfl
  rw [Passes, first]
  split
  · simp only [Option.some.injEq, forall_eq', fieldCheck_eq_ok]
  · rfl

theorem checkMembersAfter_eq_ok {seen : List String}
    (distinct : (members.map Prod.fst).Nodup) (fresh : ∀ member ∈ members, member.1 ∉ seen)
    (pass : ∀ member ∈ members, Passes checks member) :
    checkMembersAfter checks seen members = .ok () := by
  induction members generalizing seen with
  | nil => rfl
  | cons member rest induction =>
    rw [List.map_cons, List.nodup_cons] at distinct
    rw [List.forall_mem_cons] at fresh pass
    rw [checkMembersAfter]
    cases known : Entries.lookup member.1 checks with
    | none => exact induction distinct.2 fresh.2 pass.2
    | some check =>
      -- The name is seen now, and none of the members behind it has it.
      have still : ∀ other ∈ rest, other.1 ∉ member.1 :: seen := by
        intro other listed
        rw [List.mem_cons, not_or]
        refine ⟨fun same => distinct.1 ?_, fresh.2 other listed⟩
        exact same ▸ List.mem_map_of_mem listed
      simp only [if_neg fresh.1, pass.1 check known]
      exact induction distinct.2 still pass.2

theorem checkMembers_eq_ok (distinct : (members.map Prod.fst).Nodup)
    (pass : ∀ member ∈ members, Passes checks member) :
    checkMembers checks members = .ok () :=
  checkMembersAfter_eq_ok distinct (fun _ _ => List.not_mem_nil) pass

theorem record_object {typeName : String} {build : Fields → Except DecodeError α} {result : α}
    (distinct : (members.map Prod.fst).Nodup) (pass : ∀ member ∈ members, Passes checks member)
    (built : build (.named members) = .ok result) :
    record typeName checks build (.object members) = .ok result := by
  rw [record, checkMembers_eq_ok distinct pass]
  exact built

namespace Fields

@[simp] theorem get_cons (key name : String) (found : Value) (decoder : Decoder α) (index : Nat)
    (absence : Absence α) :
    (named ((key, found) :: members)).get index name decoder absence =
      if key = name then decoder found
      else (named members).get index name decoder absence := by
  by_cases same : key = name <;> simp [get, Entries.lookup, same]

@[simp] theorem get_nil_anywhere (name : String) (decoder : Decoder α) (index : Nat) (item : α) :
    (named []).get index name decoder (.anywhere item) = .ok item := rfl

@[simp] theorem get_nil_refused (name : String) (decoder : Decoder α) (index : Nat) :
    (named []).get index name decoder .refused = .error (.missingField name) := rfl

end Fields

end Records

end Json

end SqlGateway
