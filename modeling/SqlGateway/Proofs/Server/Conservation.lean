import Mathlib.Data.List.Nodup
import SqlGateway.Proofs.Server.Calls

/-!
# Calls of the registry one after another

`made` runs calls one after another and keeps their answers. A server can be watched: `tallied`
counts the pools that it opens and the closings that it is asked for. Whatever the calls are and
whatever fails, the open pools of a registry are those that were opened and not closed, its
definitions are the latest that were given, and a call that fails changes neither: `made_conserves`.
-/

namespace SqlGateway

open Registry (Request Answer)

variable {σ : Type}

/-! ## The list of connections -/

namespace Entries

variable {β : Type}

theorem lookup_eq_some_iff {pairs : List (String × β)} (distinct : (pairs.map Prod.fst).Nodup)
    {name : String} {value : β} : lookup name pairs = some value ↔ (name, value) ∈ pairs := by
  induction pairs with
  | nil => simp [lookup]
  | cons head tail induction =>
    obtain ⟨key, first⟩ := head
    rw [List.map_cons, List.nodup_cons] at distinct
    by_cases same : key = name
    · subst same
      have absent : (key, value) ∉ tail := fun member =>
        distinct.1 (List.mem_map.mpr ⟨_, member, rfl⟩)
      simp [lookup, absent, eq_comm]
    · have apart : ¬name = key := fun equal => same equal.symm
      simp [lookup, same, apart, induction distinct.2]

theorem mem_toList_iff (entries : Entries β) {name : String} {value : β} :
    (name, value) ∈ entries.toList ↔ entries.find? name = some value :=
  (lookup_eq_some_iff entries.distinct).symm

end Entries

namespace Registry

variable {registry : Registry} (tidy : Tidy registry)

include tidy

theorem mem_list_iff (summary : ConnectionSummary) :
    summary ∈ registry.list ↔ ∃ definition,
      registry.definitions.find? definition.id = some definition ∧
        summary = .ofDefinition definition := by
  simp only [list, List.mem_map, List.mem_mergeSort, Prod.exists, exists_eq_right]
  constructor
  · rintro ⟨definition, ⟨id, member⟩, rfl⟩
    have known := registry.definitions.mem_toList_iff.mp member
    rw [← tidy.named known] at known
    exact ⟨definition, known, rfl⟩
  · rintro ⟨definition, known, rfl⟩
    exact ⟨definition, ⟨_, registry.definitions.mem_toList_iff.mpr known⟩, rfl⟩

theorem pairwise_list : registry.list.Pairwise fun left right => left.id < right.id := by
  let definitions := registry.definitions.toList.map Prod.snd
  let order (left right : Definition) : Bool := decide (left.id ≤ right.id)
  have named : definitions.map Definition.id = registry.definitions.toList.map Prod.fst := by
    rw [List.map_map]
    apply List.map_congr_left
    rintro ⟨id, definition⟩ member
    exact tidy.named (registry.definitions.mem_toList_iff.mp member)
  have sorted : (definitions.mergeSort order).Pairwise fun left right => order left right := by
    apply List.pairwise_mergeSort
    · simpa [order] using fun _ _ _ => String.le_trans
    · simpa [order] using fun _ _ => String.le_total _ _
  have distinct : ((definitions.mergeSort order).map Definition.id).Nodup := by
    rw [((List.mergeSort_perm definitions order).map Definition.id).nodup_iff, named]
    exact registry.definitions.distinct
  rw [list, List.pairwise_map]
  refine (sorted.and (List.pairwise_map.mp distinct)).imp ?_
  rintro left right ⟨below, apart⟩
  apply String.not_le.mp
  intro above
  exact apart (String.le_antisymm (of_decide_eq_true below) above)

end Registry

/-! ## Watching the servers -/

structure Tally where
  /-- The pools that were opened. -/
  opened : Nat
  /-- The closings that were begun. -/
  closings : Nat
  /-- The closings that succeeded. -/
  closed : Nat

namespace Tally

def zero : Tally := ⟨0, 0, 0⟩

def afterOpening (tally : Tally) (outcome : Except Failure Unit) : Tally :=
  if outcome.isOk then { tally with opened := tally.opened + 1 } else tally

def afterClosing (tally : Tally) (closes : Bool) : Tally :=
  { tally with
    closings := tally.closings + 1
    closed := if closes then tally.closed + 1 else tally.closed }

end Tally

def Backend.tallied (backend : Backend σ) : Backend (σ × Tally) where
  connect definition database state :=
    let (outcome, servers) := backend.connect definition database state.1
    (outcome, (servers, state.2.afterOpening outcome))
  close pool state :=
    let (closes, servers) := backend.close pool state.1
    (closes, (servers, state.2.afterClosing closes))
  batch pool sql state :=
    let (reply, servers) := backend.batch pool sql state.1
    (reply, (servers, state.2))
  execute pool sql parameters state :=
    let (reply, servers) := backend.execute pool sql parameters state.1
    (reply, (servers, state.2))
  describe pool sql state :=
    let (columns, servers) := backend.describe pool sql state.1
    (columns, (servers, state.2))
  querySeconds := backend.querySeconds

namespace Gateway

variable (backend : Backend σ)

theorem tally_closeCells (cells : List Nat) (session : Session (σ × Tally)) :
    (closeCells backend.tallied cells session).2.servers.2 =
      { session.servers.2 with
        closings := session.servers.2.closings + (session.registry.pools cells).length
        closed := session.servers.2.closed + (closeCells backend.tallied cells session).1 } := by
  induction cells generalizing session with
  | nil => rfl
  | cons cell cells induction =>
    rw [closeCells, Registry.pools, List.filterMap_cons]
    split
    · next empty =>
      rw [empty]
      exact induction session
    · next pool filled =>
      rw [filled]
      simp only
      rw [induction]
      simp only [Session.log, Backend.tallied, Tally.afterClosing, List.length_cons, Tally.mk.injEq,
        true_and]
      constructor
      · exact Nat.add_right_comm ..
      · split <;> omega

theorem tally_connect {definition : Definition} {database : Option String} {before : σ × Tally}
    {outcome : Except Failure Unit} {after : σ × Tally}
    (connected : backend.tallied.connect definition database before = (outcome, after)) :
    after.2 = before.2.afterOpening outcome := by
  cases connected
  rfl

theorem tally_dismiss (taken : PoolKey → Bool) (definitions : Entries Definition)
    (session : Session (σ × Tally)) :
    (dismiss backend.tallied taken definitions session).2.servers.2 =
      { session.servers.2 with
        closings := session.servers.2.closings +
          (session.registry.pools (session.registry.takeWhere taken).1).length
        closed := session.servers.2.closed +
          (dismiss backend.tallied taken definitions session).1 } :=
  tally_closeCells backend _ _

/-! ## The number of open pools -/

/-- The pools that were opened are open, or have been closed once each. -/
def Balanced (session : Session (σ × Tally)) : Prop :=
  session.registry.poolCount + session.servers.2.closings = session.servers.2.opened

theorem balanced_call {session : Session (σ × Tally)} (tidy : session.registry.Tidy)
    (balanced : Balanced session) (request : Request) :
    Balanced (call backend.tallied request session).2 := by
  have performs := performs_call backend.tallied tidy request
  generalize call backend.tallied request session = outcome at performs ⊢
  cases performs with
  | refuses => exact balanced
  | registers => exact balanced
  | @dismisses _ taken definitions asked =>
    have split := session.registry.poolCount_takeWhere taken
    rw [Balanced, tally_dismiss, registry_dismiss]
    change (session.registry.takeWhere taken).2.poolCount + (_ + _) = session.servers.2.opened
    rw [← balanced, ← split]
    omega
  | provides _ known provided =>
    cases provided with
    | finds => exact balanced
    | @opens servers vacant connected =>
      have tally : servers.2 = { session.servers.2 with
          opened := session.servers.2.opened + 1 } := tally_connect backend connected
      rw [Balanced, poolCount_opened tidy known servers vacant]
      change _ + servers.2.closings = servers.2.opened
      rw [tally, ← balanced]
      exact Nat.add_right_comm ..
  | fails _ known unprovided =>
    cases unprovided with
    | @fails _ servers vacant connected =>
      have tally : servers.2 = session.servers.2 := tally_connect backend connected
      change (session.registry.reserve _).2.poolCount + servers.2.closings = servers.2.opened
      rw [Registry.poolCount_reserve, tally]
      exact balanced

/-! ## The definitions -/

/-- What a call that does not fail says of a connection: which one, and what its definition is from
then on. -/
def says? : Request → Answer → Option (String × Option Definition)
  | _, .failed _ => none
  | .register definition, _ | .update definition, _ => some (definition.id, some definition)
  | .remove id, _ => some (id, none)
  | _, _ => none

def latest (id : String) : List (Request × Answer) → Option Definition
  | [] => none
  | (request, answer) :: earlier =>
    match says? request answer with
    | some (connection, definition) => if connection = id then definition else latest id earlier
    | none => latest id earlier

theorem latest_cons (id : String) (request : Request) (answer : Answer)
    (earlier : List (Request × Answer)) :
    latest id ((request, answer) :: earlier) =
      match says? request answer with
      | some (connection, definition) => if connection = id then definition else latest id earlier
      | none => latest id earlier :=
  rfl

theorem says?_failed (request : Request) (failure : Failure) :
    says? request (.failed failure) = none := by
  cases request <;> rfl

theorem says?_of_taken {request : Request} {taken : PoolKey → Bool}
    (asked : Registry.Machine.taken? request = some taken) (answer : Answer) :
    says? request answer = none := by
  cases request with
  | removeAll | evict | closeAll => cases answer <;> rfl
  | _ => cases asked

theorem definitions_call {session : Session σ} (tidy : session.registry.Tidy) (request : Request)
    {history : List (Request × Answer)}
    (before : ∀ id, session.registry.definitions.find? id = latest id history) (id : String) :
    (call backend request session).2.registry.definitions.find? id =
      latest id ((request, (call backend request session).1) :: history) := by
  have performs := performs_call backend tidy request
  generalize call backend request session = outcome at performs ⊢
  cases performs with
  | refuses => rw [latest_cons, says?_failed, before]
  | registers =>
    rw [registered, Entries.find?_insert, before, latest_cons]
    simp only [says?, eq_comm]
  | dismisses asked =>
    rw [registry_dismiss, latest_cons]
    cases asked with
    | updates =>
      rw [Entries.find?_insert, before]
      simp only [says?, Registry.Machine.closedAnswer, eq_comm]
    | removes =>
      rw [Entries.find?_erase, before]
      simp only [says?, Registry.Machine.closedAnswer, eq_comm]
    | takes asked =>
      rw [says?_of_taken asked]
      exact before id
  | provides _ known provided =>
    rw [latest_cons]
    cases provided with
    | finds => exact before id
    | opens =>
      refine Eq.trans ?_ (before id)
      exact congrArg (Entries.find? · id) (Registry.definitions_reserve session.registry _)
  | fails _ known unprovided =>
    rw [latest_cons, says?_failed]
    cases unprovided with
    | fails =>
      refine Eq.trans ?_ (before id)
      exact congrArg (Entries.find? · id) (Registry.definitions_reserve session.registry _)

/-! ## What one call leaves alone -/

/-- The connection whose pools a call withdraws: it replaces the definition of one, forgets one or
closes the pools of one. -/
def withdraws? : Request → Option String
  | .update definition => some definition.id
  | .remove id | .removeAll id => some id
  | _ => none

/-- The pools of one connection were closed, each once, and no other pool was. -/
structure Withdrawn (id : String) (before after : Session σ) : Prop where
  closings : ∃ closed : List Pool,
    after.traffic = closed.map .closing ++ before.traffic ∧
    closed.Nodup ∧
    ∀ pool, pool ∈ closed ↔ ∃ key, key.connection = id ∧ before.Holds key pool
  holds : ∀ key pool, after.Holds key pool ↔ before.Holds key pool ∧ key.connection ≠ id

/-- What holds of every call, whatever fails in it. -/
structure Framed (request : Request) (answer : Answer) (before after : Session (σ × Tally)) :
    Prop where
  /-- A call fails only if it is refused, or if no server opens the pool that it wants. -/
  fails : ∀ failure, answer = .failed failure ↔ Fails backend.tallied before request failure
  /-- A call that fails changes neither definitions nor open pools. -/
  failed : ∀ failure, answer = .failed failure →
    after.registry.definitions = before.registry.definitions ∧
    ∀ key pool, after.Holds key pool ↔ before.Holds key pool
  /-- The pools of the connection are closed, also if some of the closings fail. -/
  withdrawn : ∀ id, withdraws? request = some id → (∀ failure, answer ≠ .failed failure) →
    Withdrawn id before after ∧
    ∀ other, other ≠ id ∨ request = .removeAll id →
      after.registry.definitions.find? other = before.registry.definitions.find? other
  /-- What is counted are the closings that succeeded. -/
  counted : (∃ id, request = .removeAll id) ∨ request = .closeAll →
    ∃ closed, answer = .closed closed ∧
      after.servers.2.closed = before.servers.2.closed + closed

theorem Dismisses.eq_of_withdraws {registry : Registry} {request : Request}
    {taken : PoolKey → Bool} {definitions : Entries Definition}
    (asked : Dismisses registry request taken definitions) {id : String}
    (withdrawn : withdraws? request = some id) :
    (taken = fun key => decide (key.connection = id)) ∧
    ∀ other, other ≠ id ∨ request = .removeAll id →
      definitions.find? other = registry.definitions.find? other := by
  cases asked with
  | updates =>
    cases withdrawn
    refine ⟨rfl, fun other apart => ?_⟩
    rcases apart with apart | ⟨⟨⟩⟩
    rw [Entries.find?_insert, if_neg apart]
  | removes =>
    cases withdrawn
    refine ⟨rfl, fun other apart => ?_⟩
    rcases apart with apart | ⟨⟨⟩⟩
    rw [Entries.find?_erase, if_neg apart]
  | takes asked =>
    cases request with
    | removeAll =>
      cases withdrawn
      cases asked
      exact ⟨rfl, fun _ _ => rfl⟩
    | register | update | remove | get => cases asked
    | evict | closeAll => cases withdrawn

theorem withdrawn_dismiss {session : Session σ} (tidy : session.registry.Tidy) (id : String)
    (definitions : Entries Definition) :
    Withdrawn id session
      (dismiss backend (fun key => decide (key.connection = id)) definitions session).2 where
  closings := by
    simpa only [decide_eq_true_eq] using
      closings_dismiss backend tidy (fun key => decide (key.connection = id)) definitions
  holds := by
    intro key pool
    rw [holds_dismiss, decide_eq_false_iff_not]

theorem framed_call {session : Session (σ × Tally)} (tidy : session.registry.Tidy)
    (request : Request) :
    Framed backend request (call backend.tallied request session).1 session
      (call backend.tallied request session).2 := by
  have fails := failed_iff backend.tallied tidy request
  have performs := performs_call backend.tallied tidy request
  generalize call backend.tallied request session = outcome at fails performs ⊢
  refine ⟨fails, ?failed, ?withdrawn, ?counted⟩
  case failed =>
    intro failure failed
    cases performs with
    | refuses => exact ⟨rfl, fun _ _ => .rfl⟩
    | registers | provides => cases failed
    | dismisses => exact absurd failed (closedAnswer_ne_failed _ _ _)
    | fails _ known unprovided =>
      cases unprovided with
      | fails => exact ⟨Registry.definitions_reserve .., holds_refused _ _ _ session⟩
  case withdrawn =>
    intro id withdrawn succeeded
    cases performs with
    | refuses | fails => exact absurd rfl (succeeded _)
    | registers | provides => cases withdrawn
    | dismisses asked =>
      rcases asked.eq_of_withdraws withdrawn with ⟨rfl, kept⟩
      refine ⟨withdrawn_dismiss backend.tallied tidy id _, fun other apart => ?_⟩
      rw [registry_dismiss]
      exact kept other apart
  case counted =>
    intro counting
    cases performs with
    | refuses refused => rcases counting with ⟨_, rfl⟩ | rfl <;> cases refused
    | registers | provides | fails =>
      rcases counting with ⟨_, other⟩ | other
      · cases other
      · cases other
    | @dismisses _ taken definitions =>
      have closed := congrArg Tally.closed (tally_dismiss backend taken definitions session)
      rcases counting with ⟨_, rfl⟩ | rfl <;> exact ⟨_, rfl, closed⟩

/-! ## Many calls -/

def made (servers : σ) : List Request → List (Request × Answer) × Session σ
  | [] => ([], .start servers)
  | request :: earlier =>
    let (history, session) := made servers earlier
    let (answer, after) := call backend request session
    ((request, answer) :: history, after)

theorem tidy_made (servers : σ) (requests : List Request) :
    (made backend servers requests).2.registry.Tidy := by
  induction requests with
  | nil => exact Registry.tidy_empty
  | cons request earlier induction => exact tidy_call backend induction request

theorem definitions_made (servers : σ) (requests : List Request) (id : String) :
    (made backend servers requests).2.registry.definitions.find? id =
      latest id (made backend servers requests).1 := by
  induction requests generalizing id with
  | nil => rfl
  | cons request earlier induction =>
    exact definitions_call backend (tidy_made backend servers earlier) request induction id

theorem balanced_made (servers : σ) (requests : List Request) :
    Balanced (made backend.tallied (servers, .zero) requests).2 := by
  induction requests with
  | nil => rfl
  | cons request earlier induction =>
    exact balanced_call backend (tidy_made backend.tallied _ earlier) induction request

/-- Whatever calls are made one after the other, and whatever fails in them: the open pools are
those that were opened less the closings that were begun; the connections stand in the strict order
of their ids, each with the definition that was given last; and the next call, whichever it is,
leaves alone what it has no business with. -/
theorem made_conserves (servers : σ) (requests : List Request) :
    let (history, session) := made backend.tallied (servers, .zero) requests
    Balanced session ∧
    (session.registry.list.Pairwise fun left right => left.id < right.id) ∧
    (∀ summary, summary ∈ session.registry.list ↔ ∃ definition,
      latest definition.id history = some definition ∧ summary = .ofDefinition definition) ∧
    ∀ request,
      let (answer, after) := call backend.tallied request session
      Framed backend request answer session after := by
  have tidy := tidy_made backend.tallied (servers, .zero) requests
  refine ⟨balanced_made backend servers requests, Registry.pairwise_list tidy, ?_,
    framed_call backend tidy⟩
  intro summary
  simp only [Registry.mem_list_iff tidy, definitions_made]

end Gateway

end SqlGateway
