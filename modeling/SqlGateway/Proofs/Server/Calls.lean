import SqlGateway.Proofs.Registry.Open
import SqlGateway.Proofs.Registry.Moves
import SqlGateway.Proofs.Server.Pools

/-!
# One call of the registry alone

When no two calls overlap, a call does one of four things: it is refused and changes nothing, it
adds a definition, it takes cells and closes their pools, or it provides a pool. `performs_call`
says that nothing else happens; what a call keeps is then shown by one case for each.
-/

namespace SqlGateway

open Registry (Request Answer)
open Registry.Machine (closedAnswer taken?)

variable {σ : Type}

namespace Gateway

variable (backend : Backend σ)

def answered {α : Type} (answer : α → Answer) (operation : Gateway σ α) (session : Session σ) :
    Answer × Session σ :=
  match operation.on session with
  | (.ok value, after) => (answer value, after)
  | (.error failure, after) => (.failed failure, after)

def call : Request → Session σ → Answer × Session σ
  | .register definition => answered (fun _ => .done) (register definition)
  | .update definition => answered (fun _ => .done) (update backend definition)
  | .remove id => answered (fun _ => .done) (remove backend id)
  | .get id database => answered .pool (pool backend id database)
  | .removeAll id => answered .closed (removeAll backend id)
  | .evict id database => answered .evicted (evict backend id database)
  | .closeAll => answered .closed (closeAll backend)

/-! ## Closing the pools of cells -/

theorem registry_closeCells (cells : List Nat) (session : Session σ) :
    (closeCells backend cells session).2.registry = session.registry := by
  induction cells generalizing session with
  | nil => rfl
  | cons cell cells induction =>
    rw [closeCells]
    split
    · exact induction session
    · exact induction _

theorem traffic_closeCells (cells : List Nat) (session : Session σ) :
    (closeCells backend cells session).2.traffic =
      ((session.registry.pools cells).map .closing).reverse ++ session.traffic := by
  induction cells generalizing session with
  | nil => rfl
  | cons cell cells induction =>
    rw [closeCells, Registry.pools, List.filterMap_cons]
    split
    · next empty =>
      rw [empty]
      exact induction session
    · next pool filled =>
      rw [filled, List.map_cons, List.reverse_cons, List.append_assoc]
      exact induction _

/-- What comes of a session when the cells of some keys are taken, definitions are changed, and the
pools in the cells are closed; and how many of them closed without trouble. -/
def dismiss (taken : PoolKey → Bool) (definitions : Entries Definition) (session : Session σ) :
    Nat × Session σ :=
  closeCells backend (session.registry.takeWhere taken).1
    { session with registry := { (session.registry.takeWhere taken).2 with definitions } }

theorem registry_dismiss (taken : PoolKey → Bool) (definitions : Entries Definition)
    (session : Session σ) :
    (dismiss backend taken definitions session).2.registry =
      { (session.registry.takeWhere taken).2 with definitions } :=
  registry_closeCells backend _ _

theorem holds_dismiss (taken : PoolKey → Bool) (definitions : Entries Definition)
    (session : Session σ) (key : PoolKey) (pool : Pool) :
    (dismiss backend taken definitions session).2.Holds key pool ↔
      session.Holds key pool ∧ taken key = false := by
  rw [Session.Holds, registry_dismiss]
  exact Registry.holds_takeWhere taken pool

theorem closings_dismiss {session : Session σ} (tidy : session.registry.Tidy)
    (taken : PoolKey → Bool) (definitions : Entries Definition) :
    ∃ closed : List Pool,
      (dismiss backend taken definitions session).2.traffic =
        closed.map .closing ++ session.traffic ∧
      closed.Nodup ∧
      ∀ pool, pool ∈ closed ↔ ∃ key, taken key = true ∧ session.Holds key pool := by
  refine ⟨(session.registry.pools (session.registry.takeWhere taken).1).reverse,
    ?traffic, ?nodup, ?members⟩
  case traffic =>
    rw [List.map_reverse]
    exact traffic_closeCells backend _ _
  case nodup => exact List.nodup_reverse.mpr (tidy.nodup_pools_takeWhere taken)
  case members =>
    intro pool
    rw [List.mem_reverse]
    exact Registry.mem_pools_takeWhere taken pool

/-! ## Providing a pool -/

def refused (definition : Definition) (key : PoolKey) (servers : σ) (session : Session σ) :
    Session σ :=
  { session with registry := (session.registry.reserve key).2, servers }.log
    (.connecting definition key)

def opened (definition : Definition) (key : PoolKey) (servers : σ) (session : Session σ) :
    Pool × Session σ :=
  let (cell, registry) := session.registry.reserve key
  let (pool, registry) := registry.fill cell definition key.database
  (pool, { session with registry, servers }.log (.connecting definition key))

inductive Provides (definition : Definition) (key : PoolKey) (before : Session σ) :
    Except Failure Pool × Session σ → Prop
  | finds {pool : Pool} (holds : before.Holds key pool) :
      Provides definition key before (.ok pool, before)
  | fails {failure : Failure} {servers : σ} (vacant : ∀ pool, ¬before.Holds key pool)
      (connected : backend.connect definition key.database before.servers =
        (.error failure, servers)) :
      Provides definition key before (.error failure, refused definition key servers before)
  | opens {servers : σ} (vacant : ∀ pool, ¬before.Holds key pool)
      (connected : backend.connect definition key.database before.servers = (.ok (), servers)) :
      Provides definition key before (.ok (opened definition key servers before).1,
        (opened definition key servers before).2)

theorem provides_pool {session : Session σ} (tidy : session.registry.Tidy) {id : String}
    {definition : Definition} (known : session.registry.definitions.find? id = some definition)
    {database : Option String} (usable : database ≠ some "") :
    Provides backend definition ⟨id, definition.effectiveDatabase database⟩ session
      ((pool backend id database).on session) := by
  let key : PoolKey := ⟨id, definition.effectiveDatabase database⟩
  have looked : session.registry.lookUp id database =
      .ok (definition, key, session.registry.reserve key) := by
    rw [Registry.lookUp, known]
  have placed := Registry.mem_reserve session.registry key
  rw [pool, on_ofSession, if_neg usable, looked]
  cases filled : (session.registry.reserve key).2.content (session.registry.reserve key).1 with
  | some pool =>
    simp only [filled]
    rcases Registry.reserve_cases session.registry key with
      ⟨cell, there, same⟩ | ⟨-, new, -, -⟩
    · rw [same] at filled ⊢
      exact .finds ⟨cell, there, filled⟩
    · rw [Registry.content_reserve] at filled
      exact absurd (Registry.lt_of_content filled) (new ▸ Nat.lt_irrefl _)
  | none =>
    have vacant : ∀ pool, ¬session.Holds key pool := by
      rintro pool ⟨cell, there, held⟩
      rcases Registry.reserve_cases session.registry key with
        ⟨other, alsoThere, same⟩ | ⟨absent, -, -, -⟩
      · have equal := Registry.place?_eq_some_iff tidy.keys |>.mpr there
        rw [(Registry.place?_eq_some_iff tidy.keys).mpr alsoThere, Option.some.injEq] at equal
        rw [same, equal, held] at filled
        cases filled
      · exact absent cell there
    simp only [filled]
    rw [fillCell, on_ofSession]
    rcases answer : backend.connect definition key.database session.servers with
      ⟨failure | ⟨⟨⟩⟩, servers⟩
    · exact .fails vacant answer
    · exact .opens vacant answer

theorem holds_refused (definition : Definition) (key : PoolKey) (servers : σ)
    (session : Session σ) (other : PoolKey) (pool : Pool) :
    (refused definition key servers session).Holds other pool ↔ session.Holds other pool :=
  Registry.holds_reserve key other pool

section Opened

variable {definition : Definition} {key : PoolKey} {session : Session σ}
  (tidy : session.registry.Tidy)
  (known : session.registry.definitions.find? key.connection = some definition) (servers : σ)

include tidy known

theorem tidy_refused : (refused definition key servers session).registry.Tidy :=
  tidy.reserve known

theorem tidy_opened : (opened definition key servers session).2.registry.Tidy := by
  have reserved := tidy.reserve known
  apply reserved.fill
  intro other placed
  rw [reserved.key_unique placed (Registry.mem_reserve session.registry key),
    Registry.definitions_reserve]
  exact ⟨known, rfl⟩

variable (vacant : ∀ pool, ¬session.Holds key pool)

omit tidy known in
include vacant in
theorem content_of_vacant :
    (session.registry.reserve key).2.content (session.registry.reserve key).1 = none := by
  cases filled : (session.registry.reserve key).2.content (session.registry.reserve key).1 with
  | none => rfl
  | some pool =>
    have held := (Registry.holds_reserve key key pool).mp
      ⟨_, Registry.mem_reserve session.registry key, filled⟩
    exact absurd held (vacant pool)

include vacant

theorem holds_opened (other : PoolKey) (pool : Pool) :
    (opened definition key servers session).2.Holds other pool ↔
      session.Holds other pool ∨
        other = key ∧ pool = (opened definition key servers session).1 := by
  refine (Registry.holds_fill (tidy.reserve known) (Registry.mem_reserve session.registry key)
    (content_of_vacant vacant) definition key.database other pool).trans ?_
  rw [Registry.holds_reserve]
  rfl

theorem poolCount_opened :
    (opened definition key servers session).2.registry.poolCount =
      session.registry.poolCount + 1 := by
  refine (Registry.poolCount_fill (tidy.reserve known) (Registry.mem_reserve session.registry key)
    (content_of_vacant vacant) definition key.database).trans ?_
  rw [Registry.poolCount_reserve]

end Opened

/-! ## What a call does -/

inductive Refuses (registry : Registry) : Request → Failure → Prop
  | repeats {definition : Definition}
      (known : registry.definitions.find? definition.id ≠ none) :
      Refuses registry (.register definition) (.input (.connectionExists definition.id))
  | updates {definition : Definition}
      (unknown : registry.definitions.find? definition.id = none) :
      Refuses registry (.update definition) (.connectionNotFound definition.id)
  | removes {id : String} (unknown : registry.definitions.find? id = none) :
      Refuses registry (.remove id) (.connectionNotFound id)
  | gets {id : String} {database : Option String} (usable : database ≠ some "")
      (unknown : registry.definitions.find? id = none) :
      Refuses registry (.get id database) (.connectionNotFound id)
  | blank {id : String} : Refuses registry (.get id (some "")) (.input .emptyDatabase)

inductive Dismisses (registry : Registry) :
    Request → (PoolKey → Bool) → Entries Definition → Prop
  | updates {definition : Definition}
      (known : registry.definitions.find? definition.id ≠ none) :
      Dismisses registry (.update definition) (fun key => key.connection = definition.id)
        (registry.definitions.insert definition.id definition)
  | removes {id : String} (known : registry.definitions.find? id ≠ none) :
      Dismisses registry (.remove id) (fun key => key.connection = id)
        (registry.definitions.erase id)
  | takes {request : Request} {taken : PoolKey → Bool} (asked : taken? request = some taken) :
      Dismisses registry request taken registry.definitions

def registered (definition : Definition) (session : Session σ) : Session σ :=
  { session with
    registry := { session.registry with
      definitions := session.registry.definitions.insert definition.id definition } }

/-- What a call does to a session, and what it answers. -/
inductive Performs (before : Session σ) : Request → Answer × Session σ → Prop
  | refuses {request : Request} {failure : Failure}
      (refused : Refuses before.registry request failure) :
      Performs before request (.failed failure, before)
  | registers {definition : Definition}
      (new : before.registry.definitions.find? definition.id = none) :
      Performs before (.register definition) (.done, registered definition before)
  | dismisses {request : Request} {taken : PoolKey → Bool} {definitions : Entries Definition}
      (asked : Dismisses before.registry request taken definitions) :
      Performs before request
        (closedAnswer request (dismiss backend taken definitions before).1,
          (dismiss backend taken definitions before).2)
  | provides {id : String} {database : Option String} {definition : Definition} {pool : Pool}
      {after : Session σ} (usable : database ≠ some "")
      (known : before.registry.definitions.find? id = some definition)
      (provided : Provides backend definition ⟨id, definition.effectiveDatabase database⟩ before
        (.ok pool, after)) :
      Performs before (.get id database) (.pool pool, after)
  | fails {id : String} {database : Option String} {definition : Definition} {failure : Failure}
      {after : Session σ} (usable : database ≠ some "")
      (known : before.registry.definitions.find? id = some definition)
      (unprovided : Provides backend definition ⟨id, definition.effectiveDatabase database⟩ before
        (.error failure, after)) :
      Performs before (.get id database) (.failed failure, after)

private theorem performs_taking (session : Session σ) (request : Request)
    (taken : PoolKey → Bool) (asked : taken? request = some taken) :
    Performs backend session request
      (closedAnswer request (dismiss backend taken session.registry.definitions session).1,
        (dismiss backend taken session.registry.definitions session).2) :=
  .dismisses (.takes asked)

theorem performs_call {session : Session σ} (tidy : session.registry.Tidy) (request : Request) :
    Performs backend session request (call backend request session) := by
  cases request with
  | register definition =>
    rw [call, answered, register, on_ofSession, Registry.register]
    cases found : session.registry.definitions.find? definition.id with
    | none => exact .registers found
    | some other => exact .refuses (.repeats (by simp [found]))
  | update definition =>
    rw [call, answered, update, on_ofSession, Registry.replace]
    cases found : session.registry.definitions.find? definition.id with
    | none => exact .refuses (.updates found)
    | some other => exact .dismisses (.updates (by simp [found]))
  | remove id =>
    rw [call, answered, remove, on_ofSession, Registry.forget]
    cases found : session.registry.definitions.find? id with
    | none => exact .refuses (.removes found)
    | some other => exact .dismisses (.removes (by simp [found]))
  | get id database =>
    by_cases usable : database = some ""
    · subst usable
      exact .refuses .blank
    · cases found : session.registry.definitions.find? id with
      | none =>
        rw [call, answered, pool, on_ofSession, if_neg usable, Registry.lookUp, found]
        exact .refuses (.gets usable found)
      | some definition =>
        have provided := provides_pool backend tidy found usable
        rw [call, answered]
        generalize (pool backend id database).on session = outcome at provided ⊢
        rcases outcome with ⟨failure | _, after⟩
        · exact .fails usable found provided
        · exact .provides usable found provided
  | removeAll id =>
    exact performs_taking backend session (.removeAll id) (fun key => key.connection = id) rfl
  | evict id database =>
    exact performs_taking backend session (.evict id database) (fun key => key = ⟨id, database⟩) rfl
  | closeAll => exact performs_taking backend session .closeAll (fun _ => true) rfl

/-! ## Which calls fail -/

/-- Why a call fails: it is refused, or it wants a pool that a server does not open. -/
inductive Fails (before : Session σ) : Request → Failure → Prop
  | refused {request : Request} {failure : Failure}
      (refuses : Refuses before.registry request failure) : Fails before request failure
  | unopened {id : String} {database : Option String} {definition : Definition}
      {failure : Failure} {servers : σ} (usable : database ≠ some "")
      (known : before.registry.definitions.find? id = some definition)
      (vacant : ∀ pool, ¬before.Holds ⟨id, definition.effectiveDatabase database⟩ pool)
      (connected : backend.connect definition (definition.effectiveDatabase database)
        before.servers = (.error failure, servers)) :
      Fails before (.get id database) failure

theorem closedAnswer_ne_failed (request : Request) (closed : Nat) (failure : Failure) :
    closedAnswer request closed ≠ .failed failure := by
  cases request <;> exact nofun

theorem Refuses.not_dismisses {registry : Registry} {request : Request} {failure : Failure}
    (refuses : Refuses registry request failure) {taken : PoolKey → Bool}
    {definitions : Entries Definition} : ¬Dismisses registry request taken definitions := by
  intro asked
  cases asked with
  | updates known =>
    cases refuses with
    | updates unknown => exact known unknown
  | removes known =>
    cases refuses with
    | removes unknown => exact known unknown
  | takes asked => cases refuses <;> cases asked

theorem Refuses.unique {registry : Registry} {request : Request} {failure other : Failure}
    (refuses : Refuses registry request failure) (also : Refuses registry request other) :
    failure = other := by
  cases refuses with
  | repeats | updates | removes =>
    cases also
    rfl
  | gets usable =>
    cases also with
    | gets => rfl
    | blank => exact absurd rfl usable
  | blank =>
    cases also with
    | gets usable => exact absurd rfl usable
    | blank => rfl

theorem failed_iff {session : Session σ} (tidy : session.registry.Tidy) (request : Request)
    (failure : Failure) :
    (call backend request session).1 = .failed failure ↔ Fails backend session request failure := by
  have performs := performs_call backend tidy request
  generalize call backend request session = outcome at performs ⊢
  constructor
  · intro failed
    cases performs with
    | refuses refuses =>
      cases failed
      exact .refused refuses
    | registers => cases failed
    | dismisses => exact absurd failed (closedAnswer_ne_failed _ _ _)
    | provides => cases failed
    | fails usable known unprovided =>
      cases failed
      cases unprovided with
      | fails vacant connected => exact .unopened usable known vacant connected
  · intro fails
    cases fails with
    | refused refuses =>
      cases performs with
      | refuses also => rw [refuses.unique also]
      | registers new =>
        cases refuses with
        | repeats known => exact absurd new known
      | dismisses asked => exact absurd asked refuses.not_dismisses
      | provides usable known | fails usable known =>
        cases refuses with
        | gets _ unknown =>
          rw [known] at unknown
          cases unknown
        | blank => exact absurd rfl usable
    | unopened usable known vacant connected =>
      cases performs with
      | refuses refuses =>
        cases refuses with
        | gets _ unknown =>
          rw [known] at unknown
          cases unknown
        | blank => exact absurd rfl usable
      | dismisses asked =>
        cases asked with
        | takes asked => cases asked
      | provides _ alsoKnown provided =>
        rw [known] at alsoKnown
        cases alsoKnown
        cases provided with
        | finds holds => exact absurd holds (vacant _)
        | opens _ alsoConnected =>
          rw [connected] at alsoConnected
          cases alsoConnected
      | fails _ alsoKnown unprovided =>
        rw [known] at alsoKnown
        cases alsoKnown
        cases unprovided with
        | fails _ alsoConnected =>
          rw [connected] at alsoConnected
          cases alsoConnected
          rfl

/-! ## What a call keeps -/

section Dismisses

variable {registry : Registry} {request : Request} {taken : PoolKey → Bool}
  {definitions : Entries Definition} (asked : Dismisses registry request taken definitions)

include asked

/-- A connection keeps its definition unless all of its cells are taken. -/
theorem Dismisses.find?_eq {key : PoolKey} (untaken : taken key = false) :
    definitions.find? key.connection = registry.definitions.find? key.connection := by
  cases asked with
  | updates => rw [Entries.find?_insert, if_neg (by simpa using untaken)]
  | removes => rw [Entries.find?_erase, if_neg (by simpa using untaken)]
  | takes => rfl

theorem Dismisses.named (tidy : registry.Tidy) {id : String} {definition : Definition}
    (known : definitions.find? id = some definition) : definition.id = id := by
  cases asked with
  | updates => exact tidy.named_insert _ known
  | removes =>
    rw [Entries.find?_erase] at known
    split at known
    · cases known
    · exact tidy.named known
  | takes => exact tidy.named known

theorem Dismisses.tidy (tidy : registry.Tidy) :
    Registry.Tidy { (registry.takeWhere taken).2 with definitions } := by
  apply (tidy.takeWhere taken).define
  · intro key cell placed
    exact asked.find?_eq ((Registry.mem_places_takeWhere ..).mp placed).2
  · exact asked.named tidy

end Dismisses

theorem tidy_registered {definition : Definition} {session : Session σ}
    (tidy : session.registry.Tidy)
    (new : session.registry.definitions.find? definition.id = none) :
    (registered definition session).registry.Tidy := by
  apply tidy.define
  · intro key cell placed
    rcases tidy.known placed with ⟨other, known⟩
    rw [Entries.find?_insert, if_neg]
    intro same
    rw [same, new] at known
    cases known
  · exact tidy.named_insert definition

theorem tidy_call {session : Session σ} (tidy : session.registry.Tidy) (request : Request) :
    (call backend request session).2.registry.Tidy := by
  have performs := performs_call backend tidy request
  generalize call backend request session = outcome at performs ⊢
  cases performs with
  | refuses => exact tidy
  | registers new => exact tidy_registered tidy new
  | dismisses asked =>
    rw [registry_dismiss]
    exact asked.tidy tidy
  | provides _ known provided =>
    cases provided with
    | finds => exact tidy
    | opens => exact tidy_opened tidy known _
  | fails _ known unprovided =>
    cases unprovided with
    | fails => exact tidy_refused tidy known _

end Gateway

end SqlGateway
