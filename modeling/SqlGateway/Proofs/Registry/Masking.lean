import SqlGateway.Proofs.Connection.Masking
import SqlGateway.Registry.Machine

/-!
# The registry without passwords

Each section of the registry does to masked definitions what it does to the definitions themselves:
what comes of it, masked, is what comes of it. The same holds of a step of concurrent calls, for
which `Machine.step_masked` is the statement.
-/

namespace SqlGateway

theorem modify_map {α β : Type} {change : α → α} {changed : β → β} {translate : α → β}
    (comm : ∀ item, changed (translate item) = translate (change item)) (items : List α)
    (index : Nat) :
    (items.map translate).modify index changed = (items.modify index change).map translate := by
  apply List.ext_getElem?
  intro other
  rw [List.getElem?_modify, List.getElem?_map, List.getElem?_map, List.getElem?_modify]
  cases items[other]? with
  | none => rfl
  | some item =>
    by_cases same : index = other
    · simp [same, comm]
    · simp [same]

/-! ## Sections -/

structure PoolView where
  serial : Nat
  key : String
  engine : Engine

def Pool.view (pool : Pool) : PoolView where
  serial := pool.serial
  key := pool.key.text
  engine := pool.engine

def Pool.masked (pool : Pool) : Pool := { pool with definition := pool.definition.masked }

@[simp]
theorem Pool.masked_masked (pool : Pool) : pool.masked.masked = pool.masked := by
  rw [masked, masked, Definition.masked_masked]

def Cell.masked (cell : Cell) : Cell := { cell with content := cell.content.map Pool.masked }

structure RegistryView where
  definitions : List DefinitionView
  summaries : List ConnectionSummary
  /-- The keys that have a cell, and the pools in the cells. -/
  pools : List (String × Option PoolView)
  poolCount : Nat

namespace Registry

def view (registry : Registry) : RegistryView where
  definitions := registry.definitions.toList.map fun entry => entry.2.view
  summaries := registry.list
  pools := registry.places.map fun place =>
    (place.1.text, (registry.content place.2).map Pool.view)
  poolCount := registry.poolCount

def masked (registry : Registry) : Registry :=
  { registry with
    definitions := registry.definitions.mapValues Definition.masked
    cells := registry.cells.map Cell.masked }

variable (registry : Registry)

@[simp]
theorem find?_masked (id : String) :
    registry.masked.definitions.find? id =
      (registry.definitions.find? id).map Definition.masked :=
  registry.definitions.find?_mapValues Definition.masked id

theorem definition_masked (id : String) :
    registry.masked.definition id = (registry.definition id).map Definition.masked := by
  rw [definition, definition, find?_masked]
  cases registry.definitions.find? id with
  | none => rfl
  | some definition => rfl

@[simp]
theorem list_masked : registry.masked.list = registry.list := by
  have values : registry.masked.definitions.toList.map Prod.snd =
      (registry.definitions.toList.map Prod.snd).map Definition.masked := by
    change (registry.definitions.toList.map _).map Prod.snd = _
    rw [List.map_map, List.map_map]
    rfl
  rw [list, values, ← List.map_mergeSort, List.map_map]
  · rfl
  · intro left _ right _
    rfl

@[simp]
theorem place?_masked (key : PoolKey) : registry.masked.place? key = registry.place? key :=
  rfl

@[simp]
theorem isCurrent_masked (key : PoolKey) (cell : Nat) :
    registry.masked.isCurrent key cell = registry.isCurrent key cell := by
  rw [isCurrent, isCurrent, place?_masked]

@[simp]
theorem content_masked (cell : Nat) :
    registry.masked.content cell = (registry.content cell).map Pool.masked := by
  change (registry.cells.map Cell.masked)[cell]?.bind Cell.content = _
  rw [List.getElem?_map, content]
  cases registry.cells[cell]? with
  | none => rfl
  | some found => rfl

@[simp]
theorem isBusy_masked (cell : Nat) : registry.masked.isBusy cell = registry.isBusy cell := by
  change ((registry.cells.map Cell.masked)[cell]?.map Cell.busy).getD false = _
  rw [List.getElem?_map, isBusy]
  cases registry.cells[cell]? with
  | none => rfl
  | some found => rfl

@[simp]
theorem poolCount_masked : registry.masked.poolCount = registry.poolCount := by
  simp only [poolCount, content_masked, Option.isSome_map]
  rfl

theorem view_masked : registry.masked.view = registry.view := by
  have definitions : registry.masked.definitions.toList.map (fun entry => entry.2.view) =
      registry.definitions.toList.map fun entry => entry.2.view := by
    change (registry.definitions.toList.map _).map _ = _
    rw [List.map_map]
    exact List.map_congr_left fun entry _ => entry.2.view_masked
  have pools : (registry.places.map fun place =>
      (place.1.text, (registry.masked.content place.2).map Pool.view)) =
      registry.places.map fun place =>
        (place.1.text, (registry.content place.2).map Pool.view) := by
    apply List.map_congr_left
    intro place _
    rw [content_masked, Option.map_map]
    rfl
  rw [view, definitions, list_masked, poolCount_masked]
  exact congrArg (fun pools => RegistryView.mk _ _ pools _) pools

theorem register_masked (definition : Definition) :
    registry.masked.register definition.masked =
      (registry.register definition).map Registry.masked := by
  rw [register, register, Definition.id_masked, find?_masked]
  cases registry.definitions.find? definition.id with
  | none =>
    have inserted :=
      registry.definitions.insert_mapValues Definition.masked definition.id definition
    exact congrArg Except.ok
      (congrArg (fun definitions => { registry.masked with definitions }) inserted)
  | some known => rfl

theorem reserve_masked (key : PoolKey) :
    registry.masked.reserve key =
      ((registry.reserve key).1, (registry.reserve key).2.masked) := by
  rw [reserve, reserve, place?_masked]
  cases registry.place? key with
  | some cell => rfl
  | none => simp [masked, Cell.masked]

theorem setBusy_masked (cell : Nat) (busy : Bool) :
    registry.masked.setBusy cell busy = (registry.setBusy cell busy).masked := by
  rw [setBusy, setBusy, masked, masked, modify_map]
  intro content
  rfl

theorem fill_masked (cell : Nat) (definition : Definition) (database : Option String) :
    registry.masked.fill cell definition.masked database =
      ((registry.fill cell definition database).1.masked,
        (registry.fill cell definition database).2.masked) := by
  rw [fill, fill, masked, masked, modify_map]
  · rfl
  · intro content
    rfl

theorem replace_masked (definition : Definition) :
    registry.masked.replace definition.masked =
      (registry.replace definition).map fun taken => (taken.1, taken.2.masked) := by
  rw [replace, replace, Definition.id_masked, find?_masked]
  cases registry.definitions.find? definition.id with
  | none => rfl
  | some known =>
    have inserted :=
      registry.definitions.insert_mapValues Definition.masked definition.id definition
    exact congrArg (fun definitions => Except.ok ((registry.drain definition.id).1,
      { (registry.drain definition.id).2.masked with definitions })) inserted

theorem forget_masked (id : String) :
    registry.masked.forget id =
      (registry.forget id).map fun taken => (taken.1, taken.2.masked) := by
  rw [forget, forget, find?_masked]
  cases registry.definitions.find? id with
  | none => rfl
  | some known =>
    have erased := registry.definitions.erase_mapValues Definition.masked id
    exact congrArg (fun definitions => Except.ok ((registry.drain id).1,
      { (registry.drain id).2.masked with definitions })) erased

end Registry

namespace Registry

/-! ## Concurrent calls -/

def Request.masked : Request → Request
  | .register definition => .register definition.masked
  | .update definition => .update definition.masked
  | .remove id => .remove id
  | .get id database => .get id database
  | .removeAll id => .removeAll id
  | .evict id database => .evict id database
  | .closeAll => .closeAll

def Answer.masked : Answer → Answer
  | .done => .done
  | .pool found => .pool found.masked
  | .closed count => .closed count
  | .evicted succeeds => .evicted succeeds
  | .failed failure => .failed failure

def Stage.masked : Stage → Stage
  | .entering => .entering
  | .reserving definition key => .reserving definition.masked key
  | .waiting definition key cell => .waiting definition.masked key cell
  | .opening definition key cell => .opening definition.masked key cell
  | .checking key cell pool created => .checking key cell pool.masked created
  | .discarding cell => .discarding cell
  | .closing cells closed => .closing cells closed
  | .finished answer => .finished answer.masked

def Call.masked (call : Call) : Call := ⟨call.request.masked, call.stage.masked⟩

def Event.masked : Event → Event
  | .opening definition key => .opening definition.masked key
  | .opened pool => .opened pool.masked
  | .refused failure => .refused failure
  | .closing pool => .closing pool.masked

theorem Event.masked_masked (event : Event) : event.masked.masked = event.masked := by
  cases event with
  | opening definition key =>
    exact congrArg (fun masked => opening masked key) definition.masked_masked
  | opened pool => exact congrArg opened pool.masked_masked
  | refused failure => rfl
  | closing pool => exact congrArg closing pool.masked_masked

namespace Machine

def masked (machine : Machine) : Machine where
  registry := machine.registry.masked
  calls := machine.calls.map Call.masked
  events := machine.events.map Event.masked

def Action.masked : Action → Action
  | .invoke request => .invoke request.masked
  | .advance call => .advance call
  | .openEnds call failure => .openEnds call failure
  | .close call succeeds => .close call succeeds
  | .reorder places => .reorder places

@[simp]
theorem changesDefinitions_masked (request : Request) :
    changesDefinitions request.masked = changesDefinitions request := by
  cases request <;> rfl

@[simp]
theorem readsDefinitions_masked (stage : Stage) :
    readsDefinitions stage.masked = readsDefinitions stage := by
  cases stage <;> rfl

@[simp]
theorem closedAnswer_masked (request : Request) (closed : Nat) :
    closedAnswer request.masked closed = (closedAnswer request closed).masked := by
  cases request <;> rfl

variable (machine : Machine) (call : Nat)

@[simp]
theorem registry_masked : machine.masked.registry = machine.registry.masked :=
  rfl

theorem calls_masked : machine.masked.calls[call]? = machine.calls[call]?.map Call.masked :=
  List.getElem?_map

@[simp]
theorem stage?_masked : machine.masked.stage? call = (machine.stage? call).map Stage.masked := by
  rw [stage?, stage?, calls_masked]
  cases machine.calls[call]? with
  | none => rfl
  | some found => rfl

@[simp]
theorem isRead_masked : machine.masked.isRead = machine.isRead := by
  change (machine.calls.map Call.masked).any _ = _
  rw [List.any_map, isRead]
  congr 1
  funext found
  exact readsDefinitions_masked found.stage

theorem setStage_masked (stage : Stage) :
    machine.masked.setStage call stage.masked = (machine.setStage call stage).masked := by
  have calls : (machine.calls.map Call.masked).modify call
      (fun found => { found with stage := stage.masked }) =
      (machine.calls.modify call fun found => { found with stage }).map Call.masked := by
    apply modify_map
    intro found
    rfl
  exact congrArg (fun calls => { machine.masked with calls }) calls

theorem withRegistry_masked (registry : Registry) (stage : Stage) :
    ({ machine.masked with registry := registry.masked } : Machine).setStage call stage.masked =
      (({ machine with registry } : Machine).setStage call stage).masked :=
  setStage_masked { machine with registry } call stage

/-! ## Steps -/

theorem enter_masked (registry : Registry) (request : Request) :
    enter registry.masked request.masked =
      ((enter registry request).1.masked, (enter registry request).2.masked) := by
  cases request with
  | register definition =>
    rw [Request.masked, enter, enter, Registry.register_masked]
    cases registry.register definition with
    | error failure => rfl
    | ok registered => rfl
  | update definition =>
    rw [Request.masked, enter, enter, Registry.replace_masked]
    cases registry.replace definition with
    | error failure => rfl
    | ok replaced => rfl
  | remove id =>
    rw [Request.masked, enter, enter, Registry.forget_masked]
    cases registry.forget id with
    | error failure => rfl
    | ok forgotten => rfl
  | get id database =>
    rw [Request.masked, enter, enter, Registry.definition_masked]
    split
    · rfl
    · cases registry.definition id with
      | error failure => rfl
      | ok definition =>
        dsimp only [Except.map]
        rw [Definition.effectiveDatabase_masked, Registry.place?_masked]
        cases registry.place? ⟨id, definition.effectiveDatabase database⟩ with
        | none => rfl
        | some cell => rfl
  | removeAll | evict | closeAll => rfl

theorem advance_masked :
    machine.masked.advance call = (machine.advance call).map masked := by
  rw [advance, advance, calls_masked]
  cases machine.calls[call]? with
  | none => rfl
  | some found =>
    obtain ⟨request, stage⟩ := found
    cases stage with
    | entering =>
      simp only [Option.map_some, Call.masked, Stage.masked, changesDefinitions_masked,
        isRead_masked, registry_masked, enter_masked]
      split
      · rfl
      · exact congrArg some (withRegistry_masked machine call (enter machine.registry request).1
          (enter machine.registry request).2)
    | reserving definition key =>
      simp only [Option.map_some, Call.masked, Stage.masked, registry_masked,
        Registry.reserve_masked]
      exact congrArg some (withRegistry_masked machine call (machine.registry.reserve key).2
        (.waiting definition key (machine.registry.reserve key).1))
    | waiting definition key cell =>
      simp only [Option.map_some, Call.masked, Stage.masked, registry_masked,
        Registry.content_masked, Registry.isBusy_masked, Registry.setBusy_masked]
      cases machine.registry.content cell with
      | some pool =>
        exact congrArg some (setStage_masked machine call (.checking key cell pool false))
      | none =>
        dsimp only [Option.map_none]
        split
        · rfl
        · have moved := withRegistry_masked machine call (machine.registry.setBusy cell true)
            (.opening definition key cell)
          exact congrArg (fun moved => some (moved.log (.opening definition.masked key))) moved
    | opening definition key cell => rfl
    | checking key cell pool created =>
      simp only [Option.map_some, Call.masked, Stage.masked, registry_masked,
        Registry.isCurrent_masked]
      cases machine.registry.isCurrent key cell with
      | true => exact congrArg some (setStage_masked machine call (.finished (.pool pool)))
      | false =>
        cases created with
        | true => exact congrArg some (setStage_masked machine call (.discarding cell))
        | false => exact congrArg some (setStage_masked machine call .entering)
    | discarding cell =>
      simp only [Option.map_some, Call.masked, Stage.masked, registry_masked,
        Registry.content_masked]
      cases machine.registry.content cell with
      | some pool => rfl
      | none => exact congrArg some (setStage_masked machine call .entering)
    | closing cells closed =>
      cases cells with
      | nil =>
        simp only [Option.map_some, Call.masked, Stage.masked, closedAnswer_masked]
        exact congrArg some
          (setStage_masked machine call (.finished (closedAnswer request closed)))
      | cons cell cells =>
        simp only [Option.map_some, Call.masked, Stage.masked, registry_masked,
          Registry.content_masked]
        cases machine.registry.content cell with
        | some pool => rfl
        | none => exact congrArg some (setStage_masked machine call (.closing cells closed))
    | finished answer => rfl

theorem openEnds_masked (failure : Option Failure) :
    machine.masked.openEnds call failure = (machine.openEnds call failure).map masked := by
  rw [openEnds, openEnds, stage?_masked]
  cases machine.stage? call with
  | none => rfl
  | some stage =>
    cases stage with
    | opening definition key cell =>
      cases failure with
      | none =>
        simp only [Option.map_some, Stage.masked, registry_masked, Registry.fill_masked]
        have moved := withRegistry_masked machine call
          (machine.registry.fill cell definition key.database).2
          (.checking key cell (machine.registry.fill cell definition key.database).1 true)
        exact congrArg (fun moved => some (moved.log (.opened
          (machine.registry.fill cell definition key.database).1.masked))) moved
      | some failure =>
        simp only [Option.map_some, Stage.masked, registry_masked, Registry.setBusy_masked]
        have moved := withRegistry_masked machine call (machine.registry.setBusy cell false)
          (.finished (.failed failure))
        exact congrArg (fun moved => some (moved.log (.refused failure))) moved
    | entering | reserving | waiting | checking | discarding | closing | finished => rfl

theorem close_masked (succeeds : Bool) :
    machine.masked.close call succeeds = (machine.close call succeeds).map masked := by
  rw [close, close, stage?_masked]
  cases machine.stage? call with
  | none => rfl
  | some stage =>
    cases stage with
    | discarding cell =>
      simp only [Option.map_some, Stage.masked, registry_masked, Registry.content_masked]
      cases machine.registry.content cell with
      | none => rfl
      | some pool =>
        exact congrArg (fun moved => some (moved.log (.closing pool.masked)))
          (setStage_masked machine call .entering)
    | closing cells closed =>
      cases cells with
      | nil => rfl
      | cons cell cells =>
        simp only [Option.map_some, Stage.masked, registry_masked, Registry.content_masked]
        cases machine.registry.content cell with
        | none => rfl
        | some pool =>
          exact congrArg (fun moved => some (moved.log (.closing pool.masked)))
            (setStage_masked machine call
              (.closing cells (if succeeds then closed + 1 else closed)))
    | entering | reserving | waiting | opening | checking | finished => rfl

theorem reorder_masked (places : List (PoolKey × Nat)) :
    machine.masked.reorder places = (machine.reorder places).map masked := by
  rw [reorder, reorder]
  change (if places.isPerm machine.registry.places then _ else _) = _
  split
  · rfl
  · rfl

/-- A step of the masked machine is the step of the machine, masked. -/
theorem step_masked (action : Action) :
    machine.masked.step action.masked = (machine.step action).map masked := by
  cases action with
  | invoke request =>
    have invoked : machine.calls.map Call.masked ++ [⟨request.masked, .entering⟩] =
        (machine.calls ++ [(⟨request, .entering⟩ : Call)]).map Call.masked := by
      rw [List.map_append]
      rfl
    exact congrArg (fun calls => some { machine.masked with calls }) invoked
  | advance call => exact advance_masked machine call
  | openEnds call failure => exact openEnds_masked machine call failure
  | close call succeeds => exact close_masked machine call succeeds
  | reorder places => exact reorder_masked machine places

end Machine

end Registry

end SqlGateway
