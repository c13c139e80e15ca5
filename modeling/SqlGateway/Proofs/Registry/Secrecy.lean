import SqlGateway.Proofs.Registry.Masking
import SqlGateway.Registry.Connector
import SqlGateway.Server.Script

/-!
# Passwords stay unseen

A `View` holds all that those who use a registry can see of it. Masking the passwords changes
nothing of it (`Guarded.view_masked`), and a step of the masked state is the step of the state,
masked (`Guarded.step_masked`): no branch of the registry looks at a password. So two courses that
differ in passwords only look the same, as long as the server side does not tell them apart.

Main statement: `passwords_unseen`.
-/

namespace SqlGateway

theorem Script.Scene.attempt_masked (scene : Scene) (definition : Definition) :
    scene.attempt definition.masked = scene.attempt definition :=
  rfl

namespace Registry

/-! ## Inquiries -/

def Finding.masked : Finding → Finding
  | .definition result => .definition (result.map Definition.masked)
  | .list summaries => .list summaries
  | .poolCount count => .poolCount count

theorem Inquiry.find_masked (registry : Registry) (inquiry : Inquiry) :
    inquiry.find registry.masked = (inquiry.find registry).masked := by
  cases inquiry with
  | definition id => exact congrArg Finding.definition (definition_masked registry id)
  | list => exact congrArg Finding.list (list_masked registry)
  | poolCount => exact congrArg Finding.poolCount (poolCount_masked registry)

def Question.masked (question : Question) : Question :=
  { question with finding := question.finding.map Finding.masked }

theorem Question.definitionsMode_masked (question : Question) :
    question.masked.definitionsMode = question.definitionsMode := by
  obtain ⟨inquiry, finding⟩ := question
  cases finding with
  | none => rfl
  | some finding => rfl

theorem Question.poolsMode_masked (question : Question) :
    question.masked.poolsMode = question.poolsMode := by
  obtain ⟨inquiry, finding⟩ := question
  cases finding with
  | none => rfl
  | some finding => rfl

/-! ## Guards -/

section Modes

variable (registry : Registry) (request : Request) (stage : Stage)

theorem Stage.definitionsMode_masked :
    stage.masked.definitionsMode request.masked = stage.definitionsMode request := by
  cases stage with
  | entering => cases request <;> rfl
  | reserving | waiting | opening | checking | discarding | closing | finished => rfl

theorem Stage.poolsMode_masked :
    stage.masked.poolsMode registry.masked request.masked = stage.poolsMode registry request := by
  cases stage with
  | entering =>
    cases request with
    | update | remove | get => simp [Stage.masked, Request.masked, Stage.poolsMode]
    | register | removeAll | evict | closeAll => rfl
  | reserving | waiting | opening | checking | discarding | closing | finished => rfl

end Modes

namespace Guarded

def masked (state : Guarded) : Guarded :=
  { state with
    machine := state.machine.masked
    questions := state.questions.map Question.masked }

def Turn.masked : Turn → Turn
  | .invoke request => .invoke request.masked
  | .inquire inquiry => .inquire inquiry
  | .act party => .act party
  | .openEnds call failure => .openEnds call failure
  | .closeEnds call succeeds => .closeEnds call succeeds
  | .reorder places => .reorder places

variable (state : Guarded) (party : Party) (call : Nat)

@[simp]
theorem machine_masked : state.masked.machine = state.machine.masked :=
  rfl

@[simp]
theorem phases_masked : state.masked.phases = state.phases :=
  rfl

@[simp]
theorem waiters_masked : state.masked.waiters = state.waiters :=
  rfl

theorem questions_masked (number : Nat) :
    state.masked.questions[number]? = state.questions[number]?.map Question.masked :=
  List.getElem?_map

@[simp]
theorem definitionsMode_masked :
    state.masked.definitionsMode party = state.definitionsMode party := by
  cases party with
  | call call =>
    rw [definitionsMode, definitionsMode, machine_masked, Machine.calls_masked]
    cases state.machine.calls[call]? with
    | none => rfl
    | some found => exact Stage.definitionsMode_masked found.request found.stage
  | inquiry number =>
    rw [definitionsMode, definitionsMode, questions_masked]
    cases state.questions[number]? with
    | none => rfl
    | some question => exact question.definitionsMode_masked

@[simp]
theorem poolsMode_masked : state.masked.poolsMode party = state.poolsMode party := by
  cases party with
  | call call =>
    rw [poolsMode, poolsMode, machine_masked, Machine.calls_masked]
    cases state.machine.calls[call]? with
    | none => rfl
    | some found =>
      exact Stage.poolsMode_masked state.machine.registry found.request found.stage
  | inquiry number =>
    rw [poolsMode, poolsMode, questions_masked]
    cases state.questions[number]? with
    | none => rfl
    | some question => exact question.poolsMode_masked

@[simp]
theorem isReserving_masked : state.masked.isReserving party = state.isReserving party := by
  cases party with
  | call call =>
    rw [isReserving, isReserving, machine_masked, Machine.stage?_masked]
    cases state.machine.stage? call with
    | none => rfl
    | some stage => exact Machine.readsDefinitions_masked stage
  | inquiry number => rfl

theorem take_masked (guard : Guard) :
    state.masked.take guard party = (state.take guard party).map masked := by
  rw [take, take, Option.map_map]
  rfl

/-! ## Steps -/

theorem perform_masked : state.masked.perform party = (state.perform party).map masked := by
  cases party with
  | call call =>
    rw [perform, perform, machine_masked, Machine.advance_masked, Option.map_map, Option.map_map]
    rfl
  | inquiry number =>
    have found : (state.questions.map Question.masked).modify number
        (fun question => { question with
          finding := some (question.inquiry.find state.machine.registry.masked) }) =
        (state.questions.modify number fun question => { question with
          finding := some (question.inquiry.find state.machine.registry) }).map
          Question.masked := by
      apply modify_map
      intro question
      exact congrArg (fun finding => { question with finding := some finding })
        (question.inquiry.find_masked state.machine.registry)
    exact congrArg (fun questions => some { state.masked with questions }) found

theorem goOn_masked : state.masked.goOn call = (state.goOn call).map masked := by
  rw [goOn, goOn, machine_masked, Machine.stage?_masked]
  have performed := perform_masked state (.call call)
  cases state.machine.stage? call with
  | none => exact performed
  | some stage =>
    cases stage with
    | waiting definition key cell =>
      simp only [Option.map_some, Stage.masked, Machine.registry_masked,
        Registry.content_masked, Option.isSome_map]
      split
      · exact performed
      · rfl
    | discarding cell =>
      simp only [Option.map_some, Stage.masked, Machine.registry_masked,
        Registry.content_masked, Option.isSome_map]
      split
      · rfl
      · exact performed
    | closing cells closed =>
      cases cells with
      | nil => exact performed
      | cons cell cells =>
        simp only [Option.map_some, Stage.masked, Machine.registry_masked,
          Registry.content_masked, Option.isSome_map]
        split
        · rfl
        · exact performed
    | entering | reserving | opening | checking | finished => exact performed

theorem approach_masked : state.masked.approach party = (state.approach party).map masked := by
  unfold approach
  rw [definitionsMode_masked, poolsMode_masked]
  cases state.definitionsMode party with
  | some mode => rfl
  | none =>
    cases state.poolsMode party with
    | some mode => rfl
    | none =>
      cases party with
      | call call => exact goOn_masked state call
      | inquiry number => rfl

theorem permit_masked : state.masked.permit call = (state.permit call).map masked := by
  rw [permit, permit, machine_masked, Machine.stage?_masked]
  cases state.machine.stage? call with
  | none => rfl
  | some stage =>
    cases stage with
    | waiting definition key cell =>
      simp only [Option.map_some, Stage.masked, Machine.registry_masked,
        Registry.content_masked, Option.isSome_map, perform_masked, waiters_masked]
      -- The two conditions are equal, but not their instances of `Decidable`.
      by_cases admitted : (state.machine.registry.content cell).isSome ∨
          state.waiters.find? (fun waiter => waiter.2 = cell) = some (call, cell)
      · rw [if_pos admitted, if_pos admitted, Option.map_map, Option.map_map]
        rfl
      · rw [if_neg admitted, if_neg admitted]
        rfl
    | entering | reserving | opening | checking | discarding | closing | finished => rfl

theorem act_masked : state.masked.act party = (state.act party).map masked := by
  have performed (phase : Phase) :
      (state.masked.perform party).map (fun next => next.setPhase party phase) =
        ((state.perform party).map fun next => next.setPhase party phase).map masked := by
    rw [perform_masked, Option.map_map, Option.map_map]
    rfl
  have taken (guard : Guard) (phase : Phase) :
      (state.masked.take guard party).map (fun next => next.setPhase party phase) =
        ((state.take guard party).map fun next => next.setPhase party phase).map masked := by
    rw [take_masked, Option.map_map, Option.map_map]
    rfl
  unfold act
  rw [phases_masked, poolsMode_masked, isReserving_masked]
  cases state.phases party with
  | outside => exact approach_masked state party
  | asksDefinitions mode => exact taken .definitions (.holdsDefinitions mode false)
  | holdsDefinitions mode done =>
    cases done with
    | false =>
      cases state.poolsMode party with
      | some inner => rfl
      | none => exact performed (.holdsDefinitions mode true)
    | true => rfl
  | asksPools outer mode => exact taken .pools (.holdsPools outer mode false)
  | holdsPools outer mode done =>
    cases done with
    | false => exact performed (.holdsPools outer mode true)
    | true => cases outer <;> rfl
  | asksPermit =>
    cases party with
    | call call => exact permit_masked state call
    | inquiry number => rfl
  | closing => rfl

theorem step_masked (turn : Turn) :
    state.masked.step turn.masked = (state.step turn).map masked := by
  cases turn with
  | invoke request =>
    have invoked : state.machine.masked.step (.invoke request.masked) =
        (state.machine.step (.invoke request)).map Machine.masked :=
      Machine.step_masked state.machine (.invoke request)
    rw [Turn.masked, step, step, machine_masked, invoked, Option.map_map, Option.map_map]
    rfl
  | inquire inquiry =>
    have asked : state.questions.map Question.masked ++ [⟨inquiry, none⟩] =
        (state.questions ++ [(⟨inquiry, none⟩ : Question)]).map Question.masked := by
      rw [List.map_append]
      rfl
    exact congrArg (fun questions => some { state.masked with questions }) asked
  | act party => exact act_masked state party
  | openEnds call failure =>
    rw [Turn.masked, step, step, machine_masked, Machine.openEnds_masked, Option.map_map,
      Option.map_map]
    rfl
  | closeEnds call succeeds =>
    rw [Turn.masked, step, step, machine_masked, phases_masked, Machine.close_masked]
    split
    · rw [Option.map_map, Option.map_map]
      rfl
    · rfl
  | reorder places =>
    rw [Turn.masked, step, step, machine_masked, Machine.reorder_masked, Option.map_map,
      Option.map_map]
    rfl

end Guarded

/-! ## What is seen -/

/-- What is seen of the answer of a call. A failure is seen as it is. -/
inductive AnswerView where
  | done
  | pool (pool : PoolView)
  | closed (count : Nat)
  | evicted (closed : Bool)
  | failed (failure : Failure)

inductive FindingView where
  | definition (result : Except Failure DefinitionView)
  | list (summaries : List ConnectionSummary)
  | poolCount (count : Nat)

inductive EventView where
  | opening (definition : DefinitionView) (key : String)
  | opened (pool : PoolView)
  | refused (failure : Failure)
  | closing (pool : PoolView)

/-- All that is seen of a registry and of those who use it. -/
structure View where
  /-- The answers of the calls in the order in which the calls were made. -/
  answers : List (Option AnswerView)
  findings : List (Option FindingView)
  registry : RegistryView
  /-- What was asked of the server side and what it answered, the latest first. -/
  events : List EventView
  /-- Who has not come to an end. -/
  running : Party → Bool

def Answer.view : Answer → AnswerView
  | .done => .done
  | .pool found => .pool found.view
  | .closed count => .closed count
  | .evicted succeeds => .evicted succeeds
  | .failed failure => .failed failure

def Stage.answer? : Stage → Option AnswerView
  | .finished answer => some answer.view
  | .entering | .reserving .. | .waiting .. | .opening .. | .checking .. | .discarding _
  | .closing .. => none

theorem Stage.answer?_masked (stage : Stage) : stage.masked.answer? = stage.answer? := by
  cases stage with
  | finished answer => cases answer <;> rfl
  | entering | reserving | waiting | opening | checking | discarding | closing => rfl

theorem Stage.isFinished_masked (stage : Stage) : stage.masked.isFinished = stage.isFinished := by
  cases stage <;> rfl

def Finding.view : Finding → FindingView
  | .definition result => .definition (result.map Definition.view)
  | .list summaries => .list summaries
  | .poolCount count => .poolCount count

theorem Finding.view_masked (finding : Finding) : finding.masked.view = finding.view := by
  cases finding with
  | definition result =>
    cases result with
    | error failure => rfl
    | ok definition =>
      exact congrArg (fun view => FindingView.definition (.ok view)) definition.view_masked
  | list | poolCount => rfl

def Event.view : Event → EventView
  | .opening definition key => .opening definition.view key.text
  | .opened pool => .opened pool.view
  | .refused failure => .refused failure
  | .closing pool => .closing pool.view

theorem Event.view_masked (event : Event) : event.masked.view = event.view := by
  cases event with
  | opening definition key =>
    exact congrArg (fun view => EventView.opening view key.text) definition.view_masked
  | opened | refused | closing => rfl

namespace Guarded

def view (state : Guarded) : View where
  answers := state.machine.calls.map fun call => call.stage.answer?
  findings := state.questions.map fun question => question.finding.map Finding.view
  registry := state.machine.registry.view
  events := state.machine.events.map Event.view
  running := state.isRunning

variable (state : Guarded)

theorem isRunning_masked (party : Party) :
    state.masked.isRunning party = state.isRunning party := by
  unfold isRunning
  rw [phases_masked]
  cases party with
  | call call =>
    dsimp only
    rw [machine_masked, Machine.isRunning, Machine.isRunning, Machine.stage?_masked]
    cases state.machine.stage? call with
    | none => rfl
    | some stage =>
      rw [Option.map_some, Option.any_some, Option.any_some, Stage.isFinished_masked]
  | inquiry number =>
    dsimp only
    rw [questions_masked]
    cases state.questions[number]? with
    | none => rfl
    | some question =>
      rw [Option.map_some, Option.any_some, Option.any_some, Question.masked, Option.isNone_map]

theorem view_masked : state.masked.view = state.view := by
  have answers : (state.machine.calls.map Call.masked).map (fun call => call.stage.answer?) =
      state.machine.calls.map fun call => call.stage.answer? := by
    rw [List.map_map]
    exact List.map_congr_left fun call _ => call.stage.answer?_masked
  have findings : (state.questions.map Question.masked).map
      (fun question => question.finding.map Finding.view) =
      state.questions.map fun question => question.finding.map Finding.view := by
    rw [List.map_map]
    apply List.map_congr_left
    intro question _
    cases found : question.finding with
    | none => simp [Question.masked, found]
    | some finding => simp [Question.masked, found, finding.view_masked]
  have events : (state.machine.events.map Event.masked).map Event.view =
      state.machine.events.map Event.view := by
    rw [List.map_map]
    exact List.map_congr_left fun event _ => event.view_masked
  have running : state.masked.isRunning = state.isRunning := by
    funext party
    exact isRunning_masked state party
  rw [view, view, running]
  -- The fields of the masked state, as far as they are not views yet.
  change View.mk ((state.machine.calls.map Call.masked).map _)
    ((state.questions.map Question.masked).map _) state.machine.registry.masked.view
    ((state.machine.events.map Event.masked).map _) _ = _
  rw [answers, findings, state.machine.registry.view_masked, events]

end Guarded

/-! ## Courses -/

def Cue.masked : Cue → Cue
  | .invoke request => .invoke request.masked
  | .inquire inquiry => .inquire inquiry
  | .act party => .act party
  | .openEnds call => .openEnds call
  | .closeEnds call => .closeEnds call
  | .reorder places => .reorder places

theorem Machine.nextClosing?_masked (machine : Machine) (call : Nat) :
    machine.masked.nextClosing? call = (machine.nextClosing? call).map Pool.masked := by
  rw [nextClosing?, nextClosing?, stage?_masked]
  cases machine.stage? call with
  | none => rfl
  | some stage =>
    cases stage with
    | discarding cell => exact Registry.content_masked machine.registry cell
    | closing cells closed =>
      cases cells with
      | nil => rfl
      | cons cell cells => exact Registry.content_masked machine.registry cell
    | entering | reserving | waiting | opening | checking | finished => rfl

/-- The outcome does not depend on the passwords in what is asked for, now and before. -/
def Blind {α β : Type} (mask : α → α) (outcome : List Event → α → β) : Prop :=
  ∀ events others left right, events.map Event.masked = others.map Event.masked →
    mask left = mask right → outcome events left = outcome others right

theorem Blind.outcome_masked {α β : Type} {mask : α → α} {outcome : List Event → α → β}
    (blind : Blind mask outcome) (idempotent : ∀ asked, mask (mask asked) = mask asked)
    (events : List Event) (asked : α) :
    outcome (events.map Event.masked) (mask asked) = outcome events asked := by
  have same : (events.map Event.masked).map Event.masked = events.map Event.masked := by
    rw [List.map_map]
    exact List.map_congr_left fun event _ => event.masked_masked
  exact blind _ _ _ _ same (idempotent asked)

namespace Connector

structure IsBlind (connector : Connector) : Prop where
  connect : ∀ database,
    Blind Definition.masked fun events definition => connector.connect events definition database
  close : Blind Pool.masked connector.close

/-- A driver with a time limit is blind if its attempts are: the failure of one that is late does
not show the password. -/
theorem isBlind_ofDriver {attempt : List Event → Definition → Option String → Attempt}
    (blind : ∀ database,
      Blind Definition.masked fun events definition => attempt events definition database)
    (seconds : Nat) : (ofDriver seconds attempt).IsBlind where
  connect database events others left right sameEvents same := by
    have sameAttempt : attempt events left database = attempt others right database :=
      blind database events others left right sameEvents same
    change (attempt events left database).outcome seconds left =
      (attempt others right database).outcome seconds right
    rw [sameAttempt, ← Attempt.outcome_masked seconds left, same, Attempt.outcome_masked]
  close _ _ _ _ _ _ := rfl

section Course

variable {connector : Connector} (blind : connector.IsBlind)

include blind

theorem failure?_masked (events : List Event) (definition : Definition) (key : PoolKey) :
    connector.failure? (events.map Event.masked) definition.masked key =
      connector.failure? events definition key := by
  have connected : connector.connect (events.map Event.masked) definition.masked key.database =
      connector.connect events definition key.database :=
    (blind.connect key.database).outcome_masked Definition.masked_masked events definition
  rw [failure?, failure?, connected]

theorem turn?_masked (state : Guarded) (cue : Cue) :
    connector.turn? state.masked cue.masked =
      (connector.turn? state cue).map Guarded.Turn.masked := by
  cases cue with
  | openEnds call =>
    rw [Cue.masked, turn?, turn?, Guarded.machine_masked, Machine.stage?_masked]
    cases state.machine.stage? call with
    | none => rfl
    | some stage =>
      cases stage with
      | opening definition key cell =>
        exact congrArg (fun failure => some (Guarded.Turn.openEnds call failure))
          (failure?_masked blind state.machine.events definition key)
      | entering | reserving | waiting | checking | discarding | closing | finished => rfl
  | closeEnds call =>
    rw [Cue.masked, turn?, turn?, Guarded.machine_masked, Machine.nextClosing?_masked]
    cases state.machine.nextClosing? call with
    | none => rfl
    | some pool =>
      exact congrArg (fun succeeds => some (Guarded.Turn.closeEnds call succeeds))
        (blind.close.outcome_masked Pool.masked_masked state.machine.events pool)
  | invoke | inquire | act | reorder => rfl

theorem step_masked (state : Guarded) (cue : Cue) :
    connector.step state.masked cue.masked = (connector.step state cue).map Guarded.masked := by
  rw [step, step, turn?_masked blind]
  cases connector.turn? state cue with
  | none => rfl
  | some turn => exact Guarded.step_masked state turn

theorem run_masked (cues : List Cue) :
    connector.run (cues.map Cue.masked) = (connector.run cues).map Guarded.masked := by
  -- By induction on the cues, for every state that they may start from.
  have runs (state : Guarded) :
      (cues.map Cue.masked).foldlM connector.step state.masked =
        (cues.foldlM connector.step state).map Guarded.masked := by
    induction cues generalizing state with
    | nil => rfl
    | cons cue cues induction =>
      rw [List.map_cons, List.foldlM_cons, List.foldlM_cons, step_masked blind]
      cases connector.step state cue with
      | none => rfl
      | some next => exact induction next
  exact runs Guarded.start

end Course

/-- Passwords do not influence what is seen, whatever is done with a registry at once or one after
the other.

1. Let the outcomes of a connector not depend on passwords, and let two lists of cues be the same
   when the passwords in the definitions are masked. Then one list is possible exactly if the other
   is, and the same is seen behind both: the answers of all calls and inquiries, with the text of
   every failure; the location, the diagnostic text and the JSON form of every definition; the list
   of connections; the pools with their keys and their number; what was asked of the server side
   and what it answered; and who is still under way. As this also holds of the beginnings of the
   lists, the same is seen at every moment.
2. The outcomes of a driver with a time limit do not depend on passwords if its attempts do not,
   also where the time is over.
3. Two definitions are the same when masked exactly if they are the same but for what the password
   is: either both have one or neither has. -/
theorem passwords_unseen :
    (∀ connector : Connector, connector.IsBlind → ∀ first second : List Cue,
      first.map Cue.masked = second.map Cue.masked →
      (connector.run first).map Guarded.view = (connector.run second).map Guarded.view) ∧
    (∀ attempt : List Event → Definition → Option String → Attempt,
      (∀ database,
        Blind Definition.masked fun events definition => attempt events definition database) →
      ∀ seconds, (ofDriver seconds attempt).IsBlind) ∧
    ∀ left right : Definition, left.masked = right.masked ↔
      ∃ password, right = { left with password } ∧
        password.isSome = left.password.isSome := by
  refine ⟨?courses, fun attempt => isBlind_ofDriver, Definition.masked_eq_masked_iff⟩
  intro connector blind first second alike
  have seen (cues : List Cue) :
      (connector.run cues).map Guarded.view =
        (connector.run (cues.map Cue.masked)).map Guarded.view := by
    rw [run_masked blind, Option.map_map]
    exact Option.map_congr fun state _ => state.view_masked.symm
  calc (connector.run first).map Guarded.view
      = (connector.run (first.map Cue.masked)).map Guarded.view := seen first
    _ = (connector.run (second.map Cue.masked)).map Guarded.view := by rw [alike]
    _ = (connector.run second).map Guarded.view := (seen second).symm

def waking (events : List Event) (definition : Definition) (_ : Option String) : Attempt :=
  (Script.Scene.mk .up (if events.length < 2 then .silent else .granted) 5000).attempt definition

def shop (password : String) : Definition where
  id := "shop"
  engine := .postgres
  host := "db"
  port := none
  username := some "root"
  password := some password
  database := some "books"
  showAllDatabases := false
  ssl := false
  trustServerCertificate := false
  limits := .standard

/-- A pool is asked for twice, the connection is looked at, and its password is replaced. -/
def visits (password replacement : String) : List Cue :=
  .invoke (.register (shop password)) :: List.replicate 4 (.act (.call 0)) ++
  .invoke (.get "shop" none) :: List.replicate 13 (.act (.call 1)) ++ .openEnds 1 ::
  .invoke (.get "shop" none) :: List.replicate 9 (.act (.call 2)) ++
  .openEnds 2 :: List.replicate 4 (.act (.call 2)) ++
  .inquire (.definition "shop") :: List.replicate 4 (.act (.inquiry 0)) ++
  .invoke (.update (shop replacement)) :: List.replicate 8 (.act (.call 3)) ++
  .closeEnds 3 :: .act (.call 3) ::
  .inquire .poolCount :: List.replicate 3 (.act (.inquiry 1))

theorem passwords_unseen_woken :
    (∀ database,
      Blind Definition.masked fun events definition => waking events definition database) ∧
    (visits "hunter2" "swordfish").map Cue.masked = (visits "letmein" "").map Cue.masked ∧
    ((ofDriver 5 waking).run (visits "hunter2" "swordfish")).map
      (fun state => (state.view.answers, state.view.findings)) = some
        ([some .done,
          some (.failed (.timeout "connecting to postgres://root:****@db:5432/books" 5)),
          some (.pool ⟨0, "shop/books", .postgres⟩), some .done],
        [some (.definition (.ok (shop "letmein").view)), some (.poolCount 0)]) ∧
    ((ofDriver 5 waking).run (visits "hunter2" "swordfish")).map Guarded.view =
      ((ofDriver 5 waking).run (visits "letmein" "")).map Guarded.view := by
  have blind (database : Option String) :
      Blind Definition.masked fun events definition => waking events definition database := by
    intro events others left right sameEvents same
    have counts : events.length = others.length := by
      rw [← events.length_map, sameEvents, List.length_map]
    change (Script.Scene.mk _ _ _).attempt left = (Script.Scene.mk _ _ _).attempt right
    rw [← Script.Scene.attempt_masked _ left, same, Script.Scene.attempt_masked, counts]
  have alike : (visits "hunter2" "swordfish").map Cue.masked =
      (visits "letmein" "").map Cue.masked := rfl
  exact ⟨blind, alike, rfl, passwords_unseen.1 (ofDriver 5 waking)
    (passwords_unseen.2.1 waking blind 5) _ _ alike⟩

end Connector

end Registry

end SqlGateway
