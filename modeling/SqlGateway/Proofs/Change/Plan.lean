import SqlGateway.Change.Plan

/-!
# How far a plan comes

A runner is any state machine that takes texts and says of each whether it succeeded. `attempts`
gives it texts one after the other and keeps every outcome; `recording` lets it write down what it
is given. Against these, a plan gives its runner the texts of a first part of its statements and
nothing else, and its report says which of them succeeded and which one did not:
`apply_stops`.
-/

namespace SqlGateway

abbrev Runner (σ : Type) := String → σ → Except Failure Unit × σ

namespace Runner

variable {σ : Type} (run : Runner σ)

def attempts : List String → σ → List (Except Failure Unit) × σ
  | [], state => ([], state)
  | sql :: rest, state =>
    let (outcome, next) := run sql state
    let (outcomes, last) := attempts rest next
    (outcome :: outcomes, last)

def recording : Runner (σ × List String) := fun sql (state, seen) =>
  let (outcome, next) := run sql state
  (outcome, (next, seen ++ [sql]))

end Runner

namespace StatementPlan

variable {σ : Type} (run : Runner σ)

def succeeded (statements : List PlannedStatement) (outcomes : List (Except Failure Unit)) :
    List PlannedStatement :=
  ((statements.zip outcomes).filter fun attempt => attempt.2.toBool).map Prod.fst

inductive Course : List PlannedStatement → σ → List PlannedStatement →
    List (Except Failure Unit) → Option (PlannedStatement × Failure) → σ → Prop
  | done {state : σ} : Course [] state [] [] none state
  | stop {statement : PlannedStatement} {rest : List PlannedStatement} {state after : σ}
      {cause : Failure} (failed : run statement.sql state = (.error cause, after)) :
      Course (statement :: rest) state [statement] [.error cause] (some (statement, cause)) after
  | step {statement : PlannedStatement} {rest ran : List PlannedStatement} {state next after : σ}
      {outcomes : List (Except Failure Unit)} {failed : Option (PlannedStatement × Failure)}
      (applied : run statement.sql state = (.ok (), next))
      (course : Course rest next ran outcomes failed after) :
      Course (statement :: rest) state (statement :: ran) (.ok () :: outcomes) failed after

variable {run}

theorem exists_course (run : Runner σ) (statements : List PlannedStatement) (state : σ) :
    ∃ ran outcomes failed after, Course run statements state ran outcomes failed after := by
  induction statements generalizing state with
  | nil => exact ⟨_, _, _, _, .done⟩
  | cons statement rest induction =>
    rcases answer : run statement.sql state with ⟨cause | ⟨⟨⟩⟩, next⟩
    · exact ⟨_, _, _, _, .stop answer⟩
    · rcases induction next with ⟨ran, outcomes, failed, after, course⟩
      exact ⟨_, _, _, _, .step answer course⟩

section Course

variable {statements ran : List PlannedStatement} {state after : σ}
  {outcomes : List (Except Failure Unit)} {failed : Option (PlannedStatement × Failure)}
  (course : Course run statements state ran outcomes failed after)

include course

theorem Course.ran_prefix : ran <+: statements := by
  induction course with
  | done => exact List.nil_prefix
  | stop => simp
  | step _ _ induction => exact (List.prefix_cons_inj _).mpr induction

theorem Course.attempts_eq :
    run.attempts (ran.map PlannedStatement.sql) state = (outcomes, after) := by
  induction course with
  | done => rfl
  | stop failed => simp [Runner.attempts, failed]
  | step applied _ induction => simp [Runner.attempts, applied, induction]

theorem Course.runStatements_eq :
    runStatements run statements state = (succeeded ran outcomes,
      failed.map fun failed => ⟨failed.1, failed.2.message⟩, after) := by
  induction course with
  | done => rfl
  | stop failed => simp [runStatements, failed, succeeded, Except.toBool]
  | step applied _ induction =>
    simp [runStatements, applied, induction, succeeded, Except.toBool]

theorem Course.recorded (seen : List String) :
    Course run.recording statements (state, seen) ran outcomes failed
      (after, seen ++ ran.map PlannedStatement.sql) := by
  induction course generalizing seen with
  | done => simpa using Course.done
  | stop failed => exact .stop (by simp [Runner.recording, failed])
  | @step statement _ _ _ next _ _ _ applied _ induction =>
    rw [List.map_cons, List.append_cons]
    exact .step (by simp [Runner.recording, applied]) (induction _)

theorem Course.whole (unfailed : failed = none) :
    ran = statements ∧ ∀ outcome ∈ outcomes, outcome = .ok () := by
  induction course with
  | done => simp
  | stop => cases unfailed
  | step _ _ induction =>
    rcases induction unfailed with ⟨same, succeeds⟩
    exact ⟨by rw [same], by simpa using succeeds⟩

theorem Course.stopped {statement : PlannedStatement} {cause : Failure}
    (failing : failed = some (statement, cause)) :
    ∃ front, ran = front ++ [statement] ∧
      outcomes = front.map (fun _ => .ok ()) ++ [.error cause] := by
  induction course with
  | done => cases failing
  | stop =>
    cases failing
    exact ⟨[], rfl, rfl⟩
  | @step first _ _ _ _ _ _ _ _ _ induction =>
    rcases induction failing with ⟨front, rfl, rfl⟩
    exact ⟨first :: front, rfl, rfl⟩

end Course

theorem Course.apply_eq {plan : StatementPlan} {ran : List PlannedStatement} {state after : σ}
    {outcomes : List (Except Failure Unit)} {failed : Option (PlannedStatement × Failure)}
    (course : Course run plan.statements state ran outcomes failed after) :
    plan.apply run state = (⟨succeeded ran outcomes, plan.skipped,
      failed.map fun failed => ⟨failed.1, failed.2.message⟩⟩, after) := by
  rw [apply, course.runStatements_eq]

/-- What a report says of statements that ran and of their outcomes. -/
structure Accounts (report : ChangeReport) (ran : List PlannedStatement)
    (outcomes : List (Except Failure Unit)) : Prop where
  applied : report.applied = succeeded ran outcomes
  unfailed : report.failure = none ↔ ∀ outcome ∈ outcomes, outcome = .ok ()
  /-- The statement that failed is the only one, and the last. -/
  failed : ∀ failure, report.failure = some failure → ∃ front cause,
    ran = front ++ [failure.statement] ∧
    outcomes = front.map (fun _ => .ok ()) ++ [.error cause] ∧ failure.message = cause.message
  ok : report.toResult = .ok report ↔ ∀ outcome ∈ outcomes, outcome = .ok ()
  error : ∀ cause, .error cause ∈ outcomes → ∃ failed, ran.getLast? = some failed ∧
    report.toResult = .error (.partialChange
      ((succeeded ran outcomes).map PlannedStatement.sql) failed.sql cause.message)

theorem accounts_of_unfailed {ran : List PlannedStatement}
    {outcomes : List (Except Failure Unit)} (succeeds : ∀ outcome ∈ outcomes, outcome = .ok ())
    (skipped : Nat) : Accounts ⟨succeeded ran outcomes, skipped, none⟩ ran outcomes where
  applied := rfl
  unfailed := by simpa using succeeds
  failed _ failing := nomatch failing
  ok := by simpa [ChangeReport.toResult] using succeeds
  error cause member := nomatch succeeds _ member

theorem accounts_of_failed (front : List PlannedStatement) (statement : PlannedStatement)
    (cause : Failure) (skipped : Nat) :
    let outcomes := front.map (fun _ => .ok ()) ++ [.error cause]
    Accounts ⟨succeeded (front ++ [statement]) outcomes, skipped,
      some ⟨statement, cause.message⟩⟩ (front ++ [statement]) outcomes where
  applied := rfl
  unfailed := by simp
  failed := by
    rintro _ ⟨⟩
    exact ⟨front, cause, rfl, rfl, rfl⟩
  ok := by simp [ChangeReport.toResult]
  error other member := by
    have same : other = cause := by simpa using member
    exact ⟨statement, by simp, by rw [same]; rfl⟩

/-- A plan runs the texts of a first part of its statements in order and nothing else, whatever the
runner makes of what it has run before. The report accounts for this part, which is the whole plan
unless a statement of it failed. -/
theorem apply_stops (run : Runner σ) (plan : StatementPlan) (state : σ) :
    ∃ ran rest outcomes after report, plan.statements = ran ++ rest ∧
      run.attempts (ran.map PlannedStatement.sql) state = (outcomes, after) ∧
      plan.apply run state = (report, after) ∧
      plan.apply run.recording (state, []) = (report, (after, ran.map PlannedStatement.sql)) ∧
      report.skipped = plan.skipped ∧ Accounts report ran outcomes ∧
      (report.failure = none → rest = []) := by
  rcases exists_course run plan.statements state with
    ⟨ran, outcomes, failed, after, course⟩
  rcases course.ran_prefix with ⟨rest, split⟩
  have recorded := (course.recorded []).apply_eq
  rw [List.nil_append] at recorded
  refine ⟨ran, rest, outcomes, after, _, split.symm, course.attempts_eq, course.apply_eq, recorded,
    rfl, ?accounts, ?whole⟩
  case accounts =>
    cases failed with
    | none => exact accounts_of_unfailed (course.whole rfl).2 plan.skipped
    | some failed =>
      rcases course.stopped rfl with ⟨front, rfl, rfl⟩
      exact accounts_of_failed front failed.1 failed.2 plan.skipped
  case whole =>
    intro unfailed
    have whole := (course.whole (Option.map_eq_none_iff.mp unfailed)).1
    rw [← split] at whole
    simpa using whole

end StatementPlan

end SqlGateway
