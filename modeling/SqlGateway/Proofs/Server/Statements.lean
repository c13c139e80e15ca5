import SqlGateway.Server.Statements

/-!
# What a batch and a statement leave behind

Whatever a server answers and whatever is done with the answer, a batch or a statement is sent once,
nothing else is, and the registry stays what it was.
-/

namespace SqlGateway.Gateway

variable {σ : Type} (backend : Backend σ)

theorem snd_on_bind_pure {α β : Type} (first : Gateway σ α) (value : α → β) (session : Session σ) :
    ((do return value (← first)).on session).2 = (first.on session).2 := by
  rw [on_bind]
  split <;> next ran => rw [ran] <;> rfl

theorem snd_on_complete (late : Failure) (reply : Reply) (session : Session σ) :
    ((complete late reply).on session).2 = session := by
  rw [complete]
  split <;> rfl

theorem snd_on_statement {α : Type} (late : Failure) (value : List BatchItem → α) (pool : Pool)
    (sql : String) (parameters : List Parameter) (session : Session σ) :
    ((do return value (← complete late (← sendStatement backend pool sql parameters))).on
        session).2 =
      { session with servers := (backend.execute pool sql parameters session.servers).2 }.log
        (.statement pool sql parameters) := by
  have sent : (sendStatement backend pool sql parameters).on session = _ := on_ofSession _ session
  rw [on_bind_of_ok _ sent, snd_on_bind_pure, snd_on_complete]

theorem snd_on_batch {α : Type} (late : Failure) (value : List BatchItem → α) (pool : Pool)
    (sql : String) (session : Session σ) :
    ((do return value (← complete late (← sendBatch backend pool sql))).on session).2 =
      { session with servers := (backend.batch pool sql session.servers).2 }.log
        (.batch pool sql) := by
  have sent : (sendBatch backend pool sql).on session = _ := on_ofSession _ session
  rw [on_bind_of_ok _ sent, snd_on_bind_pure, snd_on_complete]

end SqlGateway.Gateway
