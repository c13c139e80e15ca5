import SqlGateway.Connection.Definition

/-!
# Definitions without their passwords

Two definitions that are the same once their passwords are masked differ at most in what the
passwords are, not in whether there is one. Whatever is shown of a definition is the same for both:
`view_masked`. So is the failure of a driver that was asked to open a pool and did not come to an
end in time: `outcome_masked`.
-/

namespace SqlGateway

structure DefinitionView where
  location : String
  /-- The diagnostic text. -/
  text : String
  json : Json.Value
  /-- What a list of connections shows. -/
  summary : ConnectionSummary

namespace Definition

def view (definition : Definition) : DefinitionView where
  location := definition.maskedLocation
  text := definition.describe
  json := definition.toJson
  summary := .ofDefinition definition

def masked (definition : Definition) : Definition :=
  { definition with password := definition.password.map fun _ => "****" }

variable (definition : Definition)

@[simp]
theorem masked_masked : definition.masked.masked = definition.masked := by
  rw [masked, masked, Option.map_map]
  rfl

/-- Definitions are the same when masked if they are the same but for what the password is. -/
theorem masked_eq_masked_iff (left right : Definition) :
    left.masked = right.masked ↔
      ∃ password, right = { left with password } ∧ password.isSome = left.password.isSome := by
  constructor
  · intro same
    have others := congrArg (fun shown => { shown with password := right.password }) same
    have presence := congrArg (fun shown => shown.password.isSome) same
    refine ⟨right.password, others.symm, ?_⟩
    simpa [masked] using presence.symm
  · rintro ⟨password, rfl, presence⟩
    have stars : left.password.map (fun _ => "****") = password.map fun _ => "****" := by
      cases known : left.password with
      | none =>
        rw [known, Option.isSome_none, Option.isSome_eq_false_iff, Option.isNone_iff_eq_none]
          at presence
        rw [presence]
      | some own =>
        rw [known, Option.isSome_some] at presence
        rcases Option.isSome_iff_exists.mp presence with ⟨other, rfl⟩
        rfl
    exact congrArg (fun password => { left with password }) stars

@[simp]
theorem id_masked : definition.masked.id = definition.id :=
  rfl

@[simp]
theorem effectiveDatabase_masked (asked : Option String) :
    definition.masked.effectiveDatabase asked = definition.effectiveDatabase asked :=
  rfl

theorem maskedCredentials_masked :
    definition.masked.maskedCredentials = definition.maskedCredentials := by
  rw [maskedCredentials, maskedCredentials, masked]
  cases definition.username with
  | none => rfl
  | some username => cases definition.password <;> rfl

@[simp]
theorem maskedLocation_masked : definition.masked.maskedLocation = definition.maskedLocation := by
  rw [maskedLocation, maskedCredentials_masked]
  rfl

theorem describe_masked : definition.masked.describe = definition.describe := by
  unfold describe
  rw [maskedLocation_masked]
  rfl

theorem toJson_masked : definition.masked.toJson = definition.toJson :=
  rfl

@[simp]
theorem ofDefinition_masked :
    ConnectionSummary.ofDefinition definition.masked = ConnectionSummary.ofDefinition definition :=
  rfl

@[simp]
theorem view_masked : definition.masked.view = definition.view := by
  rw [view, maskedLocation_masked, describe_masked, toJson_masked, ofDefinition_masked, view]

end Definition

@[simp]
theorem Attempt.outcome_masked (seconds : Nat) (definition : Definition) (attempt : Attempt) :
    attempt.outcome seconds definition.masked = attempt.outcome seconds definition := by
  cases attempt with
  | opened => rfl
  | refused text => rfl
  | late => rw [outcome, outcome, Definition.maskedLocation_masked]

end SqlGateway
