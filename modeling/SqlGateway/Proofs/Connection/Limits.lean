import SqlGateway.Proofs.Connection.Reading

/-!
# Limits that are accepted

Limits are checked as they were given, one against the other only where both were given. So accepted
limits are never zero, and the minimum is at most the maximum but in one case: a minimum above the
standard maximum with no maximum beside it (`accepted_limits`).
-/

namespace SqlGateway

namespace PoolLimits

theorem problem?_eq_none_iff {limits : PoolLimits} :
    limits.problem? = none ↔
      limits.maxConnections? ≠ some 0 ∧ limits.minConnections? ≠ some 0 ∧
        ∀ minimum ∈ limits.minConnections?, ∀ maximum ∈ limits.maxConnections?,
          minimum ≤ maximum := by
  rcases limits with ⟨maximum, minimum, _, _, _⟩
  cases minimum with
  | none => simp [problem?]
  | some minimum =>
    cases maximum with
    | none => simp [problem?]
    | some maximum =>
      by_cases noMaximum : maximum = 0
      · simp [problem?, noMaximum]
      · by_cases noMinimum : minimum = 0
        · simp [problem?, noMaximum, noMinimum]
        · simp [problem?, noMaximum, noMinimum]

/-- A minimum above the maximum that stands in where none is given. -/
def Exceeds (limits : PoolLimits) : Prop :=
  limits.maxConnections? = none ∧
    ∃ minimum, limits.minConnections? = some minimum ∧ standard.maxConnections < minimum

theorem one_le_getD {given : Option UInt32} {preset : UInt32} (notZero : given ≠ some 0)
    (positive : 1 ≤ preset) : 1 ≤ given.getD preset := by
  cases given with
  | none => exact positive
  | some count =>
    have nonzero : count ≠ 0 := fun zero => notZero (congrArg some zero)
    rw [Option.getD_some]
    grind

theorem usable_of_problem? {limits : PoolLimits} (checked : limits.problem? = none) :
    1 ≤ limits.minConnections ∧ 1 ≤ limits.maxConnections ∧
      (limits.minConnections ≤ limits.maxConnections ↔ ¬limits.Exceeds) := by
  rcases problem?_eq_none_iff.mp checked with ⟨maximumGiven, minimumGiven, ordered⟩
  have maximumPositive : 1 ≤ limits.maxConnections := one_le_getD maximumGiven (by decide)
  refine ⟨one_le_getD minimumGiven (by decide), maximumPositive, ?_⟩
  cases minimum : limits.minConnections? with
  | none =>
    have standsIn : limits.minConnections = 1 := by rw [minConnections, minimum, Option.getD_none]
    rw [standsIn, Exceeds, minimum]
    exact iff_of_true maximumPositive (by simp)
  | some least =>
    have isGiven : limits.minConnections = least := by
      rw [minConnections, minimum, Option.getD_some]
    rw [isGiven, Exceeds, minimum]
    cases maximum : limits.maxConnections? with
    | none =>
      have standsIn : limits.maxConnections = standard.maxConnections := by
        rw [maxConnections, maximum]
        rfl
      simp [standsIn]
    | some most =>
      have isGiven : limits.maxConnections = most := by
        rw [maxConnections, maximum, Option.getD_some]
      rw [isGiven]
      exact iff_of_true (ordered least minimum most maximum) (by simp)

end PoolLimits

namespace Definition

/-! ## Texts -/

theorem limits_of_ofParts {id : Option String} {engine : Engine} {host : String} {url : Url}
    {definition : Definition} (read : ofParts id engine host url = .ok definition) :
    definition.limits = limitsOf url.query := by
  rw [ofParts] at read
  cases made : make (id.getD ((databaseOf url.path).getD defaultId)) engine host with
  | error problem =>
    rw [made] at read
    cases read
  | ok bare =>
    rw [made] at read
    cases read
    rfl

theorem problem?_of_ofUrl {id : Option String} {url : Url} {definition : Definition}
    (read : ofUrl id url = .ok definition) : definition.limits.problem? = none := by
  rcases ofUrl_eq_ok_iff.mp read with ⟨engine, host, -, checked, -, parts⟩
  rw [limits_of_ofParts parts, checked]

theorem problem?_of_parse {text : String} {definition : Definition}
    (read : parse text = .ok definition) : definition.limits.problem? = none := by
  rcases parse_eq_ok_iff.mp read with ⟨-, url, -, defined⟩
  exact problem?_of_ofUrl defined

end Definition

namespace PoolLimits

inductive Accepted : PoolLimits → Prop where
  | checked {limits : PoolLimits} (sound : limits.problem? = none) : Accepted limits
  | read {text : String} {definition : Definition}
      (parsed : Definition.parse text = .ok definition) : Accepted definition.limits

theorem Accepted.problem?_eq_none {limits : PoolLimits} (accepted : Accepted limits) :
    limits.problem? = none := by
  cases accepted with
  | checked sound => exact sound
  | read parsed => exact Definition.problem?_of_parse parsed

/-- Limits pass the check exactly if none that is given is zero and a minimum and a maximum that are
both given are in order. What is accepted, on its own or with a connection, is positive, and the
minimum is at most the maximum unless it exceeds the standard one with no maximum beside it. -/
theorem accepted_limits (limits : PoolLimits) :
    (limits.problem? = none ↔
      limits.maxConnections? ≠ some 0 ∧ limits.minConnections? ≠ some 0 ∧
        ∀ minimum ∈ limits.minConnections?, ∀ maximum ∈ limits.maxConnections?,
          minimum ≤ maximum) ∧
      (Accepted limits →
        1 ≤ limits.minConnections ∧ 1 ≤ limits.maxConnections ∧
          (limits.minConnections ≤ limits.maxConnections ↔ ¬limits.Exceeds)) :=
  ⟨problem?_eq_none_iff, fun accepted => usable_of_problem? accepted.problem?_eq_none⟩

/-- A connection whose minimum fills the standard maximum. -/
theorem accepted_limits_filled :
    let limits : PoolLimits := { standard with minConnections? := some 10 }
    let definition : Definition := {
      id := "app", engine := .postgres, host := "h", port := none, username := none,
      password := none, database := some "app", showAllDatabases := false, ssl := false,
      trustServerCertificate := false, limits }
    Definition.parse "postgres://h/app?min_connections=10" = .ok definition ∧ Accepted limits ∧
      1 ≤ limits.minConnections ∧ limits.minConnections ≤ limits.maxConnections := by
  intro limits definition
  have parsed : Definition.parse "postgres://h/app?min_connections=10" = .ok definition := rfl
  have accepted : Accepted limits := .read parsed
  rcases (accepted_limits limits).2 accepted with ⟨positive, -, ordered⟩
  have within : ¬limits.Exceeds := by
    rintro ⟨-, minimum, given, above⟩
    cases given
    exact absurd above (by decide)
  exact ⟨parsed, accepted, positive, ordered.mpr within⟩

/-- A minimum beyond the standard maximum is accepted, both in a text and by the check. -/
theorem not_accepted_limits_ordered :
    (¬∀ text definition, Definition.parse text = .ok definition →
        definition.limits.minConnections ≤ definition.limits.maxConnections) ∧
      ¬∀ limits : PoolLimits, limits.problem? = none →
        limits.minConnections ≤ limits.maxConnections := by
  constructor
  · intro claimed
    have parsed : Definition.parse "postgres://h/app?min_connections=20" = .ok {
        id := "app", engine := .postgres, host := "h", port := none, username := none,
        password := none, database := some "app", showAllDatabases := false, ssl := false,
        trustServerCertificate := false,
        limits := { standard with minConnections? := some 20 } } := rfl
    exact absurd (claimed _ _ parsed) (by decide)
  · intro claimed
    exact absurd (claimed { standard with minConnections? := some 11 } rfl) (by decide)

end PoolLimits

end SqlGateway
