import SqlGateway.Proofs.Connection.Reading
import SqlGateway.Proofs.Url.Query

/-!
# Options of a connection

Of the options in the query of a connection text nothing counts but the last value of each of the
eight names (`parse_congr`). Texts that differ in the query alone, in other names, in earlier values
or in the order of pairs, are read to the same definition or refused for the same reason.
-/

namespace SqlGateway.Definition

def optionNames : List String :=
  ["show_all_databases", "ssl", "trust_cert", "max_connections", "min_connections",
    "idle_timeout", "acquire_timeout", "test_before_acquire"]

def lastValue? (query : List (String × String)) (name : String) : Option String :=
  (query.filter fun pair => Text.sameIgnoringCase pair.1 name).getLast?.map Prod.snd

/-- Two queries that give every option the same last value or none. -/
def SameOptions (left right : List (String × String)) : Prop :=
  ∀ name ∈ optionNames, lastValue? left name = lastValue? right name

instance {left right : List (String × String)} : Decidable (SameOptions left right) :=
  inferInstanceAs (Decidable (∀ name ∈ optionNames, _))

theorem option?_eq_lastValue? {name : String} (lower : Text.lowerAscii name = name)
    (query : List (String × String)) : option? query name = lastValue? query name := by
  have same : (fun pair : String × String => decide (Text.lowerAscii pair.1 = name)) =
      fun pair => Text.sameIgnoringCase pair.1 name := by
    funext pair
    rw [Text.sameIgnoringCase, lower]
  rw [option?, lastValue?, same, List.getLast?_eq_head?_reverse, ← List.filter_reverse,
    List.head?_filter]

/-! ## What is read of the options -/

section SameOptions

variable {left right : List (String × String)} (same : SameOptions left right)

include same

theorem option?_congr {name : String} (known : name ∈ optionNames) :
    option? left name = option? right name := by
  have lower : ∀ other ∈ optionNames, Text.lowerAscii other = other := by decide
  rw [option?_eq_lastValue? (lower name known), option?_eq_lastValue? (lower name known),
    same name known]

theorem flag_congr {name : String} (known : name ∈ optionNames) :
    flag left name = flag right name := by
  rw [flag, flag, option?_congr same known]

theorem limitsOf_congr : limitsOf left = limitsOf right := by
  simp (disch := decide) only [limitsOf, option?_congr same]

end SameOptions

theorem ofUrl_congr (id : Option String) {left right : Url}
    (alike : left.withoutQuery = right.withoutQuery)
    (same : SameOptions left.query right.query) : ofUrl id left = ofUrl id right := by
  rcases left with ⟨scheme, username, password, host, port, path, query⟩
  rcases right with ⟨_, _, _, _, _, _, other⟩
  cases alike
  have showAll : flag query "show_all_databases" = flag other "show_all_databases" :=
    flag_congr same (by decide)
  have ssl : flag query "ssl" = flag other "ssl" := flag_congr same (by decide)
  have trust : flag query "trust_cert" = flag other "trust_cert" := flag_congr same (by decide)
  have limits : limitsOf query = limitsOf other := limitsOf_congr same
  simp only [ofUrl, ofParts, limits, showAll, ssl, trust]

/-! ## Connection texts -/

def readUrl (text : String) : Except Url.Problem Url :=
  Url.parse (String.ofList (cutId text.toList).2)

def pairsOf (text : String) : List (String × String) :=
  match readUrl text with
  | .ok url => url.query
  | .error _ => []

/-- Two connection texts that give the same id, or none, and URLs that agree in all but the pairs of
their queries, or that are no URLs for the same reason. -/
structure SameButQuery (left right : String) : Prop where
  id : (cutId left.toList).1 = (cutId right.toList).1
  url : (readUrl left).map Url.withoutQuery = (readUrl right).map Url.withoutQuery

theorem parse_of_sameButQuery {left right : String} (alike : SameButQuery left right)
    (same : SameOptions (pairsOf left) (pairsOf right)) : parse left = parse right := by
  rcases alike with ⟨sameId, sameUrl⟩
  rw [pairsOf, pairsOf] at same
  rw [readUrl, readUrl] at same sameUrl
  rw [parse, parse]
  generalize cutId left.toList = leftParts at sameId sameUrl same ⊢
  generalize cutId right.toList = rightParts at sameId sameUrl same ⊢
  rcases leftParts with ⟨id, leftUrl⟩
  rcases rightParts with ⟨_, rightUrl⟩
  cases sameId
  simp only
  split
  · rfl
  · cases first : Url.parse (String.ofList leftUrl) with
    | error problem =>
      cases second : Url.parse (String.ofList rightUrl) with
      | error other =>
        simp only [first, second] at sameUrl
        cases sameUrl
        rfl
      | ok other => simp [first, second, Except.map] at sameUrl
    | ok url =>
      cases second : Url.parse (String.ofList rightUrl) with
      | error other => simp [first, second, Except.map] at sameUrl
      | ok other =>
        simp only [first, second] at sameUrl same
        exact ofUrl_congr _ (Except.ok.inj sameUrl) same

/-! ## Texts with another query -/

theorem beforeSlashes_append_of_occursIn {front : List Char}
    (slashes : Text.occursIn "://".toList front = true) (rest : List Char) :
    cutId.beforeSlashes (front ++ rest) = cutId.beforeSlashes front := by
  fun_induction cutId.beforeSlashes front with
  | case1 => cases slashes
  | case2 => rfl
  | case3 first more other induction =>
    rcases Text.occursIn_iff.mp slashes with ⟨before, after, split⟩
    cases before with
    | nil =>
      rcases List.cons_eq_cons.mp split with ⟨colon, slashes⟩
      exact absurd slashes (other after colon)
    | cons _ before =>
      rcases List.cons_eq_cons.mp split with ⟨-, within⟩
      have later : Text.occursIn "://".toList more = true :=
        Text.occursIn_iff.mpr ⟨before, after, within⟩
      have long : 3 ≤ more.length := by
        rw [within]
        simp
        omega
      rw [List.cons_append, cutId.beforeSlashes, induction later]
      intro behind colon slashes
      rcases more with _ | ⟨second, _ | ⟨third, others⟩⟩
      · simp at long
      · simp at long
      · simp only [List.cons_append, List.cons.injEq] at slashes
        exact other others colon (by rw [slashes.1, slashes.2.1])

theorem cutId_append_of_occursIn {front : List Char}
    (slashes : Text.occursIn "://".toList front = true) (rest : List Char) :
    cutId (front ++ rest) = ((cutId front).1, (cutId front).2 ++ rest) := by
  have least : (cutId.beforeSlashes front).length ≤ front.length :=
    (isPrefix_beforeSlashes front).length_le
  rw [cutId, cutId, beforeSlashes_append_of_occursIn slashes, List.take_append_of_le_length least,
    List.drop_append_of_le_length least]
  split <;> simp

theorem sameButQuery_append {front : String} (slashes : Text.occurs "://" front = true)
    (left right : String) : SameButQuery (front ++ "?" ++ left) (front ++ "?" ++ right) := by
  have cut (query : String) : cutId (front ++ "?" ++ query).toList =
      ((cutId front.toList).1, Url.marked (cutId front.toList).2 query.toList) := by
    have parts : (front ++ "?" ++ query).toList = front.toList ++ '?' :: query.toList := by simp
    rw [parts, cutId_append_of_occursIn slashes, Url.marked]
  refine ⟨?id, ?url⟩
  case id => rw [cut, cut]
  case url =>
    rw [readUrl, readUrl, cut, cut]
    exact Url.withoutQuery_parse _ left.toList right.toList

/-- Two connection texts that differ in the pairs of the query at most, and give each option the
same last value, are read alike: to the same definition, or they are refused for the same reason.
Texts that agree up to a `?` behind a `://` differ in nothing else. -/
theorem parse_congr :
    (∀ {left right : String}, SameButQuery left right →
      SameOptions (pairsOf left) (pairsOf right) → parse left = parse right) ∧
      ∀ {front : String}, Text.occurs "://" front = true →
        ∀ left right, SameButQuery (front ++ "?" ++ left) (front ++ "?" ++ right) :=
  ⟨parse_of_sameButQuery, sameButQuery_append⟩

/-- A name in other letters, an earlier value, an unknown name and another order. -/
theorem parse_congr_reordered :
    let left := "crm=mysql://h/a?ssl=no&back=1&Max_Connections=7&SSL=True"
    let right := "crm=mysql://h/a?ssl=True&max_connections=7"
    let definition : Definition := {
      id := "crm", engine := .mySql, host := "h", port := none, username := none,
      password := none, database := some "a", showAllDatabases := false, ssl := true,
      trustServerCertificate := false,
      limits := { PoolLimits.standard with maxConnections? := some 7 } }
    Text.occurs "://" "crm=mysql://h/a" = true ∧ SameButQuery left right ∧
      SameOptions (pairsOf left) (pairsOf right) ∧ parse left = .ok definition ∧
      parse right = .ok definition := by
  intro left right definition
  have slashes : Text.occurs "://" "crm=mysql://h/a" = true := by decide
  have alike : SameButQuery left right := parse_congr.2 slashes
    "ssl=no&back=1&Max_Connections=7&SSL=True" "ssl=True&max_connections=7"
  have options : SameOptions (pairsOf left) (pairsOf right) := by decide +kernel
  have read : parse "crm=mysql://h/a?ssl=True&max_connections=7" = .ok definition := rfl
  exact ⟨slashes, alike, options, (parse_congr.1 alike options).trans read, read⟩

end SqlGateway.Definition
