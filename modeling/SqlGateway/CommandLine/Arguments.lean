import SqlGateway.Text.Digit
import SqlGateway.Text.Split

/-!
# Arguments of a command

A `Grammar` says which options, which positional arguments and which subcommands a command has.
`Grammar.read` sorts the words of a command line accordingly, from left to right. An option whose
value stands in a word of its own is settled when the next argument begins, so a fault of its value
shows only then; faults of a subcommand come before those of the last option in front of it.
-/

namespace SqlGateway.CommandLine

/-- Why a command line is refused, or what it asks for instead of a command. -/
inductive UsageProblem where
  | nothingGiven
  | noSubcommand
  | unknownSubcommand
  | unknownArgument
  | missingArgument
  | missingValue
  | unknownChoice
  | invalidValue
  | unneededValue
  | repeated
  | help
  | version
deriving DecidableEq, Repr

inductive ValueKind where
  | text
  /-- A whole number below 2 ^ 64. -/
  | count
  | choice (words : List String)
deriving DecidableEq, Repr

inductive OptionKind where
  | flag
  /-- One value, given once. -/
  | single (kind : ValueKind)
  /-- Texts, given any number of times; each is split at a character. -/
  | several (separator : Char)
  | help
  | version
deriving DecidableEq, Repr

structure OptionRule where
  name : String
  letter : Option Char
  kind : OptionKind
deriving DecidableEq, Repr

structure Grammar where
  options : List OptionRule
  /-- How many positional arguments there must be. -/
  required : Nat
  /-- How many there may be. -/
  allowed : Nat
deriving Repr

structure Program where
  options : List OptionRule
  subcommands : List (String × Grammar)

/-- What was found: the values of options, by name and in order, and the positional arguments. -/
structure Found where
  values : List (String × List String)
  positionals : List String
deriving DecidableEq, Repr

namespace Found

def empty : Found := ⟨[], []⟩

def valuesOf (found : Found) (name : String) : List String :=
  (found.values.filter fun value => value.1 = name).flatMap Prod.snd

def value? (found : Found) (name : String) : Option String := (found.valuesOf name).head?

def has (found : Found) (name : String) : Bool :=
  found.values.any fun value => value.1 = name

end Found

/-! ## Values -/

def count? (text : String) : Option UInt64 :=
  (Text.natBelow? UInt64.size text).map Nat.toUInt64

def ValueKind.check (kind : ValueKind) (value : String) : Except UsageProblem Unit :=
  match kind with
  | .text => .ok ()
  | .count => if (count? value).isSome then .ok () else .error .invalidValue
  | .choice words => if value ∈ words then .ok () else .error .unknownChoice

def OptionKind.takesValue : OptionKind → Bool
  | .single _ | .several _ => true
  | .flag | .help | .version => false

/-! ## Reading -/

structure State where
  found : Found
  /-- The option that was met last, with its value if that came in a word of its own. -/
  pending : Option (OptionRule × List String)
  /-- Only positional arguments follow. -/
  trailing : Bool
deriving Repr

namespace State

def start : State := ⟨.empty, none, false⟩

def record (state : State) (rule : OptionRule) (values : List String) :
    Except UsageProblem State :=
  let add (values : List String) : State :=
    { state with found := { state.found with
        values := state.found.values ++ [(rule.name, values)] } }
  match rule.kind with
  | .help => .error .help
  | .version => .error .version
  | .flag => if state.found.has rule.name then .error .repeated else .ok (add [])
  | .single kind =>
    match values with
    | [] => .error .missingValue
    | value :: _ =>
      if state.found.has rule.name then .error .repeated
      else (kind.check value).map fun _ => add [value]
  | .several separator =>
    if values = [] then .error .missingValue
    else
      .ok (add (values.flatMap fun value =>
        (Text.pieces separator value.toList).map String.ofList))

/-- Records the option that was met last, if that is still to be done. -/
def settle (state : State) : Except UsageProblem State :=
  match state.pending with
  | none => .ok state
  | some (rule, values) => { state with pending := none }.record rule values

def awaitsValue (state : State) : Bool :=
  match state.pending with
  | some (_, []) => true
  | _ => false

def meet (state : State) (rule : OptionRule) (attached : Option String) :
    Except UsageProblem State := do
  let state ← state.settle
  match attached with
  | some value =>
    if rule.kind.takesValue then state.record rule [value] else .error .unneededValue
  | none =>
    if rule.kind.takesValue then return { state with pending := some (rule, []) }
    else state.record rule []

def readLong (options : List OptionRule) (state : State) (word : List Char) :
    Except UsageProblem State :=
  let (name, attached) :=
    match Text.cut '=' word with
    | some (name, value) => (String.ofList name, some (String.ofList value))
    | none => (String.ofList word, none)
  match options.find? fun rule => rule.name = name with
  | none => .error .unknownArgument
  | some rule =>
    if attached.isSome && !rule.kind.takesValue then .error .unneededValue
    else state.meet rule attached

/-- A word that begins with one hyphen, without it: letters of options, the last of which may have
its value attached. -/
def readShort (options : List OptionRule) (state : State) :
    List Char → Except UsageProblem State
  | [] => .ok state
  | letter :: rest =>
    match options.find? fun rule => rule.letter = some letter with
    | none => .error .unknownArgument
    | some rule =>
      if rule.kind.takesValue then
        match rest with
        | [] => state.meet rule none
        | '=' :: value => state.meet rule (some (String.ofList value))
        | value => state.meet rule (some (String.ofList value))
      else do readShort options (← state.meet rule none) rest

def giveValue (state : State) (word : String) : State :=
  { state with pending := state.pending.map fun pending => (pending.1, [word]) }

/-- A word that is no option; `other` says what becomes of it. -/
def readWord (options : List OptionRule) (state : State) (word : String)
    (other : State → Except UsageProblem State) : Except UsageProblem State :=
  if state.trailing then other state
  else
    match word.toList with
    | ['-', '-'] => .ok { state with trailing := true }
    | '-' :: '-' :: name => state.readLong options name
    | '-' :: letter :: letters => state.readShort options (letter :: letters)
    | _ => if state.awaitsValue then .ok (state.giveValue word) else other state

end State

namespace Grammar

def readWord (grammar : Grammar) (state : State) (word : String) : Except UsageProblem State :=
  state.readWord grammar.options word fun state =>
    if state.found.positionals.length < grammar.allowed then do
      let state ← state.settle
      return { state with found := { state.found with
        positionals := state.found.positionals ++ [word] } }
    else .error .unknownArgument

def read (grammar : Grammar) (words : List String) : Except UsageProblem Found := do
  let state ← words.foldlM grammar.readWord State.start
  let state ← state.settle
  if state.found.positionals.length < grammar.required then .error .missingArgument
  else return state.found

end Grammar

namespace Program

def readHelp (program : Program) : List String → UsageProblem
  | [] => .help
  | [word] =>
    if word = "help" ∨ word ∈ program.subcommands.map Prod.fst then .help
    else .unknownSubcommand
  | _ :: _ :: _ => .unknownSubcommand

/-- Reads the words up to the subcommand and the subcommand itself: what the common options hold,
the name of the subcommand, and what its own words hold. -/
def readFrom (program : Program) (state : State) :
    List String → Except UsageProblem (Found × String × Found)
  | [] => do
    let state ← state.settle
    .error (if state.found.values = [] then .nothingGiven else .noSubcommand)
  | word :: rest =>
    match program.subcommands.find? fun subcommand => subcommand.1 = word with
    | some (name, grammar) =>
      if state.trailing then .error .unknownArgument
      else if state.awaitsValue then program.readFrom (state.giveValue word) rest
      else do
        let inner ← grammar.read rest
        let state ← state.settle
        return (state.found, name, inner)
    | none =>
      if word = "help" && state.trailing then .error .unknownArgument
      else if word = "help" && !state.awaitsValue then .error (program.readHelp rest)
      else do
        let state ← state.readWord program.options word fun _ => .error .unknownSubcommand
        program.readFrom state rest

def read (program : Program) (words : List String) :
    Except UsageProblem (Found × String × Found) :=
  program.readFrom .start words

end Program

end SqlGateway.CommandLine
