import SqlGateway.Proofs.Sql.Fragment

/-!
# Commas that part a statement

Commas part the actions of a statement where they stand outside of parentheses and outside of
quotes. A scanner counts them. It passes over quoted names, whatever they consist of, and over plain
words without counting anything, so that `commas` of a statement are the commas of the texts that
have been put into it as they were given.
-/

namespace SqlGateway.Sql

/-- The character that ends what a quote begins: a name in the quotes of the engine, or a text in
single or double quotes. -/
def closing? (engine : Engine) (character : Char) : Option Char :=
  if character = openQuote engine then some (closeQuote engine)
  else if character = '\'' ∨ character = '"' then some character
  else none

inductive Place where
  | outside
  | inside (closing : Char)
  /-- Behind a closing quote, which may turn out to be the first of two. -/
  | behind (closing : Char)
deriving DecidableEq, Repr

/-- What a scanner knows: its place, how many parentheses are open, and how many commas it has met
outside of quotes and parentheses. -/
structure Scan where
  place : Place
  depth : Nat
  commas : Nat
deriving DecidableEq, Repr

namespace Scan

def start : Scan := ⟨.outside, 0, 0⟩

/-- The scanner behind a character outside of quotes. A parenthesis that closes nothing does not
count. -/
def outside (scan : Scan) (character : Char) : Scan where
  place := .outside
  depth :=
    if character = '(' then scan.depth + 1
    else if character = ')' then scan.depth - 1
    else scan.depth
  commas := if character = ',' ∧ scan.depth = 0 then scan.commas + 1 else scan.commas

def enter (engine : Engine) (scan : Scan) (character : Char) : Scan :=
  match closing? engine character with
  | some closing => { scan with place := .inside closing }
  | none => scan.outside character

def next (engine : Engine) (scan : Scan) (character : Char) : Scan :=
  match scan.place with
  | .outside => scan.enter engine character
  | .inside closing =>
    if character = closing then { scan with place := .behind closing } else scan
  | .behind closing =>
    if character = closing then { scan with place := .inside closing }
    else scan.enter engine character

def after (engine : Engine) (scan : Scan) (text : List Char) : Scan := text.foldl (next engine) scan

end Scan

def commas (engine : Engine) (text : List Char) : Nat := (Scan.start.after engine text).commas

def openers (engine : Engine) : List Char := [openQuote engine, '\'', '"']

def signs (engine : Engine) : List Char :=
  [openQuote engine, closeQuote engine, '\'', '"', '(', ')', ',']

namespace Scan

variable {engine : Engine} {scan : Scan}

theorem after_append (text more : List Char) :
    scan.after engine (text ++ more) = (scan.after engine text).after engine more :=
  List.foldl_append

theorem after_cons (first : Char) (rest : List Char) :
    scan.after engine (first :: rest) = (scan.next engine first).after engine rest :=
  rfl

theorem next_of_plain {character : Char} (plain : character ∉ signs engine)
    (free : scan.place = .outside ∨ scan.place = .behind (closeQuote engine)) :
    scan.next engine character = { scan with place := .outside } := by
  simp only [signs, List.mem_cons, List.not_mem_nil, or_false, not_or] at plain
  have unquoted : closing? engine character = none := by simp [closing?, plain]
  have entered : scan.enter engine character = { scan with place := .outside } := by
    rw [enter, unquoted]
    simp [outside, plain]
  rcases free with free | free
  · rw [next, free]
    exact entered
  · rw [next, free]
    simp only [plain, ↓reduceIte]
    exact entered

theorem after_quoteChars (isOutside : scan.place = .outside) (name : String) :
    scan.after engine (quoteChars engine name) =
      { scan with place := .behind (closeQuote engine) } := by
  have opens : scan.next engine (openQuote engine) =
      { scan with place := .inside (closeQuote engine) } := by
    simp [next, isOutside, enter, closing?]
  have closes : ({ scan with place := .inside (closeQuote engine) } : Scan).next engine
      (closeQuote engine) = { scan with place := .behind (closeQuote engine) } := by
    simp [next]
  have inside : ({ scan with place := .inside (closeQuote engine) } : Scan).after engine
      (doubled (closeQuote engine) name.toList) =
        { scan with place := .inside (closeQuote engine) } := by
    refine foldl_doubled ?stays closes ?reopens name.toList
    case stays =>
      intro character other
      simp [next, other]
    case reopens => simp [next]
  rw [quoteChars, List.cons_append, after_cons, opens, after_append, inside]
  simp [after, next]

theorem place_after {text : List Char} (isOutside : scan.place = .outside)
    (unquoted : Avoids (openers engine) text) :
    (scan.after engine text).place = .outside := by
  induction text generalizing scan with
  | nil => exact isOutside
  | cons first rest induction =>
    have plain : closing? engine first = none := by
      have here : first ∉ openers engine := fun listed => unquoted first listed List.mem_cons_self
      simp only [openers, List.mem_cons, List.not_mem_nil, or_false, not_or] at here
      simp [closing?, here]
    have stays : (scan.next engine first).place = .outside := by
      simp [next, isOutside, enter, plain, outside]
    rw [after_cons]
    apply induction stays
    intro quote listed found
    exact unquoted quote listed (List.mem_cons_of_mem first found)

end Scan

/-! ## Texts that part nothing -/

/-- A scanner that comes to the text outside of quotes is behind it as it was before it. -/
def Neutral (engine : Engine) (text : List Char) : Prop :=
  ∀ scan : Scan, scan.place = .outside → scan.after engine text = scan

section Neutral

variable {engine : Engine} {text more : List Char}

theorem Neutral.append (left : Neutral engine text) (right : Neutral engine more) :
    Neutral engine (text ++ more) := by
  intro scan isOutside
  rw [Scan.after_append, left scan isOutside, right scan isOutside]

theorem Avoids.neutral (plain : Avoids (signs engine) text) : Neutral engine text := by
  intro scan isOutside
  induction text with
  | nil => rfl
  | cons first rest induction =>
    have here : scan.next engine first = scan := by
      have passed := Scan.next_of_plain (fun sign => plain first sign List.mem_cons_self)
        (.inl isOutside)
      rw [passed, ← isOutside]
    rw [Scan.after_cons, here]
    exact induction fun sign listed found => plain sign listed (List.mem_cons_of_mem first found)

/-- A quoted name, and at least one character that shows that it has ended. -/
theorem neutral_name (name : String) (plain : Avoids (signs engine) text) (some : text ≠ []) :
    Neutral engine (quoteChars engine name ++ text) := by
  intro scan isOutside
  cases text with
  | nil => exact absurd rfl some
  | cons first rest =>
    have ended : ({ scan with place := .behind (closeQuote engine) } : Scan).next engine first =
        { scan with place := .outside } :=
      Scan.next_of_plain (fun sign => plain first sign List.mem_cons_self) (.inr rfl)
    have others : Neutral engine rest :=
      Avoids.neutral fun sign listed found => plain sign listed (List.mem_cons_of_mem first found)
    rw [Scan.after_append, Scan.after_quoteChars isOutside, Scan.after_cons, ended]
    simp only [← isOutside]
    exact others scan isOutside

theorem neutral_table (schema : Option String) (table : String)
    (plain : Avoids (signs engine) text) (some : text ≠ []) :
    Neutral engine (quoteTableChars engine schema table ++ text) := by
  cases schema with
  | none => exact neutral_name table plain some
  | some schema =>
    have dot : Avoids (signs engine) ['.'] := by cases engine <;> decide
    have whole := (neutral_name schema dot nofun).append (neutral_name table plain some)
    rw [quoteTableChars]
    simpa only [List.append_assoc, List.cons_append, List.nil_append] using whole

theorem Neutral.commas_append (neutral : Neutral engine text) (more : List Char) :
    commas engine (text ++ more) = commas engine more := by
  rw [commas, Scan.after_append, neutral Scan.start rfl, commas]

theorem Neutral.commas_between {front : List Char} (neutral : Neutral engine text)
    (unquoted : Avoids (openers engine) front) (more : List Char) :
    commas engine (front ++ (text ++ more)) = commas engine (front ++ more) := by
  have isOutside : (Scan.start.after engine front).place = .outside :=
    Scan.place_after rfl unquoted
  rw [commas, commas, Scan.after_append, Scan.after_append, Scan.after_append,
    neutral _ isOutside]

end Neutral

end SqlGateway.Sql
