import Mathlib.Data.List.Infix
import SqlGateway.Proofs.Sql.Quoting
import SqlGateway.Sql.Fragment

/-!
# Statements in which quotes hold

A scanner goes through a statement and knows at each character whether it is inside a quoted name or
a string literal. A `Sentence` is a text of plain words and of given quoted parts, and it may end in
a text that nobody trusts to keep its quotes in order but that is inert. No sentence holds a
statement separator or a comment mark, except that two dashes may stand inside one of the quoted
parts, where a scanner does not take them for a comment: `Sentence.separators_absent` and
`Sentence.dashesWithin`.
-/

namespace SqlGateway.Sql

/-! ## Scanning -/

inductive Region where
  | bare
  | name
  /-- Behind a closing quote, which may turn out to be the first of two. -/
  | nameEnd
  | literal
  | literalEnd
deriving DecidableEq

namespace Region

variable (engine : Engine)

def enter (character : Char) : Region :=
  if character = openQuote engine then .name
  else if character = '\'' then .literal
  else .bare

def next (region : Region) (character : Char) : Region :=
  match region with
  | .bare => enter engine character
  | .name => if character = closeQuote engine then .nameEnd else .name
  | .nameEnd => if character = closeQuote engine then .name else enter engine character
  | .literal => if character = '\'' then .literalEnd else .literal
  | .literalEnd => if character = '\'' then .literal else enter engine character

def after (start : Region) (text : List Char) : Region := text.foldl (next engine) start

def isInside : Region → Bool
  | .name | .literal => true
  | .bare | .nameEnd | .literalEnd => false

variable {engine}

theorem after_append (start : Region) (text more : List Char) :
    after engine start (text ++ more) = after engine (after engine start text) more :=
  List.foldl_append

theorem after_cons (start : Region) (character : Char) (text : List Char) :
    after engine start (character :: text) = after engine (next engine start character) text :=
  rfl

theorem after_quoteChars (name : String) :
    after engine .bare (quoteChars engine name) = .nameEnd := by
  have opens : next engine .bare (openQuote engine) = .name := if_pos rfl
  have stays (character : Char) (other : character ≠ closeQuote engine) :
      next engine .name character = .name := if_neg other
  have closes : next engine .name (closeQuote engine) = .nameEnd := if_pos rfl
  have reopens : next engine .nameEnd (closeQuote engine) = .name := if_pos rfl
  have inside : after engine .name (doubled (closeQuote engine) name.toList) = .name :=
    foldl_doubled stays closes reopens _
  rw [quoteChars, List.cons_append, after_cons, opens, after_append, inside]
  exact closes

theorem after_stringLiteral (text : List Char) :
    after engine .bare (stringLiteral text) = .literalEnd := by
  have opens : next engine (next engine .bare 'N') '\'' = .literal := by cases engine <;> rfl
  have stays (character : Char) (other : character ≠ '\'') :
      next engine .literal character = .literal := if_neg other
  have closes : next engine .literal '\'' = .literalEnd := rfl
  have reopens : next engine .literalEnd '\'' = .literal := rfl
  have inside : after engine .literal (doubled '\'' text) = .literal :=
    foldl_doubled stays closes reopens _
  rw [stringLiteral, List.cons_append, List.cons_append, after_cons, after_cons, opens,
    after_append, inside]
  exact closes

end Region

/-! ## Texts into which nothing can be read -/

/-- Neither a statement separator nor a comment mark occurs. -/
def Inert (text : List Char) : Prop :=
  ∀ sequence ∈ defaultSequences, ¬sequence.toList <:+: text

def marks : List Char := [';', '-', '/', '*']

def quotes (engine : Engine) : List Char := [openQuote engine, closeQuote engine, '\'']

def Avoids (characters text : List Char) : Prop := ∀ character ∈ characters, character ∉ text

instance (characters text : List Char) : Decidable (Avoids characters text) :=
  List.decidableBAll (fun character => character ∉ text) characters

section Texts

variable {engine : Engine} {text more : List Char}

theorem Avoids.append {characters : List Char} (left : Avoids characters text)
    (right : Avoids characters more) : Avoids characters (text ++ more) := by
  intro character member found
  rcases List.mem_append.mp found with found | found
  · exact left character member found
  · exact right character member found

theorem Avoids.left {characters others : List Char} (avoids : Avoids (characters ++ others) text) :
    Avoids characters text :=
  fun character member => avoids character (List.mem_append_left others member)

theorem infix_of_not_mem {first : Char} {rest : List Char} (absent : first ∉ text)
    (found : first :: rest <:+: text ++ more) : first :: rest <:+: more := by
  induction text with
  | nil => exact found
  | cons head tail induction =>
    simp only [List.mem_cons, not_or] at absent
    rw [List.cons_append, List.infix_cons_iff] at found
    rcases found with begins | later
    · exact absurd (List.cons_prefix_cons.mp begins).1 absent.1
    · exact induction absent.2 later

theorem split_of_not_mem {first : Char} {before behind : List Char} (absent : first ∉ text)
    (equal : text ++ more = before ++ first :: behind) :
    ∃ between, before = text ++ between ∧ more = between ++ first :: behind := by
  rcases List.append_eq_append_iff.mp equal with ⟨between, whole, rest⟩ | ⟨cut, whole, rest⟩
  · exact ⟨between, whole, rest⟩
  · cases cut with
    | nil => exact ⟨[], by simpa using whole.symm, rest.symm⟩
    | cons head tail =>
      rw [whole, (List.cons.inj rest).1] at absent
      simp at absent

theorem exists_mark_of_mem {sequence : String} (listed : sequence ∈ defaultSequences) :
    ∃ mark rest, sequence.toList = mark :: rest ∧ mark ∈ marks ∧
      (mark = '-' → sequence = "--") := by
  simp only [defaultSequences, List.mem_cons, List.not_mem_nil, or_false] at listed
  rcases listed with rfl | rfl | rfl | rfl <;>
    exact ⟨_, _, rfl, by decide, by decide⟩

theorem Inert.prepend (inert : Inert more) (safe : Avoids marks text) : Inert (text ++ more) := by
  intro sequence listed found
  rcases exists_mark_of_mem listed with ⟨mark, rest, equal, isMark, -⟩
  rw [equal] at found
  exact inert sequence listed (equal ▸ infix_of_not_mem (safe mark isMark) found)

theorem inert_nil : Inert [] := by
  intro sequence listed found
  rcases exists_mark_of_mem listed with ⟨mark, rest, equal, -⟩
  rw [List.infix_nil.mp found] at equal
  cases equal

theorem Avoids.inert (safe : Avoids marks text) : Inert text := by
  rw [← List.append_nil text]
  exact inert_nil.prepend safe

theorem Region.after_eq_bare (plain : Avoids (marks ++ quotes engine) text) (some : text ≠ [])
    {start : Region} (outside : start.isInside = false) : after engine start text = .bare := by
  have next_eq {region : Region} {character : Char} (free : region.isInside = false)
      (absent : character ∉ quotes engine) : next engine region character = .bare := by
    simp only [quotes, List.mem_cons, List.not_mem_nil, or_false, not_or] at absent
    have entered : enter engine character = .bare := by simp [enter, absent]
    cases region with
    | bare => exact entered
    | name => cases free
    | nameEnd => simp [next, absent, entered]
    | literal => cases free
    | literalEnd => simp [next, absent, entered]
  induction text generalizing start with
  | nil => exact absurd rfl some
  | cons first rest induction =>
    have here : next engine start first = .bare := by
      apply next_eq outside
      intro quote
      exact plain first (List.mem_append_right marks quote) List.mem_cons_self
    rw [after_cons, here]
    cases rest with
    | nil => rfl
    | cons second more =>
      apply induction _ nofun rfl
      intro character member found
      exact plain character member (List.mem_cons_of_mem first found)

end Texts

/-! ## Sentences -/

/-- A part that may stand in a sentence: a scanner that comes to it outside of quotes leaves it
outside of quotes, and dashes are all that a separator or a mark could begin with in it. -/
structure Enclosed (engine : Engine) (part : List Char) : Prop where
  closed : (Region.after engine .bare part).isInside = false
  dashes : ∀ mark ∈ marks, mark ∈ part → mark = '-'
  last : part.getLast? ≠ some '-'

/-- Two dashes between two texts stand inside one of the quoted parts, and a scanner that begins at
`start` comes to this part outside of quotes. -/
def DashesWithin (engine : Engine) (start : Region) (parts : List (List Char))
    (before behind : List Char) : Prop :=
  ∃ left first second right, first ++ '-' :: '-' :: second ∈ parts ∧
    before = left ++ first ∧ behind = second ++ right ∧ Region.after engine start left = .bare

inductive Sentence (engine : Engine) (parts : List (List Char)) : List Char → Prop where
  | last {text : List Char} (inert : Inert text) : Sentence engine parts text
  | quoted {text part rest : List Char} (plain : Avoids (marks ++ quotes engine) text)
      (some : text ≠ []) (member : part ∈ parts) (follows : Sentence engine parts rest) :
      Sentence engine parts (text ++ (part ++ rest))

namespace Sentence

variable {engine : Engine} {parts : List (List Char)} {text : List Char}
  (enclosed : ∀ part ∈ parts, Enclosed engine part)

include enclosed

theorem separators_absent (sentence : Sentence engine parts text) {sequence : String}
    (listed : sequence ∈ defaultSequences) (undashed : sequence ≠ "--") :
    ¬sequence.toList <:+: text := by
  induction sentence with
  | last inert => exact inert sequence listed
  | @quoted text part rest plain some member follows induction =>
    intro found
    rcases exists_mark_of_mem listed with ⟨mark, more, equal, isMark, dashed⟩
    have quotedAbsent : mark ∉ part := by
      intro present
      exact undashed (dashed ((enclosed part member).dashes mark isMark present))
    rw [equal] at found induction
    exact induction
      (infix_of_not_mem quotedAbsent (infix_of_not_mem (plain.left mark isMark) found))

theorem dashesWithin {start : Region} (outside : start.isInside = false)
    (sentence : Sentence engine parts text) {before behind : List Char}
    (dashes : text = before ++ '-' :: '-' :: behind) :
    DashesWithin engine start parts before behind := by
  induction sentence generalizing start before with
  | last inert =>
    have found : "--".toList <:+: before ++ '-' :: '-' :: behind :=
      ⟨before, behind, by simp⟩
    rw [← dashes] at found
    exact absurd found (inert "--" (by decide))
  | @quoted text part rest plain some member follows induction =>
    have absent : '-' ∉ text := plain.left '-' (by decide)
    have bare := Region.after_eq_bare plain some outside
    rcases split_of_not_mem absent dashes with ⟨between, rfl, inner⟩
    -- Where the first dash is: in the quoted part, or behind it.
    have places : (∃ later, between = part ++ later ∧ rest = later ++ '-' :: '-' :: behind) ∨
        ∃ cut more, part = between ++ cut :: more ∧ '-' :: '-' :: behind = cut :: more ++ rest := by
      rcases List.append_eq_append_iff.mp inner with ⟨later, equal, ends⟩ | ⟨cut, equal, ends⟩
      · exact .inl ⟨later, equal, ends⟩
      · cases cut with
        | nil => exact .inl ⟨[], by simpa using equal.symm, ends.symm⟩
        | cons cut more => exact .inr ⟨cut, more, equal, ends⟩
    rcases places with ⟨later, rfl, ends⟩ | ⟨cut, more, equal, ends⟩
    · have leaves : (Region.after engine start (text ++ part)).isInside = false := by
        rw [Region.after_append, bare]
        exact (enclosed part member).closed
      rcases induction leaves ends with ⟨left, first, second, right, isPart, rfl, rfl, reached⟩
      rw [← Region.after_append, List.append_assoc] at reached
      exact ⟨text ++ (part ++ left), first, second, right, isPart, by simp, rfl, reached⟩
    · cases more with
      | nil =>
        rw [List.singleton_append, List.cons.injEq] at ends
        have last := (enclosed part member).last
        rw [equal, ← ends.1] at last
        simp at last
      | cons next second =>
        simp only [List.cons_append, List.cons.injEq] at ends
        rcases ends with ⟨rfl, rfl, rfl⟩
        rw [equal] at member
        exact ⟨text, between, second, rest, member, rfl, rfl, bare⟩

omit enclosed

/-! Sentences are built from their ends. -/

variable {rest : List Char}

theorem prepend (plain : Avoids (marks ++ quotes engine) text)
    (follows : Sentence engine parts rest) : Sentence engine parts (text ++ rest) := by
  cases follows with
  | last inert => exact .last (inert.prepend plain.left)
  | @quoted more part rest plainToo some member follows =>
    rw [← List.append_assoc]
    exact .quoted (plain.append plainToo) (by simp [some]) member follows

theorem table {schema : Option String} {table : String}
    (plain : Avoids (marks ++ quotes engine) text) (some : text ≠ [])
    (schemaMember : ∀ name ∈ schema, quoteChars engine name ∈ parts)
    (tableMember : quoteChars engine table ∈ parts) (follows : Sentence engine parts rest) :
    Sentence engine parts (text ++ (quoteTableChars engine schema table ++ rest)) := by
  cases schema with
  | none => exact .quoted plain some tableMember follows
  | some schema =>
    have dot : Avoids (marks ++ quotes engine) ['.'] := by cases engine <;> decide
    have behind : Sentence engine parts (['.'] ++ (quoteChars engine table ++ rest)) :=
      .quoted dot nofun tableMember follows
    rw [quoteTableChars, List.append_assoc]
    exact .quoted plain some (schemaMember schema rfl) behind

theorem list {names : List String} (plain : Avoids (marks ++ quotes engine) text)
    (some : text ≠ []) (members : ∀ name ∈ names, quoteChars engine name ∈ parts)
    (follows : Sentence engine parts rest) :
    Sentence engine parts (text ++ (quoteListChars engine names ++ rest)) := by
  induction names generalizing text with
  | nil => exact follows.prepend plain
  | cons name names induction =>
    have behind : Sentence engine parts (listRest engine names ++ rest) := by
      cases names with
      | nil => exact follows
      | cons next more =>
        have comma : Avoids (marks ++ quotes engine) [',', ' '] := by cases engine <;> decide
        apply induction comma nofun
        intro name member
        exact members name (List.mem_cons_of_mem _ member)
    rw [quoteListChars_cons, List.append_assoc]
    exact .quoted plain some (members name List.mem_cons_self) behind

end Sentence

end SqlGateway.Sql
