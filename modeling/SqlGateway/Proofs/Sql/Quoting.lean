import Mathlib.Logic.Function.Basic
import SqlGateway.Sql.Quoting

/-!
# Quoted names do not run into what follows

Two texts that begin with a quoted name and go on with anything but the closing quote agree only if
they name the same thing and go on in the same way. From this one fact every text that is built of
quoted names gives its names back: `quote_delimits`.
-/

namespace SqlGateway.Sql

variable {engine : Engine}

theorem quoteChars_append_inj {left right : String} {rest other : List Char}
    (ends : rest.head? ≠ some (closeQuote engine))
    (otherEnds : other.head? ≠ some (closeQuote engine))
    (equal : quoteChars engine left ++ rest = quoteChars engine right ++ other) :
    left = right ∧ rest = other := by
  have scanned : some (left.toList, rest) = some (right.toList, other) := by
    rw [← unquote_quoteChars engine left rest ends, equal,
      unquote_quoteChars engine right other otherEnds]
  simp only [Option.some.injEq, Prod.mk.injEq, String.toList_inj] at scanned
  exact scanned

theorem nil_ne_closeQuote : ([] : List Char).head? ≠ some (closeQuote engine) := by simp

theorem cons_ne_closeQuote {first : Char} (plain : first ∉ ['"', '\x60', ']']) (rest : List Char) :
    (first :: rest).head? ≠ some (closeQuote engine) := by
  cases engine <;> simp_all [closeQuote]

theorem blank_ne_closeQuote (rest : List Char) :
    (' ' :: rest).head? ≠ some (closeQuote engine) :=
  cons_ne_closeQuote (by decide) rest

theorem quoteChars_injective : Function.Injective (quoteChars engine) := by
  intro left right equal
  have whole : quoteChars engine left ++ [] = quoteChars engine right ++ [] := by rw [equal]
  exact (quoteChars_append_inj nil_ne_closeQuote nil_ne_closeQuote whole).1

/-- A scanner that leaves the quotes at a closing quote and comes back at a second one is inside
again behind any text whose quotes are doubled. -/
theorem foldl_doubled {σ : Type} {step : σ → Char → σ} {inside outside : σ} {quote : Char}
    (stays : ∀ character, character ≠ quote → step inside character = inside)
    (closes : step inside quote = outside) (reopens : step outside quote = inside)
    (text : List Char) : (doubled quote text).foldl step inside = inside := by
  induction text with
  | nil => rfl
  | cons first rest induction =>
    by_cases same : first = quote
    · rw [same, doubled_cons_self, List.foldl_cons, closes, List.foldl_cons, reopens, induction]
    · rw [doubled_cons_of_ne same, List.foldl_cons, stays first same, induction]

/-! The scanner finds nothing but what has been quoted. -/

theorem eq_of_scanDoubled {quote : Char} {text name rest : List Char}
    (scanned : scanDoubled quote text = some (name, rest)) :
    text = doubled quote name ++ quote :: rest := by
  induction text using scanDoubled.induct quote generalizing name with
  | case1 => cases scanned
  | case2 =>
    simp only [scanDoubled, if_true, Option.some.injEq, Prod.mk.injEq] at scanned
    rcases scanned with ⟨rfl, rfl⟩
    rfl
  | case3 more induction =>
    simp only [scanDoubled, if_true, Option.map_eq_some_iff, Prod.mk.injEq] at scanned
    rcases scanned with ⟨⟨inner, after⟩, found, rfl, rfl⟩
    rw [doubled_cons_self, induction found]
    rfl
  | case4 second more other =>
    simp only [scanDoubled, if_true, if_neg other, Option.some.injEq, Prod.mk.injEq] at scanned
    rcases scanned with ⟨rfl, rfl⟩
    rfl
  | case5 first more other induction =>
    rw [scanDoubled.eq_def] at scanned
    simp only [if_neg other, Option.map_eq_some_iff, Prod.mk.injEq] at scanned
    rcases scanned with ⟨⟨inner, after⟩, found, rfl, rfl⟩
    rw [doubled_cons_of_ne other, induction found]
    rfl

theorem eq_of_unquote {text name rest : List Char}
    (scanned : unquote engine text = some (name, rest)) :
    text = quoteChars engine (String.ofList name) ++ rest := by
  cases text with
  | nil => cases scanned
  | cons first more =>
    rw [unquote] at scanned
    split at scanned
    · next opens =>
      rw [opens, eq_of_scanDoubled scanned]
      simp [quoteChars]
    · cases scanned

theorem quoteChars_ne_nil (name : String) : quoteChars engine name ≠ [] := nofun

/-! ## Tables -/

theorem quoteTableChars_injective2 : Function.Injective2 (quoteTableChars engine) := by
  intro leftSchema rightSchema left right equal
  cases leftSchema with
  | none =>
    cases rightSchema with
    | none => exact ⟨rfl, quoteChars_injective equal⟩
    | some schema =>
      -- Behind the first name nothing follows on the one side, and a dot on the other.
      have whole : quoteChars engine left ++ [] = quoteTableChars engine (some schema) right := by
        rw [List.append_nil]
        exact equal
      cases (quoteChars_append_inj nil_ne_closeQuote (cons_ne_closeQuote (by decide) _) whole).2
  | some schema =>
    cases rightSchema with
    | none =>
      have whole : quoteTableChars engine (some schema) left = quoteChars engine right ++ [] := by
        rw [List.append_nil]
        exact equal
      cases (quoteChars_append_inj (cons_ne_closeQuote (by decide) _) nil_ne_closeQuote whole).2
    | some other =>
      have parts := quoteChars_append_inj (cons_ne_closeQuote (by decide) _)
        (cons_ne_closeQuote (by decide) _) equal
      have tables := quoteChars_injective (List.cons.inj parts.2).2
      exact ⟨congrArg some parts.1, tables⟩

/-! ## Lists of names -/

def listRest (engine : Engine) : List String → List Char
  | [] => []
  | name :: names => ',' :: ' ' :: quoteListChars engine (name :: names)

theorem quoteListChars_cons (name : String) (names : List String) :
    quoteListChars engine (name :: names) = quoteChars engine name ++ listRest engine names := by
  cases names with
  | nil => simp [quoteListChars, commaSeparated, listRest]
  | cons next more => rfl

theorem listRest_ne_closeQuote (names : List String) :
    (listRest engine names).head? ≠ some (closeQuote engine) := by
  cases names with
  | nil => exact nil_ne_closeQuote
  | cons name names => exact cons_ne_closeQuote (by decide) _

theorem quoteListChars_injective : Function.Injective (quoteListChars engine) := by
  intro left
  induction left with
  | nil =>
    intro right equal
    cases right with
    | nil => rfl
    | cons name names =>
      rw [quoteListChars_cons] at equal
      exact absurd (List.append_eq_nil_iff.mp equal.symm).1 (quoteChars_ne_nil name)
  | cons first rest induction =>
    intro right equal
    cases right with
    | nil =>
      rw [quoteListChars_cons] at equal
      exact absurd (List.append_eq_nil_iff.mp equal).1 (quoteChars_ne_nil first)
    | cons name names =>
      rw [quoteListChars_cons, quoteListChars_cons] at equal
      have parts := quoteChars_append_inj (listRest_ne_closeQuote rest)
        (listRest_ne_closeQuote names) equal
      have rests : rest = names := by
        cases rest with
        | nil =>
          cases names with
          | nil => rfl
          | cons => cases parts.2
        | cons =>
          cases names with
          | nil => cases parts.2
          | cons => exact induction (List.cons.inj (List.cons.inj parts.2).2).2
      rw [parts.1, rests]

/-! ## Everything together -/

/-- A quoted name is read back whatever it consists of, and whatever follows it but the closing
quote. So a name, a table with or without its schema, a list of any length, and the statements that
create and drop a database differ whenever what they name differs. -/
theorem quote_delimits (engine : Engine) :
    (∀ (name : String) (rest : List Char), rest.head? ≠ some (closeQuote engine) →
      unquote engine ((quote engine name).toList ++ rest) = some (name.toList, rest)) ∧
    Function.Injective (quote engine) ∧
    Function.Injective2 (quoteTable engine) ∧
    Function.Injective (quoteListChars engine) ∧
    Function.Injective (createDatabase engine) ∧
    Function.Injective (dropDatabase engine) := by
  refine ⟨?reads, ?names, ?tables, quoteListChars_injective, ?creates, ?drops⟩
  case reads =>
    intro name rest ends
    rw [quote, String.toList_ofList]
    exact unquote_quoteChars engine name rest ends
  case names =>
    intro left right equal
    exact quoteChars_injective (String.ofList_injective equal)
  case tables =>
    intro leftSchema rightSchema left right equal
    exact quoteTableChars_injective2 (String.ofList_injective equal)
  case creates =>
    intro left right equal
    exact quoteChars_injective (List.append_cancel_left (String.ofList_injective equal))
  case drops =>
    intro left right equal
    exact quoteChars_injective (List.append_cancel_left (String.ofList_injective equal))

theorem quote_delimits_dotted :
    " TO".toList.head? ≠ some (closeQuote .postgres) ∧
      unquote .postgres ((quote .postgres "a\".\"b\"").toList ++ " TO".toList) =
        some ("a\".\"b\"".toList, " TO".toList) :=
  have ends : " TO".toList.head? ≠ some (closeQuote .postgres) := by decide
  ⟨ends, (quote_delimits .postgres).1 _ _ ends⟩

example : quote .postgres "a\".\"b" ≠ quoteTable .postgres (some "a") "b" := by decide

end SqlGateway.Sql
