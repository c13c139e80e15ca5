import Mathlib.Data.List.TakeWhile
import SqlGateway.Proofs.Sql.Sentence
import SqlGateway.Proofs.Text.Classes

/-!
# What the checks let into a statement

An accepted name consists of name characters, an accepted data type of type characters and blanks,
and an accepted default expression is inert. So the quoted name is a part that may stand in a
sentence, whatever the engine, and the data type is safe.
-/

namespace SqlGateway.Sql

/-! ## Doubled characters -/

theorem mem_doubled {quote character : Char} {text : List Char} :
    character ∈ doubled quote text ↔ character ∈ text := by
  induction text with
  | nil => rfl
  | cons first rest induction =>
    by_cases same : first = quote
    · rw [same, doubled_cons_self]
      simp [induction]
    · rw [doubled_cons_of_ne same]
      simp [induction]

theorem doubled_of_not_mem {quote : Char} {text : List Char} (absent : quote ∉ text) :
    doubled quote text = text := by
  induction text with
  | nil => rfl
  | cons first rest induction =>
    simp only [List.mem_cons, not_or] at absent
    rw [doubled_cons_of_ne (fun same => absent.1 same.symm), induction absent.2]

/-! ## Names -/

section Names

variable {name : String} (accepted : checkName name = .ok ())

include accepted

theorem isNameChar_of_checkName {character : Char} (member : character ∈ name.toList) :
    isNameChar character = true :=
  ((checkName_eq_ok_iff name).mp accepted).2.2 character member

theorem not_mem_of_checkName {character : Char} (refused : isNameChar character = false) :
    character ∉ name.toList :=
  Text.not_mem_of_refused (fun _ => isNameChar_of_checkName accepted) refused

theorem toList_ne_nil_of_checkName : name.toList ≠ [] := by
  intro empty
  exact ((checkName_eq_ok_iff name).mp accepted).1 (String.toList_eq_nil_iff.mp empty)

theorem quoteChars_of_checkName (engine : Engine) :
    quoteChars engine name = openQuote engine :: name.toList ++ [closeQuote engine] := by
  have refused : isNameChar (closeQuote engine) = false := by cases engine <;> decide
  rw [quoteChars, doubled_of_not_mem (not_mem_of_checkName accepted refused)]

end Names

theorem eq_dash_of_isNameChar {mark : Char} (isMark : mark ∈ marks)
    (named : isNameChar mark = true) : mark = '-' := by
  simp only [marks, List.mem_cons, List.not_mem_nil, or_false] at isMark
  rcases isMark with rfl | rfl | rfl | rfl
  · exact absurd named (by decide)
  · rfl
  · exact absurd named (by decide)
  · exact absurd named (by decide)

theorem quote_not_mem_marks (engine : Engine) :
    openQuote engine ∉ marks ∧ closeQuote engine ∉ marks := by
  cases engine <;> decide

theorem eq_dash_of_mem_quoteChars {engine : Engine} {name : String}
    (accepted : checkName name = .ok ()) {mark : Char} (isMark : mark ∈ marks)
    (present : mark ∈ quoteChars engine name) : mark = '-' := by
  rw [quoteChars, List.cons_append, List.mem_cons, List.mem_append, mem_doubled,
    List.mem_singleton] at present
  rcases present with rfl | present | rfl
  · exact absurd isMark (quote_not_mem_marks engine).1
  · exact eq_dash_of_isNameChar isMark (isNameChar_of_checkName accepted present)
  · exact absurd isMark (quote_not_mem_marks engine).2

theorem enclosed_quoteChars {engine : Engine} {name : String} (accepted : checkName name = .ok ()) :
    Enclosed engine (quoteChars engine name) where
  closed := by rw [Region.after_quoteChars]; rfl
  dashes _ isMark present := eq_dash_of_mem_quoteChars accepted isMark present
  last := by
    rw [quoteChars, List.getLast?_concat]
    cases engine <;> simp [closeQuote]

theorem enclosed_stringLiteral {engine : Engine} {text : List Char}
    (dashes : ∀ mark ∈ marks, mark ∈ text → mark = '-') :
    Enclosed engine (stringLiteral text) where
  closed := by rw [Region.after_stringLiteral]; rfl
  dashes := by
    intro mark isMark present
    rw [stringLiteral, List.cons_append, List.cons_append, List.mem_cons, List.mem_cons,
      List.mem_append, mem_doubled, List.mem_singleton] at present
    rcases present with rfl | rfl | present | rfl
    · exact absurd isMark (by decide)
    · exact absurd isMark (by decide)
    · exact dashes mark isMark present
    · exact absurd isMark (by decide)
  last := by
    rw [show stringLiteral text = ('N' :: '\'' :: doubled '\'' text) ++ ['\''] from rfl,
      List.getLast?_concat]
    simp

/-! ## Data types -/

theorem mem_dropWhile_or {α : Type} (dropped : α → Bool) {item : α} {items : List α}
    (member : item ∈ items) : item ∈ items.dropWhile dropped ∨ dropped item = true := by
  rw [← List.takeWhile_append_dropWhile (p := dropped) (l := items)] at member
  rcases List.mem_append.mp member with member | member
  · exact .inr (List.mem_takeWhile_imp member)
  · exact .inl member

theorem mem_trimChars_or {character : Char} {text : List Char} (member : character ∈ text) :
    character ∈ Text.trimChars text ∨ Text.isBlank character = true := by
  rcases mem_dropWhile_or Text.isBlank member with member | blank
  · have member := List.mem_reverse.mpr member
    rcases mem_dropWhile_or Text.isBlank member with member | blank
    · exact .inl (List.mem_reverse.mpr member)
    · exact .inr blank
  · exact .inr blank

theorem isTypeChar_or_isBlank_of_checkType {dataType : String}
    (accepted : checkType dataType = .ok ()) {character : Char}
    (member : character ∈ dataType.toList) :
    isTypeChar character = true ∨ Text.isBlank character = true := by
  rcases mem_trimChars_or member with member | blank
  · left
    rw [checkType] at accepted
    split at accepted
    · cases accepted
    · next first rest trimmed =>
      rw [trimmed] at member
      split at accepted
      · cases accepted
      · next none =>
        simpa using List.find?_eq_none.mp none character member
  · exact .inr blank

theorem not_mem_of_checkType {dataType : String} (accepted : checkType dataType = .ok ())
    {character : Char} (refused : isTypeChar character = false)
    (visible : Text.isBlank character = false) : character ∉ dataType.toList := by
  intro member
  rcases isTypeChar_or_isBlank_of_checkType accepted member with listed | blank
  · rw [listed] at refused
    cases refused
  · rw [blank] at visible
    cases visible

theorem avoids_marks_of_checkType {dataType : String} (accepted : checkType dataType = .ok ()) :
    Avoids marks dataType.toList := by
  intro mark isMark
  have refused : marks.all fun mark => !isTypeChar mark && !Text.isBlank mark := by decide
  have outside := List.all_eq_true.mp refused mark isMark
  simp only [Bool.and_eq_true, Bool.not_eq_true'] at outside
  exact not_mem_of_checkType accepted outside.1 outside.2

/-- Outside of SQL Server, whose quotes are brackets, a data type holds no quotes either. -/
theorem avoids_quotes_of_checkType {engine : Engine} (bracketless : engine ≠ .sqlServer)
    {dataType : String} (accepted : checkType dataType = .ok ()) :
    Avoids (marks ++ quotes engine) dataType.toList := by
  intro character member
  have refused : (marks ++ quotes engine).all fun quote =>
      !isTypeChar quote && !Text.isBlank quote := by
    cases engine with
    | postgres => decide
    | mySql => decide
    | sqlServer => exact absurd rfl bracketless
  have outside := List.all_eq_true.mp refused character member
  simp only [Bool.and_eq_true, Bool.not_eq_true'] at outside
  exact not_mem_of_checkType accepted outside.1 outside.2

/-! ## Default expressions -/

theorem inert_of_checkDefault {expression : String} (accepted : checkDefault expression = .ok ()) :
    Inert expression.toList := by
  rw [checkDefault] at accepted
  split at accepted
  · cases accepted
  · split at accepted
    · cases accepted
    · next none =>
      intro sequence listed found
      have absent := List.find?_eq_none.mp none sequence listed
      rcases found with ⟨before, behind, equal⟩
      exact absent (Text.occursIn_iff.mpr ⟨before, behind, equal.symm⟩)

end SqlGateway.Sql
