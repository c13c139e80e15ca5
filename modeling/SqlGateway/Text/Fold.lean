/-!
# Letters without regard to case

Keywords compare without regard to the case of ASCII letters. A text from a server is searched in
lower case, where one letter outside ASCII counts too: the Kelvin sign is a `k`.
-/

namespace SqlGateway.Text

def lowerAscii (text : String) : String := String.ofList (text.toList.map Char.toLower)

def sameIgnoringCase (left right : String) : Bool := lowerAscii left = lowerAscii right

def searchChar (character : Char) : Char :=
  if character = '\u212A' then 'k' else character.toLower

def occursIn (part : List Char) : List Char → Bool
  | [] => part.isEmpty
  | first :: rest => part.isPrefixOf (first :: rest) || occursIn part rest

def occurs (part whole : String) : Bool := occursIn part.toList whole.toList

def occursIgnoringCase (part whole : String) : Bool :=
  occursIn part.toList (whole.toList.map searchChar)

theorem occursIn_iff {part whole : List Char} :
    occursIn part whole = true ↔ ∃ before after, whole = before ++ part ++ after := by
  induction whole with
  | nil =>
    simp only [occursIn, List.isEmpty_iff]
    constructor
    · rintro rfl
      exact ⟨[], [], rfl⟩
    · rintro ⟨before, after, equal⟩
      have empty := List.append_eq_nil_iff.1 equal.symm
      exact (List.append_eq_nil_iff.1 empty.1).2
  | cons first rest induction =>
    simp only [occursIn, Bool.or_eq_true, List.isPrefixOf_iff_prefix, induction]
    constructor
    · rintro (⟨after, equal⟩ | ⟨before, after, equal⟩)
      · exact ⟨[], after, by simp [equal]⟩
      · exact ⟨first :: before, after, by simp [equal]⟩
    · rintro ⟨before, after, equal⟩
      cases before with
      | nil => exact .inl ⟨after, by simpa using equal.symm⟩
      | cons head tail =>
        simp only [List.cons_append, List.cons.injEq] at equal
        exact .inr ⟨tail, after, by simpa using equal.2⟩

example : occursIgnoringCase "unknown" "An UNKNOWN error" = true := by decide

end SqlGateway.Text
