/-!
# Texts in pieces

`pieces` cuts at every separator and always gives at least one piece; `cut` cuts at the first one.
The main statements say that joining the pieces gives the text back, and that pieces without the
separator are found again. `block` lays out lines.
-/

namespace SqlGateway.Text

def pieces (separator : Char) : List Char → List (List Char)
  | [] => [[]]
  | first :: rest =>
    if first = separator then [] :: pieces separator rest
    else
      match pieces separator rest with
      | [] => [[first]]
      | piece :: others => (first :: piece) :: others

def joinChars (separator : Char) : List (List Char) → List Char
  | [] => []
  | [last] => last
  | piece :: rest => piece ++ separator :: joinChars separator rest

def cut (separator : Char) : List Char → Option (List Char × List Char)
  | [] => none
  | first :: rest =>
    if first = separator then some ([], rest)
    else (cut separator rest).map fun (before, behind) => (first :: before, behind)

def indent : String := "        "

/-- Lines in a block of their own, which begins and ends with a line break. -/
def block (lines : List String) : String :=
  "\n" ++ String.join (lines.map fun line => indent ++ line ++ "\n") ++ indent

example : block ["a", "b"] = "\n        a\n        b\n        " := by decide

theorem pieces_ne_nil (separator : Char) (text : List Char) : pieces separator text ≠ [] := by
  cases text with
  | nil => simp [pieces]
  | cons first rest =>
    simp only [pieces]
    split
    · simp
    · split <;> simp

theorem joinChars_cons {separator : Char} {piece : List Char} {rest : List (List Char)}
    (more : rest ≠ []) :
    joinChars separator (piece :: rest) = piece ++ separator :: joinChars separator rest := by
  cases rest with
  | nil => exact absurd rfl more
  | cons => rfl

theorem joinChars_pieces (separator : Char) (text : List Char) :
    joinChars separator (pieces separator text) = text := by
  induction text with
  | nil => rfl
  | cons first rest induction =>
    simp only [pieces]
    split
    · rename_i same
      rw [joinChars_cons (pieces_ne_nil separator rest), induction, same]
      rfl
    · split
      · rename_i none
        exact absurd none (pieces_ne_nil separator rest)
      · rename_i piece others found
        rw [found] at induction
        cases others with
        | nil =>
          simp only [joinChars] at induction ⊢
          rw [induction]
        | cons next more =>
          simp only [joinChars, List.cons_append] at induction ⊢
          rw [induction]

theorem pieces_of_not_mem {separator : Char} {text : List Char} (absent : separator ∉ text) :
    pieces separator text = [text] := by
  induction text with
  | nil => rfl
  | cons first rest induction =>
    simp only [List.mem_cons, not_or] at absent
    simp [pieces, induction absent.2, Ne.symm absent.1]

theorem pieces_append_cons (separator : Char) (text rest : List Char) :
    pieces separator (text ++ separator :: rest) =
      pieces separator text ++ pieces separator rest := by
  induction text with
  | nil => simp [pieces]
  | cons first more induction =>
    simp only [List.cons_append, pieces, induction]
    split
    · rfl
    · cases found : pieces separator more with
      | nil => exact absurd found (pieces_ne_nil separator more)
      | cons piece others => rfl

theorem pieces_append {separator : Char} {piece : List Char} (absent : separator ∉ piece)
    (rest : List Char) :
    pieces separator (piece ++ separator :: rest) = piece :: pieces separator rest := by
  rw [pieces_append_cons, pieces_of_not_mem absent]
  rfl

theorem subset_joinChars {separator : Char} {parts : List (List Char)} {part : List Char}
    (member : part ∈ parts) : part ⊆ joinChars separator parts := by
  induction parts with
  | nil => cases member
  | cons first rest induction =>
    intro character inside
    cases rest with
    | nil =>
      rw [List.mem_singleton] at member
      exact member ▸ inside
    | cons next others =>
      rw [joinChars_cons (by simp), List.mem_append, List.mem_cons]
      rcases List.mem_cons.mp member with rfl | member
      · exact .inl inside
      · exact .inr (.inr (induction member inside))

theorem subset_of_mem_pieces {separator : Char} {text piece : List Char}
    (member : piece ∈ pieces separator text) : piece ⊆ text := by
  have within : piece ⊆ joinChars separator (pieces separator text) := subset_joinChars member
  rwa [joinChars_pieces] at within

theorem not_mem_of_mem_pieces {separator : Char} {text piece : List Char}
    (member : piece ∈ pieces separator text) : separator ∉ piece := by
  induction text generalizing piece with
  | nil =>
    rw [List.mem_singleton.mp member]
    exact List.not_mem_nil
  | cons first rest induction =>
    rw [pieces] at member
    split at member
    · rcases List.mem_cons.mp member with rfl | member
      · exact List.not_mem_nil
      · exact induction member
    · next other =>
      split at member
      · next none => exact absurd none (pieces_ne_nil separator rest)
      · next next others found =>
        rcases List.mem_cons.mp member with rfl | member
        · have absent : separator ∉ next := induction (found ▸ List.mem_cons_self)
          exact List.not_mem_cons_of_ne_of_not_mem (Ne.symm other) absent
        · exact induction (found ▸ List.mem_cons_of_mem next member)

theorem joinChars_concat {separator : Char} {parts : List (List Char)} (more : parts ≠ [])
    (last : List Char) :
    joinChars separator (parts ++ [last]) = joinChars separator parts ++ separator :: last := by
  induction parts with
  | nil => exact absurd rfl more
  | cons part rest induction =>
    cases rest with
    | nil => rfl
    | cons next others =>
      have joined := induction (List.cons_ne_nil next others)
      rw [List.cons_append, joinChars_cons (by simp), joined,
        joinChars_cons (List.cons_ne_nil next others), List.append_assoc]
      rfl

theorem pieces_joinChars {separator : Char} {parts : List (List Char)} (nonempty : parts ≠ [])
    (absent : ∀ part ∈ parts, separator ∉ part) :
    pieces separator (joinChars separator parts) = parts := by
  induction parts with
  | nil => exact absurd rfl nonempty
  | cons part rest induction =>
    cases rest with
    | nil => exact pieces_of_not_mem (absent part (by simp))
    | cons next more =>
      rw [joinChars_cons (by simp), pieces_append (absent part (by simp)),
        induction (by simp) fun other member => absent other (by simp [member])]

theorem cut_of_not_mem {separator : Char} {text : List Char} (absent : separator ∉ text) :
    cut separator text = none := by
  induction text with
  | nil => rfl
  | cons first rest induction =>
    simp only [List.mem_cons, not_or] at absent
    simp [cut, induction absent.2, Ne.symm absent.1]

theorem cut_append {separator : Char} {before : List Char} (absent : separator ∉ before)
    (behind : List Char) :
    cut separator (before ++ separator :: behind) = some (before, behind) := by
  induction before with
  | nil => simp [cut]
  | cons first rest induction =>
    simp only [List.mem_cons, not_or] at absent
    simp [cut, induction absent.2, Ne.symm absent.1]

theorem cut_eq_some_iff {separator : Char} {text before behind : List Char} :
    cut separator text = some (before, behind) ↔
      separator ∉ before ∧ text = before ++ separator :: behind := by
  constructor
  · intro found
    induction text generalizing before with
    | nil => cases found
    | cons first rest induction =>
      rw [cut] at found
      split at found
      · next same =>
        cases found
        exact ⟨List.not_mem_nil, by rw [same]; rfl⟩
      · next other =>
        rcases Option.map_eq_some_iff.mp found with ⟨⟨front, back⟩, found, parts⟩
        cases parts
        rcases induction found with ⟨absent, rfl⟩
        exact ⟨List.not_mem_cons_of_ne_of_not_mem (Ne.symm other) absent, rfl⟩
  · rintro ⟨absent, rfl⟩
    exact cut_append absent behind

end SqlGateway.Text
