import SqlGateway.Text.Width

/-!
# Widths that add up

The width of a text is in general not the sum of the widths of its parts, since characters of two
parts may join to one sign. Plain ASCII characters join nothing: in front of one of them a text is
as wide as it is alone. So the widths of texts between such characters add up: `columns_append`.
-/

namespace SqlGateway.Text.Width

/-! ## No text is narrower than nothing -/

/-- The columns that a sign has been given and that a character before it may take away. -/
def debt : Sign → Int
  | .joinedFlagLetter | .joinedFlagsAndLetter | .tifinaghJoiner | .subscript => 1
  | _ => 0

theorem debt_nonneg (sign : Sign) : 0 ≤ debt sign := by
  fun_cases debt sign <;> decide

theorem debt_le_of_joins {character : Char} {sign next : Sign} {more : Int}
    (joined : joins character sign = some (more, next)) : debt next ≤ debt sign + more := by
  revert joined
  fun_cases joins character sign <;> intro joined <;> cases joined <;> simp [debt]

theorem debt_of_join? {sign joined : Sign} (joins : sign.join? = some joined) :
    debt joined = debt sign := by
  revert joins
  fun_cases Sign.join? sign <;> intro joins <;> cases joins <;> rfl

theorem debt_signOf_le (character : Char) : debt (signOf character) ≤ 1 := by
  fun_cases signOf character <;> simp [debt]

namespace Following

theorem debt_selectPicture_le (following : Following) :
    debt following.selectPicture.sign ≤ debt following.sign := by
  fun_cases selectPicture following
  · exact Int.le_refl _
  · exact debt_nonneg _

theorem debt_selectText_le (following : Following) :
    debt following.selectText.sign ≤ debt following.sign := by
  fun_cases selectText following
  · exact Int.le_refl _
  · exact debt_nonneg _

theorem debt_selectWide_le (following : Following) :
    debt following.selectWide.sign ≤ debt following.sign := by
  fun_cases selectWide following
  · exact Int.le_refl _
  · exact debt_nonneg _

theorem debt_withoutPicture_le (following : Following) :
    debt following.withoutPicture.sign ≤ debt following.sign := by
  fun_cases withoutPicture following
  · exact Int.le_refl _
  · exact debt_nonneg _

end Following

theorem debt_single_le (character : Char) :
    debt (single character).2.sign ≤ (single character).1 := by
  have most := debt_signOf_le character
  fun_cases single character
  case case8 => exact Int.le_trans most (show (1 : Int) ≤ 2 by decide)
  case case9 => exact most
  all_goals decide

section Step

variable {character : Char}

theorem debt_pair_le (sign : Sign) :
    debt (step.pair character sign).2.sign ≤ debt sign + (step.pair character sign).1 := by
  fun_cases step.pair character sign
  case case1 more next joined => exact debt_le_of_joins joined
  case case2 =>
    have alone := debt_single_le character
    have least := debt_nonneg sign
    omega

theorem debt_sequence_le (sign : Sign) :
    debt (step.sequence character sign).2.sign ≤
      debt sign + (step.sequence character sign).1 := by
  fun_cases step.sequence character sign
  case case1 joined joins _ =>
    rw [Int.add_zero]
    exact Int.le_of_eq (debt_of_join? joins)
  case case2 =>
    rw [Int.add_zero]
    exact Int.le_refl _
  all_goals exact debt_pair_le sign

theorem debt_select_le (following : Following) :
    debt (step.select character following).2.sign ≤
      debt following.sign + (step.select character following).1 := by
  have least := debt_nonneg following.sign
  fun_cases step.select character following
  case case1 =>
    rw [Int.add_zero]
    exact following.debt_selectPicture_le
  case case2 =>
    rw [Int.add_zero]
    exact following.debt_selectText_le
  case case4 =>
    rw [Int.add_zero]
    exact { following with asText := false }.debt_selectWide_le
  case case6 => exact debt_sequence_le following.sign
  all_goals
    change 0 ≤ debt following.sign + _
    omega

/-- What a character takes away has been counted for the sign behind it. -/
theorem debt_step_le (following : Following) :
    debt (step character following).2.sign ≤
      debt following.sign + (step character following).1 := by
  have least := debt_nonneg following.sign
  fun_cases step character following
  case case1 =>
    change 0 ≤ debt following.sign + _
    split <;> omega
  case case2 =>
    split
    · exact Int.le_trans (debt_select_le following.withoutPicture)
        (Int.add_le_add_right following.debt_withoutPicture_le _)
    · exact debt_select_le following

end Step

theorem measure_cons (character : Char) (text : List Char) :
    measure (character :: text) =
      ((measure text).1 + (step character (measure text).2).1,
        (step character (measure text).2).2) :=
  rfl

theorem debt_measure_le (text : List Char) : debt (measure text).2.sign ≤ (measure text).1 := by
  induction text with
  | nil => exact Int.le_refl 0
  | cons character text induction =>
    have more : debt (step character (measure text).2).2.sign ≤
        debt (measure text).2.sign + (step character (measure text).2).1 :=
      debt_step_le (measure text).2
    exact Int.le_trans more (Int.add_le_add_right induction _)

theorem measure_nonneg (text : List Char) : 0 ≤ (measure text).1 :=
  Int.le_trans (debt_nonneg _) (debt_measure_le text)

theorem columns_eq (text : List Char) : (columns text : Int) = (measure text).1 :=
  Int.toNat_of_nonneg (measure_nonneg text)

/-! ## Plain characters -/

def isPlain (character : Char) : Bool :=
  character.toNat < 0x80 && character ≠ '\n' && character ≠ '\r' &&
    !selectableRanges.contains character

section Plain

variable {character : Char} (plain : isPlain character = true)

include plain

theorem lt_of_isPlain : character.toNat < 0x80 := by
  simp only [isPlain, Bool.and_eq_true, decide_eq_true_eq] at plain
  exact plain.1.1.1

theorem ne_of_isPlain {other : Char} (beyond : 0x80 ≤ other.toNat) : character ≠ other := by
  intro same
  have ascii := lt_of_isPlain plain
  rw [same] at ascii
  omega

theorem within_of_isPlain {first : Nat} (beyond : 0x80 ≤ first) (last : Nat) :
    within first last character = false := by
  have ascii := lt_of_isPlain plain
  rw [within, decide_eq_false (by omega), Bool.false_and]

theorem contains_of_isPlain {ranges : Ranges}
    (beyond : ranges.all (fun range => 0x80 ≤ range.1) = true) :
    ranges.contains character = false := by
  rw [Bool.eq_false_iff]
  intro inside
  rcases Ranges.containsCode_iff.mp inside with ⟨range, member, least, _⟩
  have first := of_decide_eq_true (List.all_eq_true.mp beyond range member)
  have ascii := lt_of_isPlain plain
  omega

theorem joins_of_isPlain (sign : Sign) : joins character sign = none := by
  have ascii := lt_of_isPlain plain
  have noReturn : character ≠ '\r' := by
    simp only [isPlain, Bool.and_eq_true, decide_eq_true_eq] at plain
    exact plain.1.2
  have noCode (code : Nat) (beyond : 0x80 ≤ code) : character.toNat ≠ code := by omega
  have noPicture : isPicture character = false := contains_of_isPlain plain (by decide)
  have noBase : skinBaseRanges.contains character = false := contains_of_isPlain plain (by decide)
  have noMark : zeroRanges.contains character = false :=
    contains_of_isPlain plain (by decide +kernel)
  unfold joins
  split <;>
    simp [noReturn, noCode, ne_of_isPlain plain, within_of_isPlain plain, noPicture, noBase,
      noMark, isFlagLetter, isSkinTone, isTagLetter, isTagDigit, isLam, isTransparent,
      isTifinaghConsonant]

theorem single_of_isPlain : single character = (1, .nothing) := by
  have ascii := lt_of_isPlain plain
  have noFeed : character ≠ '\n' := by
    simp only [isPlain, Bool.and_eq_true, decide_eq_true_eq] at plain
    exact plain.1.1.2
  rw [single, if_neg noFeed, if_pos (by omega)]

theorem pair_of_isPlain (sign : Sign) : step.pair character sign = (1, .nothing) := by
  rw [step.pair, joins_of_isPlain plain, single_of_isPlain plain]

theorem sequence_of_isPlain (sign : Sign) : step.sequence character sign = (1, .nothing) := by
  have outside : isInsideLigature character = false := by
    simp [isInsideLigature, ne_of_isPlain plain, within_of_isPlain plain]
  fun_cases step.sequence character sign
  case case1 _ _ joiner => exact absurd joiner (ne_of_isPlain plain (by decide))
  case case2 inside => rw [outside] at inside; cases inside
  all_goals exact pair_of_isPlain plain sign

theorem select_of_isPlain (following : Following) :
    step.select character following = (1, .nothing) := by
  fun_cases step.select character following
  case case1 selector => exact absurd selector (ne_of_isPlain plain (by decide))
  case case2 selector => exact absurd selector (ne_of_isPlain plain (by decide))
  case case3 => rfl
  case case4 selector => exact absurd selector (ne_of_isPlain plain (by decide))
  case case5 chosen =>
    simp [takesWideSelector, ne_of_isPlain plain] at chosen
  case case6 => exact sequence_of_isPlain plain following.sign

theorem step_of_isPlain (following : Following) : step character following = (1, .nothing) := by
  have unselected : selectableRanges.contains character = false := by
    simp only [isPlain, Bool.and_eq_true, Bool.not_eq_true'] at plain
    exact plain.2
  rw [step, unselected, Bool.and_false, if_neg Bool.false_ne_true]
  exact select_of_isPlain plain _

end Plain

/-- In front of a plain character a text is as wide as it is alone. -/
theorem measure_append (text : List Char) {rest : List Char}
    (apart : (measure rest).2 = .nothing) :
    measure (text ++ rest) = ((measure rest).1 + (measure text).1, (measure text).2) := by
  induction text with
  | nil =>
    rw [List.nil_append]
    exact Prod.ext (Int.add_zero _).symm apart
  | cons character text induction =>
    rw [List.cons_append, measure_cons, measure_cons, induction]
    exact Prod.ext (Int.add_assoc _ _ _) rfl

theorem measure_cons_of_isPlain {character : Char} (plain : isPlain character = true)
    (rest : List Char) : measure (character :: rest) = ((measure rest).1 + 1, .nothing) := by
  rw [measure_cons, step_of_isPlain plain]

theorem columns_cons {character : Char} (plain : isPlain character = true) (rest : List Char) :
    columns (character :: rest) = 1 + columns rest := by
  have whole := columns_eq (character :: rest)
  have part := columns_eq rest
  rw [measure_cons_of_isPlain plain] at whole
  omega

theorem columns_append (text : List Char) {character : Char} (plain : isPlain character = true)
    (rest : List Char) :
    columns (text ++ character :: rest) = columns text + columns (character :: rest) := by
  have apart : (measure (character :: rest)).2 = .nothing := by
    rw [measure_cons_of_isPlain plain]
  have whole := columns_eq (text ++ character :: rest)
  have first := columns_eq text
  have second := columns_eq (character :: rest)
  rw [measure_append text apart] at whole
  omega

theorem columns_replicate {character : Char} (plain : isPlain character = true) (count : Nat)
    (rest : List Char) :
    columns (List.replicate count character ++ rest) = count + columns rest := by
  induction count with
  | zero => exact (Nat.zero_add _).symm
  | succ count induction =>
    rw [List.replicate_succ, List.cons_append, columns_cons plain, induction]
    omega

end SqlGateway.Text.Width
