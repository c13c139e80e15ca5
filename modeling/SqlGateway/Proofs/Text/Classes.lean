import Mathlib.Data.List.TakeWhile
import SqlGateway.Text.Alphanumeric
import SqlGateway.Text.Ranges

/-!
# Classes of characters

Where letters and digits lie, and that blanks and control characters lie elsewhere. A run of
characters of a class is cut off where the text goes on with another one, and nothing is trimmed
from a text without blanks.
-/

namespace SqlGateway.Text

theorem not_mem_of_refused {isMember : Char → Bool} {text : List Char}
    (inside : ∀ character ∈ text, isMember character = true) {other : Char}
    (refused : isMember other = false) : other ∉ text := by
  intro member
  rw [inside other member] at refused
  cases refused

theorem ascii_forall (holds : Char → Prop) (each : ∀ code < 128, holds (Char.ofNat code))
    {character : Char} (ascii : character.toNat < 128) : holds character := by
  have found := each character.toNat ascii
  rwa [Char.ofNat_toNat] at found

/-! ## Letters and digits -/

theorem bounds_of_isAlphanum {character : Char} (member : character.isAlphanum = true) :
    48 ≤ character.toNat ∧ character.toNat ≤ 122 := by
  have codes : ((decide (65 ≤ character.val ∧ character.val ≤ 90) ||
      (97 ≤ character.val && character.val ≤ 122)) ||
      (48 ≤ character.val && character.val ≤ 57)) = true := member
  simp only [Bool.or_eq_true, Bool.and_eq_true, decide_eq_true_eq, UInt32.le_iff_toNat_le,
    UInt32.reduceToNat] at codes
  rw [Char.toNat]
  omega

theorem isAlphanum_of_isDigit {character : Char} (digit : character.isDigit = true) :
    character.isAlphanum = true := by
  rw [Char.isAlphanum, digit, Bool.or_true]

theorem isAlphanum_of_isAlpha {character : Char} (letter : character.isAlpha = true) :
    character.isAlphanum = true := by
  rw [Char.isAlphanum, letter, Bool.true_or]

theorem isAlpha_of_toLower {letter : Char} (lower : letter.toLower.isAlpha = true) :
    letter.isAlpha = true := by
  unfold Char.toLower at lower
  split at lower
  · next upper =>
    have isUpper : letter.isUpper = true := decide_eq_true upper
    exact Bool.or_eq_true_iff.mpr (.inl isUpper)
  · exact lower

/-! ## Blanks -/

namespace Ranges

def areApart (left right : Ranges) : Bool :=
  left.all fun first => right.all fun second => first.2 < second.1 || second.2 < first.1

theorem contains_eq_false_of_areApart {left right : Ranges} (apart : areApart left right = true)
    {character : Char} (inside : right.contains character = true) :
    left.contains character = false := by
  rw [Bool.eq_false_iff]
  intro also
  rcases containsCode_iff.mp also with ⟨first, isFirst, firstLeast, firstMost⟩
  rcases containsCode_iff.mp inside with ⟨second, isSecond, secondLeast, secondMost⟩
  have disjoint := List.all_eq_true.mp (List.all_eq_true.mp apart first isFirst) second isSecond
  simp only [Bool.or_eq_true, decide_eq_true_eq] at disjoint
  omega

end Ranges

theorem areApart_blankRanges : Ranges.areApart blankRanges alphanumericRanges = true := by
  decide +kernel

theorem isBlank_of_visible {character : Char} (least : 32 < character.toNat)
    (most : character.toNat < 128) : isBlank character = false := by
  simp only [isBlank, Ranges.contains, Ranges.containsCode, blankRanges, List.any_cons,
    List.any_nil, Bool.or_false, Bool.or_eq_false_iff, Bool.and_eq_false_iff,
    decide_eq_false_iff_not]
  omega

theorem isBlank_of_isDigit {character : Char} (digit : character.isDigit = true) :
    isBlank character = false := by
  have bounds := bounds_of_isAlphanum (isAlphanum_of_isDigit digit)
  exact isBlank_of_visible (by omega) (by omega)

theorem isBlank_of_isAlphanumeric {character : Char} (member : isAlphanumeric character = true) :
    isBlank character = false := by
  rw [isAlphanumeric] at member
  split at member
  · next ascii =>
    have bounds := bounds_of_isAlphanum member
    exact isBlank_of_visible (by omega) ascii
  · exact Ranges.contains_eq_false_of_areApart areApart_blankRanges member

/-! ## Control characters -/

def controlRanges : Ranges := [(0, 31), (127, 159)]

theorem isControl_eq_contains (character : Char) :
    isControl character = controlRanges.contains character := by
  rw [Bool.eq_iff_iff]
  simp only [isControl, controlRanges, Ranges.contains, Ranges.containsCode, List.any_cons,
    List.any_nil, Bool.or_false, Bool.or_eq_true, Bool.and_eq_true, decide_eq_true_eq]
  omega

theorem areApart_controlRanges : Ranges.areApart controlRanges alphanumericRanges = true := by
  decide +kernel

theorem isControl_of_isAlphanumeric {character : Char} (member : isAlphanumeric character = true) :
    isControl character = false := by
  rw [isControl_eq_contains]
  rw [isAlphanumeric] at member
  split at member
  · have bounds := bounds_of_isAlphanum member
    simp only [controlRanges, Ranges.contains, Ranges.containsCode, List.any_cons, List.any_nil,
      Bool.or_false, Bool.or_eq_false_iff, Bool.and_eq_false_iff, decide_eq_false_iff_not]
    omega
  · exact Ranges.contains_eq_false_of_areApart areApart_controlRanges member

/-! ## Runs and margins -/

section Runs

variable {isMember : Char → Bool} {run rest : List Char}
  (inside : ∀ character ∈ run, isMember character = true)
  (ends : ∀ next ∈ rest.head?, isMember next = false)

include inside ends

theorem takeWhile_run : (run ++ rest).takeWhile isMember = run := by
  rw [List.takeWhile_append_of_pos inside]
  cases rest with
  | nil => exact List.append_nil run
  | cons next more =>
    rw [List.takeWhile_cons, ends next rfl]
    exact List.append_nil run

theorem dropWhile_run : (run ++ rest).dropWhile isMember = rest := by
  rw [List.dropWhile_append_of_pos inside]
  cases rest with
  | nil => rfl
  | cons next more =>
    rw [List.dropWhile_cons, ends next rfl]
    rfl

end Runs

section Stops

variable {isMember : Char → Bool} {mark : Char} (stops : isMember mark = false)
  (front rest : List Char)

include stops

theorem takeWhile_append_stop :
    (front ++ mark :: rest).takeWhile isMember = front.takeWhile isMember := by
  induction front with
  | nil => simp [stops]
  | cons first more induction => simp only [List.cons_append, List.takeWhile_cons, induction]

theorem dropWhile_append_stop :
    (front ++ mark :: rest).dropWhile isMember = front.dropWhile isMember ++ mark :: rest := by
  induction front with
  | nil => simp [stops]
  | cons first more induction =>
    simp only [List.cons_append, List.dropWhile_cons, induction]
    split <;> rfl

end Stops

section Margins

variable {isMargin : Char → Bool} {text : List Char}
  (inside : ∀ character ∈ text, isMargin character = false)

include inside

theorem dropWhile_of_inside : text.dropWhile isMargin = text := by
  cases text with
  | nil => rfl
  | cons first rest =>
    rw [List.dropWhile_cons_of_neg]
    simp [inside first List.mem_cons_self]

theorem trimmed_of_inside :
    ((text.dropWhile isMargin).reverse.dropWhile isMargin).reverse = text := by
  have back : ∀ character ∈ text.reverse, isMargin character = false := by
    intro character member
    exact inside character (List.mem_reverse.mp member)
  rw [dropWhile_of_inside inside, dropWhile_of_inside back, List.reverse_reverse]

theorem trimmed_between {before after : List Char} (nonempty : text ≠ [])
    (front : ∀ character ∈ before, isMargin character = true)
    (back : ∀ character ∈ after, isMargin character = true) :
    (((before ++ (text ++ after)).dropWhile isMargin).reverse.dropWhile isMargin).reverse =
      text := by
  have starts : ∀ next ∈ (text ++ after).head?, isMargin next = false := by
    intro next isFirst
    cases text with
    | nil => exact absurd rfl nonempty
    | cons first rest => exact inside next (by simp_all)
  have ends : ∀ next ∈ text.reverse.head?, isMargin next = false := by
    intro next isLast
    exact inside next (List.mem_reverse.mp (List.mem_of_mem_head? isLast))
  rw [dropWhile_run front starts, List.reverse_append,
    dropWhile_run (fun character member => back character (List.mem_reverse.mp member)) ends,
    List.reverse_reverse]

end Margins

end SqlGateway.Text
