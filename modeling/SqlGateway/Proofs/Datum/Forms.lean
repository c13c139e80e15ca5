import Mathlib.Algebra.GroupWithZero.Nat
import Mathlib.Data.List.TakeWhile
import SqlGateway.Datum.TextForm
import SqlGateway.Proofs.Text.Classes
import SqlGateway.Proofs.Text.Digits

/-!
# Numbers, octets and identifiers as servers write them

Whole numbers are written in digits, perhaps filled with zeros; floating-point numbers in decimals,
perhaps with an exponent; octets in pairs of hexadecimal digits, and identifiers in groups of them.
What is read of such a text is what was written, as long as a whole number keeps its bounds.
-/

namespace SqlGateway.TextForm

/-! ## Whole numbers -/

def integerChars (zeros : Nat) (value : Int) : List Char :=
  (if value < 0 then ['-'] else []) ++
    (List.replicate zeros '0' ++ Nat.toDigits 10 value.natAbs)

theorem digits_ne_nil (zeros number : Nat) :
    List.replicate zeros '0' ++ Nat.toDigits 10 number ≠ [] := by
  intro none
  exact Nat.toDigits_ne_nil (List.append_eq_nil_iff.mp none).2

theorem all_isDigit (zeros number : Nat) :
    (List.replicate zeros '0' ++ Nat.toDigits 10 number).all Char.isDigit = true :=
  List.all_eq_true.mpr fun _ => Text.isDigit_of_mem_zeros

theorem ne_sign {digits : List Char} (allDigits : digits.all Char.isDigit = true) {sign : Char}
    (isSign : sign.isDigit = false) (rest : List Char) : digits ≠ sign :: rest := by
  rintro rfl
  rw [List.all_cons, isSign] at allDigits
  cases allDigits

theorem ofInt?_eq_none {type : IntegerType} {value : Int} (outside : value < type.least) :
    type.ofInt? value = none :=
  dif_neg fun inside => Int.not_le.mpr outside inside.1

theorem integer?_integerChars (type : IntegerType) (zeros : Nat) (value : Int) :
    integer? type (String.ofList (integerChars zeros value)) = type.ofInt? value := by
  have nonempty := digits_ne_nil zeros value.natAbs
  have allDigits := all_isDigit zeros value.natAbs
  have number : Text.digitsValue (List.replicate zeros '0' ++ Nat.toDigits 10 value.natAbs) =
      value.natAbs := by
    rw [Text.digitsValue_zeros, Text.digitsValue_toDigits]
  rw [integer?, String.toList_ofList, integerChars]
  by_cases negative : value < 0
  · have same : -(value.natAbs : Int) = value := by omega
    rw [if_pos negative, List.singleton_append]
    simp only [nonempty, allDigits, number, same, decide_false, Bool.not_true, Bool.or_self,
      Bool.false_or, Bool.true_and, decide_eq_true_eq, if_true]
    split
    · next natural => exact (ofInt?_eq_none (natural ▸ negative)).symm
    · rfl
  · have same : (value.natAbs : Int) = value := by omega
    rw [if_neg negative, List.nil_append]
    split
    next signed read =>
    split at read
    · next written => exact absurd written (ne_sign allDigits rfl _)
    · next written => exact absurd written (ne_sign allDigits rfl _)
    · cases read
      simp only [nonempty, allDigits, number, same, decide_false, Bool.not_true, Bool.or_self,
        Bool.false_and, Bool.false_eq_true, if_false]

/-! ## Floating-point numbers -/

structure Numeral where
  negative : Bool
  whole : List Char
  fraction : List Char
  exponentSign : List Char
  exponent : List Char
  nonempty : whole ≠ []
  wholeDigits : whole.all Char.isDigit = true
  fractionDigits : fraction.all Char.isDigit = true
  signs : exponentSign ∈ [[], ['+'], ['-']]
  exponentDigits : exponent.all Char.isDigit = true

namespace Numeral

def exponentChars (numeral : Numeral) : List Char :=
  if numeral.exponent = [] then [] else 'e' :: (numeral.exponentSign ++ numeral.exponent)

def fractionChars (numeral : Numeral) : List Char :=
  if numeral.fraction = [] then [] else '.' :: numeral.fraction

def chars (numeral : Numeral) : List Char :=
  (if numeral.negative then ['-'] else []) ++
    (numeral.whole ++ (numeral.fractionChars ++ numeral.exponentChars))

end Numeral

open Number (FloatReading)

theorem takeWhile_digits {digits rest : List Char} (allDigits : digits.all Char.isDigit = true)
    (ends : ∀ next ∈ rest.head?, next.isDigit = false) :
    (digits ++ rest).takeWhile Char.isDigit = digits ∧
      (digits ++ rest).dropWhile Char.isDigit = rest := by
  have each : ∀ digit ∈ digits, digit.isDigit = true := List.all_eq_true.mp allDigits
  exact ⟨Text.takeWhile_run each ends, Text.dropWhile_run each ends⟩

theorem isSome_exponent? (numeral : Numeral) (nonempty : numeral.exponent ≠ []) :
    (FloatReading.exponent? (numeral.exponentSign ++ numeral.exponent)).isSome = true := by
  have checked : ¬(numeral.exponent.isEmpty || !numeral.exponent.all Char.isDigit) = true := by
    simp [nonempty, numeral.exponentDigits]
  unfold FloatReading.exponent?
  have signs := numeral.signs
  rw [List.mem_cons, List.mem_cons, List.mem_singleton] at signs
  rcases signs with unsigned | plus | minus
  · rw [unsigned, List.nil_append]
    split
    next signed digits read =>
    split at read
    · next written => exact absurd written (ne_sign numeral.exponentDigits rfl _)
    · next written => exact absurd written (ne_sign numeral.exponentDigits rfl _)
    · cases read
      rw [if_neg checked]
      rfl
  · rw [plus, List.singleton_append]
    simp only [if_neg checked, Option.isSome_some]
  · rw [minus, List.singleton_append]
    simp only [if_neg checked, Option.isSome_some]

theorem exponentChars_cases (numeral : Numeral) :
    numeral.exponentChars = [] ∨
      ∃ power, numeral.exponentChars = 'e' :: power ∧
        (FloatReading.exponent? power).isSome = true := by
  rw [Numeral.exponentChars]
  by_cases absent : numeral.exponent = []
  · exact .inl (if_pos absent)
  · exact .inr ⟨_, if_neg absent, isSome_exponent? numeral absent⟩

theorem isSome_decimal? (numeral : Numeral) :
    (FloatReading.decimal? (numeral.whole ++ (numeral.fractionChars ++
      numeral.exponentChars))).isSome = true := by
  have exponent := exponentChars_cases numeral
  have exponentEnds : ∀ next ∈ numeral.exponentChars.head?, next.isDigit = false := by
    intro next first
    rcases exponent with absent | ⟨power, written, -⟩
    · rw [absent] at first
      cases first
    · rw [written] at first
      cases first
      rfl
  have fractionEnds : ∀ next ∈ (numeral.fractionChars ++ numeral.exponentChars).head?,
      next.isDigit = false := by
    rw [Numeral.fractionChars]
    split
    · exact exponentEnds
    · rintro next ⟨⟩
      rfl
  have wholeRead := takeWhile_digits numeral.wholeDigits fractionEnds
  have fractionRead := takeWhile_digits numeral.fractionDigits exponentEnds
  have hasDigits : ∀ fraction : List Char,
      ¬(numeral.whole.isEmpty && fraction.isEmpty) = true := by
    simp [numeral.nonempty]
  rw [FloatReading.decimal?, wholeRead.1, wholeRead.2, Numeral.fractionChars]
  by_cases pointless : numeral.fraction = []
  · rw [if_pos pointless]
    rcases exponent with absent | ⟨power, written, read⟩
    · rw [absent, List.nil_append]
      simp only [if_neg (hasDigits _), Option.isSome_some]
    · rw [written, List.nil_append]
      change (if (numeral.whole.isEmpty && [].isEmpty) = true then none
        else (FloatReading.exponent? power).map _).isSome = true
      rw [if_neg (hasDigits _), Option.isSome_map, read]
  · rw [if_neg pointless]
    simp only [List.cons_append, fractionRead.1, fractionRead.2, if_neg (hasDigits _)]
    rcases exponent with absent | ⟨power, written, read⟩
    · rw [absent]
      rfl
    · rw [written]
      simp only [decide_true, Bool.true_or, if_true, Option.isSome_map, read]

theorem isSome_float? (format : Number.BinaryFormat) (numeral : Numeral) :
    (float? format (String.ofList numeral.chars)).isSome = true := by
  have read := isSome_decimal? numeral
  have unsigned : ∀ {sign : Char} {rest : List Char}, sign.isDigit = false →
      numeral.whole ++ (numeral.fractionChars ++ numeral.exponentChars) ≠ sign :: rest := by
    intro sign rest isSign same
    cases written : numeral.whole with
    | nil => exact numeral.nonempty written
    | cons first more =>
      rw [written, List.cons_append, List.cons.injEq] at same
      have digits := numeral.wholeDigits
      rw [written] at digits
      exact ne_sign digits isSign more (congrArg (· :: more) same.1)
  rw [float?, FloatReading.ofText?, String.toList_ofList, Numeral.chars]
  split
  next negative rest signed =>
  have same : rest = numeral.whole ++ (numeral.fractionChars ++ numeral.exponentChars) := by
    cases sign : numeral.negative with
    | true =>
      rw [sign] at signed
      exact (congrArg Prod.snd signed).symm
    | false =>
      rw [sign, if_neg (by decide), List.nil_append] at signed
      split at signed
      · next written => exact absurd written (unsigned rfl)
      · next written => exact absurd written (unsigned rfl)
      · exact (congrArg Prod.snd signed).symm
  simp only
  split
  · rfl
  · split
    · rfl
    · rw [same, Option.isSome_map, read]

def Numeral.reading (numeral : Numeral) (format : Number.BinaryFormat) : FloatReading :=
  (float? format (String.ofList numeral.chars)).get (isSome_float? format numeral)

theorem float?_chars (numeral : Numeral) (format : Number.BinaryFormat) :
    float? format (String.ofList numeral.chars) = some (numeral.reading format) :=
  (Option.some_get _).symm

/-! ## Octets -/

theorem hexValue?_digitChar : ∀ value < 16, Text.hexValue? (Nat.digitChar value) = some value := by
  decide

theorem hexOctets?_hexChars (octets : List UInt8) : hexOctets? (hexChars octets) = some octets := by
  induction octets with
  | nil => rfl
  | cons octet octets induction =>
    have bound := octet.toNat_lt
    have high := hexValue?_digitChar (octet.toNat / 16) (by omega)
    have low := hexValue?_digitChar (octet.toNat % 16) (by omega)
    have value : (octet.toNat / 16 * 16 + octet.toNat % 16).toUInt8 = octet := by
      rw [Nat.div_add_mod']
      exact UInt8.ofNat_toNat
    rw [hexChars, List.flatMap_cons, hexPair, List.cons_append, List.cons_append, List.nil_append,
      hexOctets?, high, low]
    change (hexOctets? (hexChars octets)).bind _ = _
    rw [induction, Option.bind_some, value]
    rfl

def markedChars (octets : List UInt8) : List Char := '\\' :: 'x' :: hexChars octets

theorem markedOctets?_markedChars (octets : List UInt8) :
    markedOctets? (String.ofList (markedChars octets)) = some octets := by
  rw [markedOctets?, String.toList_ofList, markedChars]
  exact hexOctets?_hexChars octets

/-! ## Identifiers -/

theorem mem_hexChars {octets : List UInt8} {digit : Char} (member : digit ∈ hexChars octets) :
    ∃ value < 16, digit = Nat.digitChar value := by
  rcases List.mem_flatMap.mp member with ⟨octet, -, inside⟩
  have bound := octet.toNat_lt
  rw [hexPair, List.mem_cons, List.mem_singleton] at inside
  rcases inside with rfl | rfl
  · exact ⟨octet.toNat / 16, by omega, rfl⟩
  · exact ⟨octet.toNat % 16, by omega, rfl⟩

theorem length_hexChars (octets : List UInt8) : (hexChars octets).length = 2 * octets.length := by
  induction octets with
  | nil => rfl
  | cons octet octets induction =>
    rw [hexChars, List.flatMap_cons, List.length_append, List.length_cons]
    change 2 + (hexChars octets).length = _
    omega

theorem flatten_cutGroups (lengths : List Nat) (text : List Char) :
    (cutGroups lengths text).flatten = text.take lengths.sum := by
  induction lengths generalizing text with
  | nil => rfl
  | cons length lengths induction =>
    rw [cutGroups, List.flatten_cons, induction, List.sum_cons, List.take_add]

theorem filter_joinChars {separator : Char} {parts : List (List Char)}
    (absent : ∀ part ∈ parts, separator ∉ part) :
    (Text.joinChars separator parts).filter (· ≠ separator) = parts.flatten := by
  induction parts with
  | nil => rfl
  | cons part rest induction =>
    have first : part.filter (· ≠ separator) = part := by
      rw [List.filter_eq_self]
      intro character inside
      rw [decide_eq_true_eq]
      rintro rfl
      exact absent part List.mem_cons_self inside
    have others := induction fun other member => absent other (List.mem_cons_of_mem _ member)
    cases rest with
    | nil => simpa [Text.joinChars] using first
    | cons next more =>
      rw [Text.joinChars_cons (List.cons_ne_nil next more), List.filter_append, first,
        List.filter_cons_of_neg (by simp), others]
      rfl

section Uuid

variable (uuid : Uuid)

theorem flatten_groups :
    (cutGroups Uuid.groups (hexChars uuid.octets)).flatten = hexChars uuid.octets := by
  rw [flatten_cutGroups, List.take_of_length_le]
  rw [length_hexChars, uuid.length]
  decide

theorem hyphen_not_mem : ∀ group ∈ cutGroups Uuid.groups (hexChars uuid.octets), '-' ∉ group := by
  intro group member inside
  have digit : '-' ∈ hexChars uuid.octets := by
    rw [← flatten_groups uuid]
    exact List.mem_flatten.mpr ⟨group, member, inside⟩
  rcases mem_hexChars digit with ⟨value, small, same⟩
  exact (show ∀ value < 16, '-' ≠ Nat.digitChar value by decide) value small same

theorem wrapped?_chars : wrapped? uuid.chars = none := by
  have digits := length_hexChars uuid.octets
  cases written : hexChars uuid.octets with
  | nil =>
    rw [written, uuid.length] at digits
    cases digits
  | cons first more =>
    rcases mem_hexChars (written ▸ List.mem_cons_self) with ⟨value, small, same⟩
    have brace : ∀ value < 16, Nat.digitChar value ≠ '\x7b' := by decide
    have letter : ∀ value < 16, Nat.digitChar value ≠ 'u' := by decide
    have begins : ∃ rest, uuid.chars = first :: rest := by
      rw [Uuid.chars, written, Uuid.groups, cutGroups, Text.joinChars_cons (by simp [cutGroups])]
      exact ⟨_, rfl⟩
    rcases begins with ⟨rest, begins⟩
    rw [begins, wrapped?]
    · rintro others ⟨⟩
      exact brace value small same.symm
    · rintro others ⟨⟩
      exact letter value small same.symm

theorem uuid?_text : uuid? uuid.text = some uuid := by
  have digits : uuid.chars.filter (· ≠ '-') = hexChars uuid.octets := by
    rw [Uuid.chars, filter_joinChars (hyphen_not_mem uuid), flatten_groups uuid]
  simp only [uuid?, Uuid.text, String.toList_ofList, wrapped?_chars, Option.getD_none, digits,
    hexOctets?_hexChars, uuid.length, dif_pos]
  rw [← Uuid.chars, decide_eq_true rfl, Bool.true_or, if_pos rfl]

end Uuid

end SqlGateway.TextForm
