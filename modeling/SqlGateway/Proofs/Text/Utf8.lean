import Mathlib.Data.List.Basic
import SqlGateway.Text.Utf8

/-!
# Reading back what was written in UTF-8

The bytes of a character are read as this character, whatever follows them. So a text is read back
from its bytes, by the reader that refuses (`decode?_encode`) and by the one that replaces
(`decodeLossy_encode`).
-/

namespace SqlGateway.Text.Utf8

/-! ## First bytes -/

theorem continuation_two : ∀ bits < 30,
    continuation (0xC2 + bits).toUInt8 = some (1, 0x80, 0xBF) := by decide

theorem continuation_three : ∀ bits < 16,
    continuation (0xE0 + bits).toUInt8 =
      some (2, if bits = 0 then 0xA0 else 0x80, if bits = 13 then 0x9F else 0xBF) := by decide

theorem continuation_four : ∀ bits < 5,
    continuation (0xF0 + bits).toUInt8 =
      some (3, if bits = 0 then 0x90 else 0x80, if bits = 4 then 0x8F else 0xBF) := by decide

theorem front_of_continuation {byte : Nat} (wide : 0x80 ≤ byte) (small : byte < 256)
    {count : Nat} {low high : UInt8}
    (continued : continuation byte.toUInt8 = some (count, low, high)) (rest : List UInt8) :
    front byte.toUInt8 rest =
      continueWith (leadingBits byte.toUInt8 count) 1 low high count rest := by
  have several : ¬byte.toUInt8 < 0x80 := by
    rw [UInt8.lt_iff_toNat_lt]
    simp
    omega
  rw [front, if_neg several, continued]

theorem continueWith_cons {byte : Nat} {low high : UInt8} (above : low.toNat ≤ byte)
    (below : byte ≤ high.toNat) (code taken count : Nat) (rest : List UInt8) :
    continueWith code taken low high (count + 1) (byte.toUInt8 :: rest) =
      continueWith (code * 64 + byte % 64) (taken + 1) 0x80 0xBF count rest := by
  have small : byte < 256 := Nat.lt_of_le_of_lt below high.toNat_lt
  have value : byte.toUInt8.toNat = byte := by
    simp
    omega
  have inside : (low ≤ byte.toUInt8 && byte.toUInt8 ≤ high) = true := by
    simp only [Bool.and_eq_true, decide_eq_true_eq, UInt8.le_iff_toNat_le, value]
    exact ⟨above, below⟩
  rw [continueWith, if_pos inside, value]

theorem continueWith_next {bits : Nat} (six : bits < 64) (code taken count : Nat)
    (rest : List UInt8) :
    continueWith code taken 0x80 0xBF (count + 1) ((0x80 + bits).toUInt8 :: rest) =
      continueWith (code * 64 + bits) (taken + 1) 0x80 0xBF count rest := by
  have value : (0x80 + bits) % 64 = bits := by omega
  have above : (0x80 : UInt8).toNat ≤ 0x80 + bits := Nat.le_add_right 0x80 bits
  have below : 0x80 + bits ≤ (0xBF : UInt8).toNat := by
    simp
    omega
  rw [continueWith_cons above below, value]

/-! ## Characters -/

theorem front_two {code : Nat} (least : 0x80 ≤ code) (greatest : code < 0x800) (rest : List UInt8) :
    front (0xC0 + code / 64).toUInt8 ((0x80 + code % 64).toUInt8 :: rest) =
      .character (Char.ofNat code) 2 := by
  have continued := continuation_two (code / 64 - 2) (by omega)
  rw [show 0xC2 + (code / 64 - 2) = 0xC0 + code / 64 by omega] at continued
  have leading : leadingBits (0xC0 + code / 64).toUInt8 1 = code / 64 := by
    simp [leadingBits]
    omega
  rw [front_of_continuation (by omega) (by omega) continued, leading,
    continueWith_next (by omega), continueWith]
  congr 2
  omega

theorem front_three {code : Nat} (least : 0x800 ≤ code) (greatest : code < 0x10000)
    (scalar : code < 0xD800 ∨ 0xE000 ≤ code) (rest : List UInt8) :
    front (0xE0 + code / 4096).toUInt8
        ((0x80 + code / 64 % 64).toUInt8 :: (0x80 + code % 64).toUInt8 :: rest) =
      .character (Char.ofNat code) 3 := by
  have continued := continuation_three (code / 4096) (by omega)
  have leading : leadingBits (0xE0 + code / 4096).toUInt8 2 = code / 4096 := by
    simp [leadingBits]
    omega
  have above : (if code / 4096 = 0 then (0xA0 : UInt8) else 0x80).toNat ≤
      0x80 + code / 64 % 64 := by
    split
    · simp
      omega
    · exact Nat.le_add_right _ _
  have below : 0x80 + code / 64 % 64 ≤
      (if code / 4096 = 13 then (0x9F : UInt8) else 0xBF).toNat := by
    split <;> simp <;> omega
  rw [front_of_continuation (by omega) (by omega) continued, leading,
    continueWith_cons above below, continueWith_next (by omega), continueWith]
  congr 2
  omega

theorem front_four {code : Nat} (least : 0x10000 ≤ code) (greatest : code < 0x110000)
    (rest : List UInt8) :
    front (0xF0 + code / 262144).toUInt8
        ((0x80 + code / 4096 % 64).toUInt8 :: (0x80 + code / 64 % 64).toUInt8 ::
          (0x80 + code % 64).toUInt8 :: rest) =
      .character (Char.ofNat code) 4 := by
  have continued := continuation_four (code / 262144) (by omega)
  have leading : leadingBits (0xF0 + code / 262144).toUInt8 3 = code / 262144 := by
    simp [leadingBits]
    omega
  have above : (if code / 262144 = 0 then (0x90 : UInt8) else 0x80).toNat ≤
      0x80 + code / 4096 % 64 := by
    split
    · simp
      omega
    · exact Nat.le_add_right _ _
  have below : 0x80 + code / 4096 % 64 ≤
      (if code / 262144 = 4 then (0x8F : UInt8) else 0xBF).toNat := by
    split <;> simp <;> omega
  rw [front_of_continuation (by omega) (by omega) continued, leading,
    continueWith_cons above below, continueWith_next (by omega), continueWith_next (by omega),
    continueWith]
  congr 2
  omega

theorem exists_front (character : Char) (rest : List UInt8) :
    ∃ first behind, encodeChar character = first :: behind ∧
      front first (behind ++ rest) = .character character (behind.length + 1) := by
  have scalar : character.toNat < 0xD800 ∨ 0xDFFF < character.toNat ∧ character.toNat < 0x110000 :=
    character.valid
  rw [encodeChar]
  split
  · next narrow =>
    refine ⟨_, _, rfl, ?_⟩
    have value : character.toNat.toUInt8.toNat = character.toNat := by
      simp
      omega
    have alone : character.toNat.toUInt8 < 0x80 := by
      rw [UInt8.lt_iff_toNat_lt, value]
      exact narrow
    rw [front, if_pos alone, value, Char.ofNat_toNat]
    rfl
  · next wide =>
    split
    · next two =>
      refine ⟨_, _, rfl, (front_two (by omega) two rest).trans ?_⟩
      rw [Char.ofNat_toNat]
      rfl
    · split
      · next three =>
        refine ⟨_, _, rfl, (front_three (by omega) three (by omega) rest).trans ?_⟩
        rw [Char.ofNat_toNat]
        rfl
      · refine ⟨_, _, rfl, (front_four (by omega) (by omega) rest).trans ?_⟩
        rw [Char.ofNat_toNat]
        rfl

/-! ## Texts -/

theorem fronts_encode (characters : List Char) {fuel : Nat}
    (enough : (encode characters).length ≤ fuel) :
    fronts fuel (encode characters) =
      characters.map fun character => .character character (encodeChar character).length := by
  induction characters generalizing fuel with
  | nil => cases fuel <;> rfl
  | cons character characters induction =>
    rcases exists_front character (encode characters) with ⟨first, behind, encoded, read⟩
    have bytes : encode (character :: characters) = first :: (behind ++ encode characters) := by
      rw [encode, List.flatMap_cons, encoded]
      rfl
    rw [bytes] at enough ⊢
    cases fuel with
    | zero => cases enough
    | succ fuel =>
      have left : (behind ++ encode characters).drop (behind.length + 1 - 1) =
          encode characters := List.drop_left
      have fits : (encode characters).length ≤ fuel := by
        simp at enough
        omega
      simp only [fronts, read, left, induction fits, List.map_cons, encoded, List.length_cons]

theorem decode?_encode (characters : List Char) :
    decode? (encode characters) = some characters := by
  rw [decode?, fronts_encode characters (Nat.le_refl _), List.mapM_map]
  have kept := List.mapM_pure (m := Option) (l := characters) (f := id)
  rwa [List.map_id] at kept

theorem decodeLossy_encode (characters : List Char) :
    decodeLossy (encode characters) = characters := by
  rw [decodeLossy, fronts_encode characters (Nat.le_refl _), List.map_map]
  exact List.map_id characters

end SqlGateway.Text.Utf8
