import SqlGateway.Proofs.Text.Utf8
import SqlGateway.Url.Percent

/-!
# Reading back what was percent-encoded

What was encoded is decoded to the same text, as long as the percent sign itself is not kept
(`decode_encode`). The encoded text is the text itself exactly if every character of it is kept
(`encode_eq_self_iff`).
-/

namespace SqlGateway.Url.Percent

theorem hexValue?_digit : ∀ value < 16, Text.hexValue? (digit value) = some value := by decide

theorem isAlphanum_digit : ∀ value < 16, (digit value).isAlphanum = true := by decide

theorem decodeBytes_encodeByte (byte : UInt8) (rest : List Char) :
    decodeBytes (encodeByte byte ++ rest) = byte :: decodeBytes rest := by
  have small := byte.toNat_lt
  have high := hexValue?_digit (byte.toNat / 16) (by omega)
  have low := hexValue?_digit (byte.toNat % 16) (by omega)
  have whole : byte.toNat / 16 * 16 + byte.toNat % 16 = byte.toNat := by omega
  simp only [encodeByte, List.cons_append, List.nil_append, decodeBytes, high, low, whole]
  congr 1
  exact UInt8.ofNat_toNat

theorem decodeBytes_encodeBytes (bytes : List UInt8) (rest : List Char) :
    decodeBytes (bytes.flatMap encodeByte ++ rest) = bytes ++ decodeBytes rest := by
  induction bytes with
  | nil => rfl
  | cons byte bytes induction =>
    rw [List.flatMap_cons, List.append_assoc, decodeBytes_encodeByte, induction, List.cons_append]

theorem decodeBytes_cons_of_ne {character : Char} (other : character ≠ '%') (rest : List Char) :
    decodeBytes (character :: rest) = Text.Utf8.encodeChar character ++ decodeBytes rest := by
  rw [decodeBytes]
  rintro high low rest same
  exact absurd same other

section Keep

variable {keep : Char → Bool}

theorem encode_cons_of_keep {character : Char} (kept : keep character = true) (rest : List Char) :
    encode keep (character :: rest) = character :: encode keep rest := by
  simp [encode, kept]

theorem encode_cons_of_not_keep {character : Char} (written : keep character = false)
    (rest : List Char) :
    encode keep (character :: rest) =
      (Text.Utf8.encodeChar character).flatMap encodeByte ++ encode keep rest := by
  simp [encode, written]

theorem decode_encode (percent : keep '%' = false) (text : List Char) :
    decode (encode keep text) = String.ofList text := by
  have bytes : decodeBytes (encode keep text) = Text.Utf8.encode text := by
    induction text with
    | nil => rfl
    | cons character rest induction =>
      rw [Text.Utf8.encode, List.flatMap_cons]
      cases kept : keep character with
      | true =>
        have other : character ≠ '%' := by
          rintro rfl
          simp [percent] at kept
        rw [encode_cons_of_keep kept, decodeBytes_cons_of_ne other, induction]
        rfl
      | false =>
        rw [encode_cons_of_not_keep kept, decodeBytes_encodeBytes, induction]
        rfl
  rw [decode, bytes, Text.Utf8.decodeLossy_encode]

theorem encode_of_forall_keep {text : List Char}
    (kept : ∀ character ∈ text, keep character = true) : encode keep text = text := by
  induction text with
  | nil => rfl
  | cons character rest induction =>
    rw [List.forall_mem_cons] at kept
    rw [encode_cons_of_keep kept.1, induction kept.2]

theorem mem_encode {text : List Char} {character : Char} (member : character ∈ encode keep text) :
    keep character = true ∨ character = '%' ∨ character.isAlphanum = true := by
  rcases List.mem_flatMap.mp member with ⟨source, -, member⟩
  split at member
  · next kept =>
    rw [List.mem_singleton] at member
    exact .inl (member ▸ kept)
  · rcases List.mem_flatMap.mp member with ⟨byte, -, member⟩
    have small := byte.toNat_lt
    simp only [encodeByte, List.mem_cons, List.not_mem_nil, or_false] at member
    rcases member with rfl | rfl | rfl
    · exact .inr (.inl rfl)
    · exact .inr (.inr (isAlphanum_digit _ (by omega)))
    · exact .inr (.inr (isAlphanum_digit _ (by omega)))

theorem length_encode_cons_of_not_keep {character : Char} (written : keep character = false)
    (rest : List Char) :
    (encode keep rest).length + 3 ≤ (encode keep (character :: rest)).length := by
  rcases Text.Utf8.exists_front character [] with ⟨first, behind, bytes, -⟩
  rw [encode_cons_of_not_keep written, bytes, List.flatMap_cons]
  simp [encodeByte]

theorem length_le_length_encode (text : List Char) : text.length ≤ (encode keep text).length := by
  induction text with
  | nil => exact Nat.le_refl 0
  | cons character rest induction =>
    cases kept : keep character with
    | true =>
      rw [encode_cons_of_keep kept]
      exact Nat.succ_le_succ induction
    | false =>
      have longer := length_encode_cons_of_not_keep kept rest
      rw [List.length_cons]
      omega

theorem encode_eq_self_iff {text : List Char} :
    encode keep text = text ↔ ∀ character ∈ text, keep character = true := by
  refine ⟨?_, encode_of_forall_keep⟩
  induction text with
  | nil => simp
  | cons character rest induction =>
    intro same
    cases kept : keep character with
    | true =>
      rw [encode_cons_of_keep kept, List.cons_inj_right] at same
      exact List.forall_mem_cons.mpr ⟨kept, induction same⟩
    | false =>
      have longer := length_encode_cons_of_not_keep kept rest
      have least : rest.length ≤ (encode keep rest).length := length_le_length_encode rest
      rw [same, List.length_cons] at longer
      omega

end Keep

end SqlGateway.Url.Percent
