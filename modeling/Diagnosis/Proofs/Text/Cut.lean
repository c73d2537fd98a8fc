import Diagnosis.Proofs.Text.Utf8

/-!
# Cut texts

A text that is cut at any offset, be it inside a character. A cut character leaves one replacement
character (`decode_take_utf8EncodeChar`), so a longer stretch of a text never has fewer characters
(`IsText.length_decode_take_mono`), and none has more than the text (`IsText.length_decode_take_le`).

A line feed is a byte of its own in every text: no other character is written with it
(`not_mem_utf8EncodeChar_of_ne`).
-/

namespace Diagnosis.Text

/-! ## Characters that are broken off -/

/-- What is left of a character that is cut reads as one replacement character. -/
lemma decode_take_utf8EncodeChar (c : Char) {k : Nat} (hpos : 0 < k)
    (hk : k < (String.utf8EncodeChar c).length) :
    decode ((String.utf8EncodeChar c).take k) = [replacement] := by
  obtain ⟨b, lead, tail, hc, hlead, hadmits, hlength, -⟩ := exists_lead_utf8EncodeChar c
  obtain ⟨k, rfl⟩ : ∃ j, k = j + 1 := ⟨k - 1, by omega⟩
  rw [hc, List.length_cons] at hk
  rw [hc, List.take_succ_cons]
  refine decode_brokenOff hlead (hadmits.take k) ?_
  rw [List.length_take]
  omega

/-! ## Counting the characters of a stretch -/

/-- A stretch that begins with a character has one more than what follows the character; also if it
ends inside the character. -/
lemma length_decode_take_encode_cons (c : Char) (s : List Char) {k : Nat} (hpos : 0 < k) :
    (decode ((encode (c :: s)).take k)).length =
      (decode ((encode s).take (k - (String.utf8EncodeChar c).length))).length + 1 := by
  rw [encode_cons, List.take_append]
  by_cases hk : k < (String.utf8EncodeChar c).length
  · rw [Nat.sub_eq_zero_of_le (Nat.le_of_lt hk), List.take_zero, List.append_nil,
      decode_take_utf8EncodeChar c hpos hk]
    rfl
  · rw [List.take_of_length_le (Nat.le_of_not_lt hk), decode_utf8EncodeChar_append]
    rfl

section stretch

variable {data : Bytes} {j k : Nat}

/-- **A longer stretch of a text has no fewer characters.** -/
theorem IsText.length_decode_take_mono (h : IsText data) (hjk : j ≤ k) :
    (decode (data.take j)).length ≤ (decode (data.take k)).length := by
  obtain ⟨s, rfl⟩ := h
  induction s generalizing j k with
  | nil => simp [encode]
  | cons c s ih =>
    rcases Nat.eq_zero_or_pos j with rfl | hj
    · simp [decode]
    · rw [length_decode_take_encode_cons c s hj, length_decode_take_encode_cons c s (by omega)]
      have hrest := ih (Nat.sub_le_sub_right hjk (String.utf8EncodeChar c).length)
      omega

/-- No stretch of a text has more characters than the text. -/
lemma IsText.length_decode_take_le (h : IsText data) (k : Nat) :
    (decode (data.take k)).length ≤ (decode data).length := by
  have hfull : data.take (max k data.length) = data := List.take_of_length_le (Nat.le_max_right _ _)
  have hle := h.length_decode_take_mono (Nat.le_max_left k data.length)
  rwa [hfull] at hle

end stretch

/-! ## Bytes of small characters -/

/-- A byte below 128 is written for one character only, and alone. -/
lemma utf8EncodeChar_eq_of_mem {b : UInt8} (hb : b.toNat < 128) {c : Char}
    (h : b ∈ String.utf8EncodeChar c) : String.utf8EncodeChar c = [b] := by
  obtain ⟨x, tail, hc, -, htail, hsmall⟩ := utf8EncodeChar_eq_cons c
  rw [hc] at h ⊢
  rcases List.mem_cons.mp h with rfl | h
  · rw [hsmall hb]
  · have hcontinues := isContinuation_iff.mp (htail b h)
    omega

/-- Only a line feed is written with the byte of one. -/
lemma not_mem_utf8EncodeChar_of_ne {c : Char} (hc : c ≠ '\n') :
    (10 : UInt8) ∉ String.utf8EncodeChar c := by
  intro hmem
  have hbytes := utf8EncodeChar_eq_of_mem (by decide) hmem
  have hread := decode_utf8EncodeChar_append c []
  rw [hbytes] at hread
  exact hc (List.cons.inj hread).1.symm

end Diagnosis.Text
