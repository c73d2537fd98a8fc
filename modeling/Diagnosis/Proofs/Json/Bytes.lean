import Diagnosis.Proofs.Json.Limits
import Diagnosis.Proofs.Text.Utf8
import Diagnosis.Text.Encoding

/-!
# JSON texts as bytes

A request or an answer brings its JSON in bytes, whose encoding is told from the bytes. A fault of the
text that the bytes write is one of the reader of texts (`exists_codes_of_readBytes`), so the limits of
the reader mean for bytes what they mean for their text.

A text of characters below 128 other than zero is taken for UTF-8 and read as it stands
(`readBytes_encode`). What is refused as such a text is refused as bytes as well.
-/

namespace Diagnosis.Json

open Diagnosis.Text

variable {bytes : Bytes} {s : List Char}

/-! ## Faults -/

/-- A text that is refused is one that the bytes write. -/
lemma exists_codes_of_readBytes {fault : Fault} (h : readBytes bytes = .error (.unreadable fault)) :
    ∃ codes, (Encoding.detect bytes).decode bytes = .ok codes ∧
      readNested defaultNesting (spelled codes) = .error fault := by
  obtain h | ⟨codes, hcodes, h⟩ := bind_eq_error_iff.mp h
  · obtain ⟨_, _, h⟩ := mapError_eq_error_iff.mp h
    exact absurd h nofun
  obtain h | ⟨value, _, h⟩ := bind_eq_error_iff.mp h
  · obtain ⟨fault', hread, hfault⟩ := mapError_eq_error_iff.mp h
    obtain rfl := BytesFault.unreadable.inj hfault
    exact ⟨codes, mapError_eq_ok_iff.mp hcodes, hread⟩
  · exact absurd h nofun

/-! ## Characters below 128 -/

/-- Whether a text consists of characters below 128 other than zero. -/
def IsPlain (s : List Char) : Prop := ∀ c ∈ s, 0 < c.toNat ∧ c.toNat < 128

/-- A text is plain if its first character and the rest are. -/
lemma isPlain_cons {c : Char} : IsPlain (c :: s) ↔ (0 < c.toNat ∧ c.toNat < 128) ∧ IsPlain s :=
  List.forall_mem_cons

/-- Two texts are plain together if both are. -/
lemma isPlain_append {t : List Char} : IsPlain (s ++ t) ↔ IsPlain s ∧ IsPlain t :=
  List.forall_mem_append

/-- Digits are plain. -/
lemma isPlain_of_isDigit (h : ∀ c ∈ s, c.isDigit = true) : IsPlain s := by
  intro c hc
  obtain ⟨hzero, hnine⟩ := Char.isDigit_iff_toNat.mp (h c hc)
  exact ⟨Nat.lt_of_lt_of_le (by decide) hzero, Nat.lt_of_le_of_lt hnine (by decide)⟩

/-- Every character of a plain text is written as one byte. -/
lemma encode_eq_map (h : IsPlain s) : encode s = s.map fun c => UInt8.ofNat c.toNat := by
  induction s with
  | nil => rfl
  | cons c s ih =>
    obtain ⟨hc, hs⟩ := isPlain_cons.mp h
    have hone : String.utf8EncodeChar c = [UInt8.ofNat c.toNat] := by
      rw [String.utf8EncodeChar, if_pos]
      · rfl
      · exact Nat.le_of_lt_succ hc.2
    rw [encode_cons, hone, ih hs]
    rfl

/-- The number of an ASCII character is the number of its byte. -/
lemma toNat_ofNat_toNat {c : Char} (h : c.toNat < 128) : (UInt8.ofNat c.toNat).toNat = c.toNat := by
  rw [UInt8.toNat_ofNat']
  omega

/-- The bytes of such a text are below 128 and not zero either. -/
lemma mem_encode (h : IsPlain s) {b : UInt8} (hb : b ∈ encode s) : 0 < b.toNat ∧ b.toNat < 128 := by
  rw [encode_eq_map h, List.mem_map] at hb
  obtain ⟨c, hc, rfl⟩ := hb
  rw [toNat_ofNat_toNat (h c hc).2]
  exact h c hc

/-- Bytes below 128 other than zero are taken for UTF-8. -/
lemma detect_eq_utf8 (h : ∀ b ∈ bytes, 0 < b.toNat ∧ b.toNat < 128) :
    Encoding.detect bytes = .utf8 false := by
  have hne : ∀ b ∈ bytes, b ≠ 0 ∧ b ≠ 0xFF ∧ b ≠ 0xFE ∧ b ≠ 0xEF := by
    intro b hb
    have := h b hb
    refine ⟨?_, ?_, ?_, ?_⟩ <;> rintro rfl <;> simp at this
  unfold Encoding.detect Encoding.ofZeros
  repeat' split
  all_goals simp at hne ⊢

/-- Bytes below 128 write no lone surrogate. -/
lemma splitSurrogate_eq (h : ∀ b ∈ bytes, b.toNat < 128) : splitSurrogate bytes = (bytes, none) := by
  induction bytes with
  | nil => rfl
  | cons b rest ih =>
    obtain ⟨hb, hrest⟩ := List.forall_mem_cons.mp h
    have hnone : surrogateAt? (b :: rest) = none := by
      unfold surrogateAt?
      split
      case h_1 b' _ _ _ heq =>
        obtain rfl := (List.cons.inj heq).1
        refine if_neg ?_
        rintro ⟨rfl, -⟩
        exact absurd hb (by decide)
      case h_2 => rfl
    simp [splitSurrogate, hnone, ih hrest]

/-- A plain text is read strictly as it was written. -/
lemma decodeStrictFrom_encode (h : IsPlain s) (offset : Nat) :
    decodeStrictFrom offset (encode s) = .ok s := by
  rw [encode_eq_map h]
  induction s generalizing offset with
  | nil => rfl
  | cons c s ih =>
    obtain ⟨hc, hs⟩ := isPlain_cons.mp h
    have hb := toNat_ofNat_toNat hc.2
    rw [List.map_cons, decodeStrictFrom, Lead.of?_eq, hb, if_pos hc.2]
    dsimp only
    rw [if_pos rfl, ih hs, Char.ofNat_toNat]
    rfl

/-- As UTF-8, a plain text is read by the numbers of its characters. -/
lemma decode_utf8_encode (h : IsPlain s) :
    (Encoding.utf8 false).decode (encode s) = .ok (s.map (·.toNat)) := by
  have hsplit := splitSurrogate_eq fun b hb => (mem_encode h hb).2
  rw [Encoding.decode]
  simp only [Bool.false_eq_true, if_false, utf8Codes, hsplit, decodeStrictFrom_encode h]
  rfl

/-- Without lone surrogates nothing stands for another. -/
lemma substitutes_map_toNat (s : List Char) : substitutes (s.map (·.toNat)) = [] := by
  have hnone : (s.map (·.toNat)).filter isSurrogate = [] := by
    rw [List.filter_eq_nil_iff]
    intro n hn
    obtain ⟨c, -, rfl⟩ := List.mem_map.mp hn
    have hvalid := c.valid
    simp only [UInt32.isValidChar, Nat.isValidChar] at hvalid
    simp only [isSurrogate, isHighSurrogate, isLowSurrogate, Bool.or_eq_true, Bool.and_eq_true,
      decide_eq_true_eq, Char.toNat]
    omega
  rw [substitutes, hnone]
  rfl

/-- The numbers of the characters of a text spell the text. -/
lemma spelled_map_toNat (s : List Char) : spelled (s.map (·.toNat)) = s := by
  simp [spelled, substitutes_map_toNat, Function.comp_def]

/-- **A plain text is read as it stands.** -/
theorem readBytes_encode (h : IsPlain s) :
    readBytes (encode s) = (readNested defaultNesting s).mapError .unreadable := by
  have hdetect := detect_eq_utf8 fun b hb => mem_encode h hb
  rw [readBytes, hdetect, decode_utf8_encode h]
  change ((readNested defaultNesting (spelled (s.map (·.toNat)))).mapError BytesFault.unreadable >>= _) = _
  rw [spelled_map_toNat, substitutes_map_toNat]
  exact bind_pure _

end Diagnosis.Json
