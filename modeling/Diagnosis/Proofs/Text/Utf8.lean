import Diagnosis.Text.Slice
import Diagnosis.Text.Utf8
import Mathlib.Data.List.Basic
import Mathlib.Tactic.ByContra
import Mathlib.Tactic.SplitIfs

/-!
# UTF-8: writing, reading and cutting

* **Sequences.** A lead byte announces how many bytes follow and which range the first of them has. A
  sequence as announced is one character (`decode_sequence`), one that the end of the text breaks off is
  one replacement character (`decode_brokenOff`), and characters are written as such sequences
  (`exists_lead_utf8EncodeChar`).
* **Round trip** (`decode_encode`): reading gives back what was written, so the bytes of a text
  survive reading and writing (`IsText.encode_decode`).
* **Boundaries.** `IsBoundary data i` looks at one byte: an offset cuts no character when the text
  ends there or the byte there continues no sequence. In a text the boundaries are exactly the
  places between two characters (`IsBoundary.exists_eq_append`), so a text cut at boundaries falls
  into texts (`IsText.take`, `IsText.drop`, `isText_between`).
* **Small bytes.** A byte below 128 is a character of its own: there is a boundary before it
  (`isBoundary_of_ascii`) and after it (`IsText.isBoundary_succ`).

Of ill-formed bytes, only a sequence that is broken off is treated here.
-/

namespace Diagnosis.Text

/-! ## Lead bytes -/

/-- The announcement of a lead byte, by its number. -/
lemma Lead.of?_eq (b : UInt8) :
    Lead.of? b =
      if b.toNat < 128 then some { tail := 0, bits := b.toNat }
      else if b.toNat < 194 then none
      else if b.toNat < 224 then some { tail := 1, bits := b.toNat % 32 }
      else if b.toNat < 240 then some
        { tail := 2, lo := if b.toNat = 224 then 0xA0 else 0x80,
          hi := if b.toNat = 237 then 0x9F else 0xBF, bits := b.toNat % 16 }
      else if b.toNat < 245 then some
        { tail := 3, lo := if b.toNat = 240 then 0x90 else 0x80,
          hi := if b.toNat = 244 then 0x8F else 0xBF, bits := b.toNat % 8 }
      else none := by
  simp only [Lead.of?, UInt8.lt_iff_toNat_lt, ← UInt8.toNat_inj, UInt8.reduceToNat]
  grind

/-- Continuation bytes are those from 128 to 191. -/
lemma isContinuation_iff {b : UInt8} : isContinuation b = true ↔ 128 ≤ b.toNat ∧ b.toNat < 192 := by
  simp only [isContinuation, Bool.and_eq_true, decide_eq_true_eq, UInt8.le_iff_toNat_le,
    UInt8.reduceToNat]
  omega

/-- What is announced are three continuation bytes at most, by a byte that is none itself. A byte below
128 announces nothing. -/
structure Lead.IsSound (lead : Lead) (b : UInt8) : Prop where
  tail_le : lead.tail ≤ 3
  le_lo : 128 ≤ lead.lo.toNat
  hi_lt : lead.hi.toNat < 192
  not_continuation : isContinuation b = false
  alone : b.toNat < 128 → lead.tail = 0

/-- Lead bytes announce what they may. -/
lemma Lead.isSound_of_of? {b : UInt8} {lead : Lead} (h : Lead.of? b = some lead) : lead.IsSound b := by
  rw [Lead.of?_eq] at h
  have hcontinuation : isContinuation b = false := by
    rw [Bool.eq_false_iff, ne_eq, isContinuation_iff]
    rintro ⟨hge, hlt⟩
    rw [if_neg (by omega), if_pos (by omega)] at h
    cases h
  have halone : b.toNat < 128 → lead.tail = 0 := by
    intro hb
    rw [if_pos hb] at h
    obtain rfl := Option.some.inj h
    rfl
  split_ifs at h <;> obtain rfl := Option.some.inj h
  all_goals exact ⟨by simp, by simp, by simp, hcontinuation, halone⟩

/-- Whether bytes may follow a lead byte: the first of them is in the range that it gives, and the others
are continuation bytes. -/
def Lead.Admits (lead : Lead) : Bytes → Prop
  | [] => True
  | b :: rest => (lead.lo ≤ b ∧ b ≤ lead.hi) ∧ ∀ x ∈ rest, isContinuation x = true

/-- What may follow a lead byte are continuation bytes, the first one included. -/
lemma Lead.Admits.isContinuation {b x : UInt8} {lead : Lead} {tail : Bytes} (h : lead.Admits tail)
    (hlead : Lead.of? b = some lead) (hx : x ∈ tail) : isContinuation x = true := by
  cases tail with
  | nil => cases hx
  | cons b₁ tail =>
    obtain ⟨⟨hlo, hhi⟩, htail⟩ := h
    rcases List.mem_cons.mp hx with rfl | hx
    · have hsound := Lead.isSound_of_of? hlead
      rw [isContinuation_iff]
      rw [UInt8.le_iff_toNat_le] at hlo hhi
      exact ⟨Nat.le_trans hsound.le_lo hlo, Nat.lt_of_le_of_lt hhi hsound.hi_lt⟩
    · exact htail x hx

/-- Bytes that may follow a lead byte may be broken off. -/
lemma Lead.Admits.take {lead : Lead} {tail : Bytes} (h : lead.Admits tail) (k : Nat) :
    lead.Admits (tail.take k) := by
  cases tail with
  | nil => simp [Lead.Admits]
  | cons b tail =>
    cases k with
    | zero => trivial
    | succ k => exact ⟨h.1, fun x hx => h.2 x (List.mem_of_mem_take hx)⟩

section sequences

variable {b : UInt8} {lead : Lead} {tail : Bytes}

/-- **A whole sequence** is read as one character. -/
lemma decode_sequence (hlead : Lead.of? b = some lead) (h : lead.Admits tail)
    (hlength : tail.length = lead.tail) (rest : Bytes) :
    decode (b :: (tail ++ rest)) = Char.ofNat (tail.foldl addBits lead.bits) :: decode rest := by
  have hle := (Lead.isSound_of_of? hlead).tail_le
  match tail with
  | [] => simp [decode, hlead, ← hlength]
  | [b₁] =>
    obtain ⟨hrange, -⟩ := h
    simp [decode, hlead, ← hlength, hrange]
  | [b₁, b₂] =>
    obtain ⟨hrange, htail⟩ := h
    simp [decode, hlead, ← hlength, hrange, htail b₂]
  | [b₁, b₂, b₃] =>
    obtain ⟨hrange, htail⟩ := h
    simp [decode, hlead, ← hlength, hrange, htail b₂, htail b₃]
  | _ :: _ :: _ :: _ :: _ =>
    simp only [List.length_cons] at hlength
    omega

/-- **A sequence that is broken off** by the end of the text is read as one replacement character. -/
lemma decode_brokenOff (hlead : Lead.of? b = some lead) (h : lead.Admits tail)
    (hlength : tail.length < lead.tail) : decode (b :: tail) = [replacement] := by
  have hle := (Lead.isSound_of_of? hlead).tail_le
  match tail with
  | [] =>
    have hzero : lead.tail ≠ 0 := Nat.ne_of_gt hlength
    simp [decode, hlead, hzero]
  | [b₁] =>
    obtain ⟨hrange, -⟩ := h
    have hone : 1 < lead.tail := hlength
    simp [decode, hlead, hrange, Nat.ne_of_gt hone, Nat.ne_of_gt (Nat.lt_of_succ_lt hone)]
  | [b₁, b₂] =>
    obtain ⟨hrange, htail⟩ := h
    have hthree : lead.tail = 3 := Nat.le_antisymm hle hlength
    simp [decode, hlead, hrange, hthree, htail b₂]
  | _ :: _ :: _ :: _ =>
    simp only [List.length_cons] at hlength
    omega

end sequences

/-! ## Round trip -/

/-- A small sum is kept by a byte. -/
lemma toNat_ofNat_add (n m : Nat) (h : n + m < 256) : (UInt8.ofNat (n + m)).toNat = n + m := by
  rw [UInt8.toNat_ofNat']
  exact Nat.mod_eq_of_lt h

/-- A byte that a character writes after its first one continues the sequence. -/
lemma isContinuation_tail (n : Nat) : isContinuation (UInt8.ofNat (n % 64 + 128)) = true := by
  rw [isContinuation_iff, toNat_ofNat_add _ _ (by omega)]
  omega

/-- The payload of a continuation byte is added to what was read before. -/
lemma addBits_tail (acc n : Nat) : addBits acc (UInt8.ofNat (n % 64 + 128)) = acc * 64 + n % 64 := by
  rw [addBits, toNat_ofNat_add _ _ (by omega)]
  omega

/-- A byte is in a range if its number is. -/
lemma admits_cons {lo hi : UInt8} {n : Nat} {tail bits : Nat} {rest : Bytes} (hlo : lo.toNat ≤ n + 128)
    (hhi : n + 128 ≤ hi.toNat) (hrest : ∀ x ∈ rest, isContinuation x = true) :
    ({ tail, lo, hi, bits } : Lead).Admits (UInt8.ofNat (n + 128) :: rest) := by
  have hn := toNat_ofNat_add n 128 (Nat.lt_of_le_of_lt hhi hi.toNat_lt)
  refine ⟨⟨?_, ?_⟩, hrest⟩
  · rwa [UInt8.le_iff_toNat_le, hn]
  · rwa [UInt8.le_iff_toNat_le, hn]

/-- **The bytes of a character** are a lead byte and a sequence as it announces it, and their payload is
the number of the character. -/
theorem exists_lead_utf8EncodeChar (c : Char) : ∃ b lead tail, String.utf8EncodeChar c = b :: tail ∧
    Lead.of? b = some lead ∧ lead.Admits tail ∧ tail.length = lead.tail ∧
    tail.foldl addBits lead.bits = c.toNat := by
  have hv := c.valid
  simp only [UInt32.isValidChar, Nat.isValidChar] at hv
  -- the ranges of the second byte rule out the numbers that a shorter sequence has, the surrogates
  -- and the numbers past the last character
  fun_cases String.utf8EncodeChar c with
  | case1 v h =>
    have hb : (UInt8.ofNat v).toNat = v := toNat_ofNat_add v 0 (by omega)
    refine ⟨_, { tail := 0, bits := v }, _, rfl, ?_, trivial, rfl, rfl⟩
    rw [Lead.of?_eq, hb, if_pos (by omega)]
  | case2 v h₁ h₂ =>
    have hb := toNat_ofNat_add (v / 64 % 32) 192 (by omega)
    have hlead := Lead.of?_eq (UInt8.ofNat (v / 64 % 32 + 192))
    rw [hb, if_neg (by omega), if_neg (by omega), if_pos (by omega)] at hlead
    refine ⟨_, _, _, rfl, hlead, admits_cons ?_ ?_ (List.forall_mem_nil _), rfl, ?_⟩
    · simp
    · simp
      omega
    · rw [List.foldl_cons, List.foldl_nil, addBits_tail]
      change (v / 64 % 32 + 192) % 32 * 64 + v % 64 = v
      omega
  | case3 v h₁ h₂ h₃ =>
    have hb := toNat_ofNat_add (v / 4096 % 16) 224 (by omega)
    have hlead := Lead.of?_eq (UInt8.ofNat (v / 4096 % 16 + 224))
    rw [hb, if_neg (by omega), if_neg (by omega), if_neg (by omega), if_pos (by omega)] at hlead
    have htail : ∀ x ∈ [UInt8.ofNat (v % 64 + 128)], isContinuation x = true := by
      rw [List.forall_mem_singleton]
      exact isContinuation_tail v
    refine ⟨_, _, _, rfl, hlead, admits_cons ?_ ?_ htail, rfl, ?_⟩
    · split <;> simp
      omega
    · split <;> simp <;> omega
    · rw [List.foldl_cons, List.foldl_cons, List.foldl_nil, addBits_tail, addBits_tail]
      change ((v / 4096 % 16 + 224) % 16 * 64 + v / 64 % 64) * 64 + v % 64 = v
      omega
  | case4 v h₁ h₂ h₃ =>
    have hb := toNat_ofNat_add (v / 262144 % 8) 240 (by omega)
    have hlead := Lead.of?_eq (UInt8.ofNat (v / 262144 % 8 + 240))
    rw [hb, if_neg (by omega), if_neg (by omega), if_neg (by omega), if_neg (by omega),
      if_pos (by omega)] at hlead
    have htail : ∀ x ∈ [UInt8.ofNat (v / 64 % 64 + 128), UInt8.ofNat (v % 64 + 128)],
        isContinuation x = true := by
      rw [List.forall_mem_cons, List.forall_mem_singleton]
      exact ⟨isContinuation_tail (v / 64), isContinuation_tail v⟩
    refine ⟨_, _, _, rfl, hlead, admits_cons ?_ ?_ htail, rfl, ?_⟩
    · split <;> simp
      omega
    · split <;> simp <;> omega
    · rw [List.foldl_cons, List.foldl_cons, List.foldl_cons, List.foldl_nil, addBits_tail, addBits_tail,
        addBits_tail]
      change (((v / 262144 % 8 + 240) % 8 * 64 + v / 4096 % 64) * 64 + v / 64 % 64) * 64 + v % 64 = v
      omega

/-- Reading gives back a character that was written. -/
lemma decode_utf8EncodeChar_append (c : Char) (rest : Bytes) :
    decode (String.utf8EncodeChar c ++ rest) = c :: decode rest := by
  obtain ⟨b, lead, tail, hc, hlead, hadmits, hlength, hbits⟩ := exists_lead_utf8EncodeChar c
  rw [hc, List.cons_append, decode_sequence hlead hadmits hlength, hbits, Char.ofNat_toNat]

/-- Reading gives back what was written. -/
theorem decode_encode (s : List Char) : decode (encode s) = s := by
  induction s with
  | nil => rfl
  | cons c s ih => rw [encode, List.flatMap_cons, decode_utf8EncodeChar_append, ← encode, ih]

/-! ## Texts and their boundaries -/

/-- Whether bytes are well-formed. -/
def IsText (data : Bytes) : Prop := ∃ s, data = encode s

/-- Whether no character is cut at an offset: the text ends there, or a byte stands there that
continues no sequence. -/
def IsBoundary (data : Bytes) (i : Nat) : Prop :=
  i = data.length ∨ ∃ b, data[i]? = some b ∧ isContinuation b = false

instance (data : Bytes) (i : Nat) : Decidable (IsBoundary data i) :=
  decidable_of_iff (i = data.length ∨ data[i]?.map isContinuation = some false)
    (by simp [IsBoundary])

/-- Two texts are written one after the other. -/
lemma encode_append (s t : List Char) : encode (s ++ t) = encode s ++ encode t :=
  List.flatMap_append

/-- A text is written character by character. -/
lemma encode_cons (c : Char) (s : List Char) :
    encode (c :: s) = String.utf8EncodeChar c ++ encode s := rfl

/-- What is written is a text. -/
lemma isText_encode (s : List Char) : IsText (encode s) := ⟨s, rfl⟩

/-- No bytes are a text. -/
lemma isText_nil : IsText [] := ⟨[], rfl⟩

/-- Two texts make a text. -/
lemma IsText.append {a b : Bytes} (ha : IsText a) (hb : IsText b) : IsText (a ++ b) := by
  obtain ⟨s, rfl⟩ := ha
  obtain ⟨t, rfl⟩ := hb
  exact ⟨s ++ t, (encode_append s t).symm⟩

/-- Reading and writing a text again changes nothing. -/
theorem IsText.encode_decode {data : Bytes} (h : IsText data) : encode (decode data) = data := by
  obtain ⟨s, rfl⟩ := h
  rw [decode_encode]

/-- Bytes below 128 are a text. -/
lemma isText_of_ascii {data : Bytes} (h : ∀ b ∈ data, b.toNat < 128) : IsText data := by
  induction data with
  | nil => exact isText_nil
  | cons b data ih =>
    have hb : b.toNat < 128 := h b List.mem_cons_self
    have hc : (Char.ofNat b.toNat).val.toNat = b.toNat := by
      rw [Char.ofNat, dif_pos (by simp [Nat.isValidChar]; omega)]
      rfl
    have hone : IsText [b] := by
      refine ⟨[Char.ofNat b.toNat], ?_⟩
      rw [encode_cons, String.utf8EncodeChar, hc, if_pos (by omega)]
      simp [encode]
    exact hone.append (ih fun x hx => h x (List.mem_cons_of_mem _ hx))

/-- The bytes of a character begin with a byte that continues nothing; all others do. -/
lemma utf8EncodeChar_eq_cons (c : Char) : ∃ b tail, String.utf8EncodeChar c = b :: tail ∧
    isContinuation b = false ∧ (∀ x ∈ tail, isContinuation x = true) ∧
    (b.toNat < 128 → tail = []) := by
  obtain ⟨b, lead, tail, hc, hlead, hadmits, hlength, -⟩ := exists_lead_utf8EncodeChar c
  have hsound := Lead.isSound_of_of? hlead
  refine ⟨b, tail, hc, hsound.not_continuation, fun x => hadmits.isContinuation hlead, fun hb => ?_⟩
  exact List.length_eq_zero_iff.mp (hlength.trans (hsound.alone hb))

/-- A boundary of a text lies between two of its characters. -/
theorem IsBoundary.exists_eq_append {s : List Char} {i : Nat} (h : IsBoundary (encode s) i) :
    ∃ before after, s = before ++ after ∧ (encode before).length = i := by
  induction s generalizing i with
  | nil =>
    obtain rfl | ⟨b, hb, -⟩ := h
    · exact ⟨[], [], rfl, rfl⟩
    · simp [encode] at hb
  | cons c s ih =>
    obtain ⟨b, tail, hc, hb, htail, -⟩ := utf8EncodeChar_eq_cons c
    rcases Nat.eq_zero_or_pos i with rfl | hi
    · exact ⟨[], c :: s, rfl, rfl⟩
    rw [encode_cons, hc] at h
    have hlen : tail.length < i := by
      obtain rfl | ⟨x, hx, hxc⟩ := h
      · rw [List.length_append, List.length_cons]
        omega
      · by_contra hlt
        obtain ⟨j, rfl⟩ : ∃ j, i = j + 1 := ⟨i - 1, by omega⟩
        rw [List.cons_append, List.getElem?_cons_succ, List.getElem?_append_left (by omega)] at hx
        rw [htail x (List.mem_of_getElem? hx)] at hxc
        exact Bool.noConfusion hxc
    have hrest : IsBoundary (encode s) (i - (tail.length + 1)) := by
      obtain rfl | ⟨x, hx, hxc⟩ := h
      · left
        simp
      · right
        refine ⟨x, ?_, hxc⟩
        rwa [List.getElem?_append_right (by simp; omega), List.length_cons] at hx
    obtain ⟨before, after, rfl, hlen'⟩ := ih hrest
    refine ⟨c :: before, after, rfl, ?_⟩
    rw [encode_cons, hc, List.length_append, List.length_cons, hlen']
    omega

/-- Between two texts there is a boundary. -/
lemma isBoundary_length {a b : Bytes} (hb : IsText b) : IsBoundary (a ++ b) a.length := by
  obtain ⟨s, rfl⟩ := hb
  cases s with
  | nil =>
    left
    simp [encode]
  | cons c s =>
    obtain ⟨x, tail, hc, hx, -, -⟩ := utf8EncodeChar_eq_cons c
    right
    exact ⟨x, by simp [encode_cons, hc], hx⟩

section boundary

variable {data : Bytes} {i j : Nat}

/-- A boundary is no further than the end. -/
lemma IsBoundary.le (h : IsBoundary data i) : i ≤ data.length := by
  obtain rfl | ⟨b, hb, -⟩ := h
  · exact Nat.le_refl _
  · exact Nat.le_of_lt (List.getElem?_eq_some_iff.mp hb).1

/-- What comes before a boundary is a text. -/
lemma IsText.take (h : IsText data) (hi : IsBoundary data i) : IsText (data.take i) := by
  obtain ⟨s, rfl⟩ := h
  obtain ⟨before, after, rfl, rfl⟩ := hi.exists_eq_append
  rw [encode_append, List.take_left]
  exact isText_encode before

/-- What comes behind a boundary is a text. -/
lemma IsText.drop (h : IsText data) (hi : IsBoundary data i) : IsText (data.drop i) := by
  obtain ⟨s, rfl⟩ := h
  obtain ⟨before, after, rfl, rfl⟩ := hi.exists_eq_append
  rw [encode_append, List.drop_left]
  exact isText_encode after

/-- Without the bytes before an offset, later boundaries are still boundaries. -/
lemma IsBoundary.drop (h : IsBoundary data j) (hij : i ≤ j) : IsBoundary (data.drop i) (j - i) := by
  obtain rfl | ⟨b, hb, hbc⟩ := h
  · left
    simp
  · right
    exact ⟨b, by rwa [List.getElem?_drop, Nat.add_sub_cancel' hij], hbc⟩

/-- Between two boundaries stands a text. -/
lemma isText_between (h : IsText data) (hi : IsBoundary data i) (hj : IsBoundary data j)
    (hij : i ≤ j) : IsText (between data i j) :=
  (h.drop hi).take (hj.drop hij)

/-- A byte below 128 is a character of its own. -/
lemma isBoundary_of_ascii {b : UInt8} (hb : data[i]? = some b) (hlt : b.toNat < 128) :
    IsBoundary data i := by
  refine .inr ⟨b, hb, ?_⟩
  rw [Bool.eq_false_iff, ne_eq, isContinuation_iff]
  omega

/-- A byte below 128 ends at a boundary. -/
lemma IsText.isBoundary_succ (h : IsText data) {b : UInt8} (hb : data[i]? = some b)
    (hlt : b.toNat < 128) : IsBoundary data (i + 1) := by
  have hi := isBoundary_of_ascii hb hlt
  obtain ⟨s, rfl⟩ := h
  obtain ⟨before, after, rfl, rfl⟩ := hi.exists_eq_append
  rw [encode_append, List.getElem?_append_right (Nat.le_refl _), Nat.sub_self] at hb
  cases after with
  | nil => simp [encode] at hb
  | cons c after =>
    obtain ⟨x, tail, hc, -, -, hx⟩ := utf8EncodeChar_eq_cons c
    rw [encode_cons, hc, List.cons_append, List.getElem?_cons_zero, Option.some.injEq] at hb
    subst hb
    have hsplit : encode (before ++ c :: after) = (encode before ++ [x]) ++ encode after := by
      rw [encode_append, encode_cons, hc, hx hlt]
      simp
    rw [hsplit, show (encode before).length + 1 = (encode before ++ [x]).length by simp]
    exact isBoundary_length (isText_encode after)

/-- A stretch of bytes below 128 ends at a boundary when it begins at one. -/
lemma IsText.isBoundary_of_between (h : IsText data) (hi : IsBoundary data i) (hij : i ≤ j)
    (hj : j ≤ data.length) (hlt : ∀ b ∈ between data i j, b.toNat < 128) : IsBoundary data j := by
  rcases Nat.eq_or_lt_of_le hij with rfl | hij
  · exact hi
  obtain ⟨k, rfl⟩ : ∃ k, j = k + 1 := ⟨j - 1, by omega⟩
  refine h.isBoundary_succ (List.getElem?_eq_getElem hj) (hlt _ (List.mem_of_getElem? (i := k - i) ?_))
  rw [between, List.getElem?_take, if_pos (by omega), List.getElem?_drop,
    Nat.add_sub_cancel' (by omega), List.getElem?_eq_getElem]

/-- A text begins at a boundary. -/
lemma isBoundary_zero (h : IsText data) : IsBoundary data 0 := isBoundary_length (a := []) h

/-- Bytes end at a boundary. -/
lemma isBoundary_end : IsBoundary data data.length := .inl rfl

end boundary

end Diagnosis.Text
