import Diagnosis.Lint.Message
import Diagnosis.Proofs.Text.Utf8

/-!
# What applied fixes keep

A fix names a range by two signed offsets. `Fix.Covers f start stop` says that the range is the one
between two offsets counted from the start of the text.

`applyFixes_induction` is the one induction over the loop that applies fixes: a property of "the
rest of the text from an offset on" that holds of the text as it is, and is kept by each single fix,
holds of the result. Two properties are carried through it:

* **well-formedness** (`isText_applyFixes`): fixes whose ranges cut no character (`Fix.Fits`) leave
  a text a text;
* **the other bytes** (`filter_applyFixes`): fixes that replace bytes of a class by bytes of the
  class (`Fix.Within`) leave the bytes outside the class as they are, in their order.
-/

namespace Diagnosis.Text

variable {α : Type} {xs : List α}

/-- An offset that is not negative cuts off so many items. -/
lemma sliceFrom_ofNat (xs : List α) (i : Nat) : sliceFrom xs i = xs.drop i := by
  unfold sliceFrom clampOffset
  rw [if_neg (by omega), Int.toNat_natCast]
  rcases Nat.le_total i xs.length with h | h
  · rw [Nat.min_eq_left h]
  · rw [Nat.min_eq_right h, List.drop_length, List.drop_of_length_le h]

/-- Between two offsets that are not negative stands what a slice gives. -/
lemma slice_ofNat (xs : List α) (i j : Nat) : slice xs i j = between xs i j := by
  unfold slice clampOffset between
  dsimp only
  rw [if_neg (by omega), if_neg (by omega), Int.toNat_natCast, Int.toNat_natCast]
  rcases Nat.le_total i xs.length with h | h
  · rw [Nat.min_eq_left h, List.take_eq_take_iff, List.length_drop]
    omega
  · rw [Nat.min_eq_right h, List.drop_length, List.drop_of_length_le h]
    simp

/-- Between the ends of two stretches stands the second one. -/
lemma between_append (a b c : List α) :
    between (a ++ b ++ c) a.length (a.length + b.length) = b := by
  rw [between, List.append_assoc, List.drop_left, Nat.add_sub_cancel_left, List.take_left]

/-- What stands between two offsets, and what comes behind the second, is what comes behind the first. -/
lemma between_append_drop {i j : Nat} (h : i ≤ j) : between xs i j ++ xs.drop j = xs.drop i := by
  rw [between, show xs.drop j = (xs.drop i).drop (j - i) by rw [List.drop_drop]; congr 1; omega,
    List.take_append_drop]

end Diagnosis.Text

namespace Diagnosis.Lint

open Diagnosis.Text

/-- Whether the range of a fix lies between two offsets counted from the start of the text. -/
def Fix.Covers (f : Fix) (start stop : Nat) : Prop := f.start = start ∧ f.stop = stop

/-- Whether a fix replaces a range that cuts no character by a text. -/
def Fix.Fits (data : Bytes) (f : Fix) : Prop :=
  ∃ start stop, f.Covers start stop ∧ IsBoundary data start ∧ IsBoundary data stop ∧ IsText f.text

/-- Whether a fix replaces bytes of a class by bytes of the class. -/
def Fix.Within (p : UInt8 → Bool) (data : Bytes) (f : Fix) : Prop :=
  ∃ start stop, f.Covers start stop ∧ start ≤ stop ∧ stop ≤ data.length ∧
    (∀ b ∈ between data start stop, p b = true) ∧ ∀ b ∈ f.text, p b = true

section apply

variable {data : Bytes} {P : Nat → Bytes → Prop}

/-- What one fix does to what the later ones make of the rest of the text. -/
def Fix.Keeps (data : Bytes) (P : Nat → Bytes → Prop) (f : Fix) : Prop :=
  ∃ start stop, f.Covers start stop ∧
    ∀ cursor rest, cursor ≤ start → P stop rest → P cursor (between data cursor start ++ f.text ++ rest)

/-- What holds of the rest of a text at every offset and is kept by every fix, holds of the rest that is
fixed. -/
lemma applyFrom_induction (hrest : ∀ i, P i (data.drop i)) {fixes : List Fix}
    (hfix : ∀ f ∈ fixes, f.Keeps data P) {cursor : Nat} {lastStop : Int} (h : cursor ≤ lastStop + 1) :
    P cursor (applyFrom data cursor lastStop fixes).1 := by
  induction fixes generalizing cursor lastStop with
  | nil =>
    rw [applyFrom, sliceFrom_ofNat]
    exact hrest cursor
  | cons f fixes ih =>
    rw [applyFrom]
    have hfixes : ∀ f ∈ fixes, f.Keeps data P := fun g hg => hfix g (List.mem_cons_of_mem f hg)
    by_cases hskip : f.start ≤ lastStop
    · rw [if_pos hskip]
      exact ih hfixes h
    · rw [if_neg hskip]
      obtain ⟨start, stop, ⟨hstart, hstop⟩, hkeep⟩ := hfix f List.mem_cons_self
      rw [hstart, hstop, slice_ofNat]
      rw [hstart] at hskip
      exact hkeep cursor _ (by omega) (ih hfixes (by omega))

/-- **Induction over applied fixes.** A property of the rest of the text from an offset on that
holds of the text itself and is kept by every fix holds of the text with the fixes applied. -/
theorem applyFixes_induction {fixes : List Fix} (hrest : ∀ i, P i (data.drop i))
    (hfix : ∀ f ∈ fixes, f.Keeps data P) : P 0 (applyFixes data fixes).1 := by
  refine applyFrom_induction hrest (fun f hf => hfix f ?_) (by omega)
  exact List.mem_mergeSort.mp hf

end apply

/-- Fixes that cut no character leave a text a text. -/
theorem isText_applyFixes {data : Bytes} {fixes : List Fix} (hdata : IsText data)
    (h : ∀ f ∈ fixes, f.Fits data) : IsText (applyFixes data fixes).1 := by
  refine applyFixes_induction (P := fun i out => IsBoundary data i → IsText out)
    (fun i hi => hdata.drop hi) (fun f hf => ?_) (isBoundary_zero hdata)
  obtain ⟨start, stop, hf, hstart, hstop, htext⟩ := h f hf
  refine ⟨start, stop, hf, fun cursor rest hle hrest hcursor => ?_⟩
  exact ((isText_between hdata hcursor hstart hle).append htext).append (hrest hstop)

/-- Fixes within a class of bytes leave all other bytes as they are. -/
theorem filter_applyFixes {p : UInt8 → Bool} {data : Bytes} {fixes : List Fix}
    (h : ∀ f ∈ fixes, f.Within p data) :
    (applyFixes data fixes).1.filter (!p ·) = data.filter (!p ·) := by
  refine applyFixes_induction (P := fun i out => out.filter (!p ·) = (data.drop i).filter (!p ·))
    (fun i => rfl) (fun f hf => ?_)
  obtain ⟨start, stop, hf, hle, -, hrange, htext⟩ := h f hf
  refine ⟨start, stop, hf, fun cursor rest hcursor hrest => ?_⟩
  have hnone : ∀ bytes : Bytes, (∀ b ∈ bytes, p b = true) → bytes.filter (!p ·) = [] :=
    fun bytes hb => List.filter_eq_nil_iff.mpr fun b hmem => by simp [hb b hmem]
  calc (between data cursor start ++ f.text ++ rest).filter (!p ·)
      = (between data cursor start).filter (!p ·) ++ (data.drop stop).filter (!p ·) := by
        rw [List.filter_append, List.filter_append, hnone _ htext, hrest, List.append_nil]
    _ = (between data cursor start).filter (!p ·) ++ (data.drop start).filter (!p ·) := by
        rw [← between_append_drop hle, List.filter_append (between data start stop), hnone _ hrange,
          List.nil_append]
    _ = (data.drop cursor).filter (!p ·) := by
        rw [← List.filter_append, between_append_drop hcursor]

end Diagnosis.Lint
