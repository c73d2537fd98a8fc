import Diagnosis.Proofs.Secret.Redaction

/-!
# Detection and redaction

Every secret holds a character that placeholders do not hold (`escapes_of_mem`). The number of such
characters goes down with each secret that is replaced and never goes up (`foreign_replace_lt`,
`foreign_redactAll_le`), so what one form has changed no later form changes back.

* **A text is left alone exactly when nothing is found in it** (`redactAll_eq_self_iff`).
* **Detection and redaction agree** (`redact_unchanged_iff`): a text comes back as it was if no secret is
  detected in it, and never if one is.
-/

namespace Diagnosis.Secret

open Diagnosis.Text Diagnosis.Pattern Diagnosis.Pattern.Regex

variable {f : Form} {fs : List Form} {s m : List Char}

/-! ## Characters that placeholders do not hold -/

/-- Every secret holds a character that placeholders do not hold. -/
lemma escapes_of_mem : ∀ f ∈ forms, f.regex.escapes placeholderChars = true := by decide

/-- The number of characters that placeholders do not hold. Every secret that is replaced takes one
of them away, and none comes in. -/
def foreign (s : List Char) : Nat := s.countP fun c => decide (c ∉ placeholderChars)

/-- A placeholder has no foreign characters. -/
lemma foreign_placeholderChars : foreign placeholderChars = 0 := by decide

/-- Every secret has one. -/
lemma foreign_pos (hf : f ∈ forms) (hm : f.regex.Describes m) : 0 < foreign m := by
  rcases exists_not_mem_of_escapes (escapes_of_mem f hf) hm with ⟨c, hc, hout⟩
  exact List.countP_pos_iff.mpr ⟨c, hc, decide_eq_true hout⟩

/-- Replacing secrets leaves fewer foreign characters. -/
lemma foreign_replace_lt (hf : f ∈ forms) (h : f.regex.occursIn s = true) :
    foreign (f.regex.replace (fun _ => placeholderChars) s) < foreign s := by
  have hapart := apart_of_mem hf
  have hps := cuts_pieces hapart.isLocal hapart.notNullable s
  rcases occursIn_eq_true_iff.mp h with ⟨x, hx⟩
  have hlt := countP_render_lt foreign_placeholderChars hx
    (foreign_pos hf (hps.describes_of_mem hx))
  rwa [hps.flatMap_text, ← replace_eq] at hlt

/-- Where a form does not occur, nothing is replaced. -/
lemma Form.Apart.replace_eq_self (hf : f.Apart) (h : f.regex.occursIn s = false) :
    f.regex.replace (fun _ => placeholderChars) s = s :=
  Regex.replace_eq_self h hf.isLocal hf.notNullable _

/-- Redaction never adds a foreign character. -/
lemma foreign_redactAll_le (hfs : ∀ f ∈ fs, f ∈ forms) (s : List Char) :
    foreign (redactAll fs s) ≤ foreign s := by
  induction fs generalizing s with
  | nil => exact Nat.le_refl _
  | cons f fs ih =>
    have hf := hfs f List.mem_cons_self
    have hrest := ih (fun g hg => hfs g (List.mem_cons_of_mem f hg))
      (f.regex.replace (fun _ => placeholderChars) s)
    refine Nat.le_trans hrest ?_
    cases h : f.regex.occursIn s with
    | true => exact (foreign_replace_lt hf h).le
    | false => rw [(apart_of_mem hf).replace_eq_self h]

/-! ## Nothing to find, nothing to change -/

/-- **A text is left alone exactly when nothing is found in it.** -/
theorem redactAll_eq_self_iff (hfs : ∀ f ∈ fs, f ∈ forms) :
    redactAll fs s = s ↔ ∀ f ∈ fs, f.regex.occursIn s = false := by
  induction fs generalizing s with
  | nil => simp [redactAll]
  | cons f fs ih =>
    have hf := hfs f List.mem_cons_self
    have hrest : ∀ g ∈ fs, g ∈ forms := fun g hg => hfs g (List.mem_cons_of_mem f hg)
    have hcons : redactAll (f :: fs) s =
        redactAll fs (f.regex.replace (fun _ => placeholderChars) s) := rfl
    rw [hcons, List.forall_mem_cons]
    cases h : f.regex.occursIn s with
    | true =>
      -- one of the characters that are counted is gone, and later forms bring none back
      have hlt := foreign_replace_lt hf h
      have hle := foreign_redactAll_le hrest (f.regex.replace (fun _ => placeholderChars) s)
      have hne : redactAll fs (f.regex.replace (fun _ => placeholderChars) s) ≠ s := by
        intro heq
        rw [heq] at hle
        omega
      simp [hne]
    | false =>
      rw [(apart_of_mem hf).replace_eq_self h, ih hrest]
      simp

/-- What is detected in a text: the kinds of the forms that have a match. -/
lemma detect_eq (t : String) :
    ({} : Redactor).detect t = (forms.filter (·.regex.occursIn t.toList)).map (·.kind) := by
  rw [Redactor.detect]
  split
  case isTrue hempty =>
    obtain rfl := String.isEmpty_iff.mp hempty
    decide +kernel
  case isFalse => rfl

/-- Nothing is detected in a text in which no form occurs. -/
lemma detect_eq_nil_iff {t : String} :
    ({} : Redactor).detect t = [] ↔ ∀ f ∈ forms, f.regex.occursIn t.toList = false := by
  rw [detect_eq, List.map_eq_nil_iff, List.filter_eq_nil_iff]
  simp

/-- Redaction leaves a text alone exactly when it detects nothing. -/
lemma redact_eq_self_iff {t : String} :
    ({} : Redactor).redact t = .ok t ↔ ({} : Redactor).detect t = [] := by
  rw [redact_eq, detect_eq_nil_iff, ← redactAll_eq_self_iff fun f hf => hf, Except.ok.injEq,
    ← String.toList_inj, String.toList_ofList]

/-- A text has a secret if one is detected. -/
lemma hasSecret_eq_true_iff {t : String} :
    ({} : Redactor).hasSecret t = true ↔ ({} : Redactor).detect t ≠ [] := by
  rw [Redactor.hasSecret, Bool.not_eq_true', List.isEmpty_eq_false_iff]

/-- **Detection and redaction agree.** Redacting a text does not fail. What it gives is the text itself if no
secret is detected in it, and another one, after all forms have been looked for, if one is. -/
theorem redact_unchanged_iff (t : String) :
    ∃ out, ({} : Redactor).redact t = .ok out ∧ (out = t ↔ ({} : Redactor).detect t = []) ∧
      (out ≠ t ↔ ({} : Redactor).hasSecret t = true) := by
  have hsame : String.ofList (redactAll forms t.toList) = t ↔ ({} : Redactor).detect t = [] := by
    rw [← redact_eq_self_iff, redact_eq, Except.ok.injEq]
  exact ⟨_, redact_eq t, hsame, hsame.not.trans hasSecret_eq_true_iff.symm⟩

end Diagnosis.Secret
