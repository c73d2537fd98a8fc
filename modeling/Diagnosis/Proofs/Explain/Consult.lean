import Diagnosis.Explain.Consult
import Diagnosis.Proofs.Explain.Reply
import Diagnosis.Proofs.Json.Limits

/-!
# When consulting fails

The explanation service may answer anything, or nothing. What is read is a part of its answer
(`infix_of_isolate?`), and reading it either gives a reply or misses one of the limits of the reader;
then the answer itself holds too many digits in a row or too many opening brackets.

* **Consulting gives a reply** (`Consultant.consult_outcome`): whoever is asked and about what, as long
  as the answers keep the limits. Without an answer no part of the reply is there.
* The limits are real (`Consultant.consult_numericObject`): an object with one number of more digits
  than the reader takes makes consulting fail.
-/

namespace Diagnosis.Explain

open Diagnosis.Text Diagnosis.Report

/-! ## Answers that keep the limits -/

/-- Whether an answer keeps the limits of the reader: not too many digits stand in a row, and not more
brackets open values than may nest. -/
structure IsModerate (answer : String) : Prop where
  digits : ∀ n, HasRun Char.isDigit n answer.toList → n ≤ numeralLimit
  openings : answer.toList.countP Json.isOpening ≤ Json.defaultNesting

/-- Short answers keep the limits. -/
lemma IsModerate.of_length {answer : String} (h : answer.toList.length ≤ Json.defaultNesting) :
    IsModerate answer := by
  refine ⟨?_, Nat.le_trans List.countP_le_length h⟩
  exact fun n hdigits => Nat.le_trans hdigits.le_length (Nat.le_trans h (by decide))

/-- An answer that keeps the limits is a reply. -/
theorem exists_readReply {answer : String} (h : IsModerate answer) :
    ∃ reply, readReply answer = .ok reply := by
  unfold readReply
  cases hpart : isolate? answer with
  | none => exact ⟨_, rfl⟩
  | some part =>
    have hstands := infix_of_isolate? hpart
    dsimp only
    split
    case h_1 v _ => exact ⟨_, rfl⟩
    case h_2 => exact ⟨_, rfl⟩
    case h_3 fault hsyntax hfault =>
      exfalso
      cases fault with
      | malformed reason line column offset => exact hsyntax reason line column offset rfl
      | tooManyDigits n =>
        obtain ⟨hlimit, hdigits⟩ := Json.hasRun_of_readNested hfault
        exact Nat.not_lt.mpr (h.digits n (hdigits.of_isInfix hstands)) hlimit
      | tooDeep =>
        have hcount := Nat.le_trans (hstands.sublist.countP_le) h.openings
        exact Nat.not_lt.mpr hcount (Json.lt_countP_of_readNested hfault)

/-! ## Consulting -/

namespace Consultant

/-- What a consultant gets to know when it asks: nothing if there is no service, or if the service
fails or takes too long. -/
def answerTo (c : Consultant) (prompt : String) : Option String := c.service.bind (· prompt)

/-- **Consulting gives a reply**, as long as answers keep the limits. Where no question is answered, no
part of the reply is there. -/
theorem consult_outcome (c : Consultant) (code language : String) (ds : List Diagnostic)
    (h : ∀ p ∈ (c.consult code language ds).prompts, ∀ answer, c.answerTo p = some answer →
      IsModerate answer) :
    ∃ reply, (c.consult code language ds).outcome = .ok reply ∧
      ((∀ p ∈ (c.consult code language ds).prompts, c.answerTo p = none) →
        reply = { explanation := none, suggestion := none, fixedCode := none }) := by
  obtain ⟨service, redactor⟩ := c
  cases service with
  | none => exact ⟨Reply.none, rfl, fun _ => rfl⟩
  | some service =>
    unfold consult at h ⊢
    dsimp only at h ⊢
    cases hprompt : prompt redactor code language ds with
    | error fault => exact ⟨Reply.none, rfl, fun _ => rfl⟩
    | ok p =>
      rw [hprompt] at h
      dsimp only at h ⊢
      rw [replyTo]
      cases hanswer : service p with
      | none => exact ⟨Reply.none, rfl, fun _ => rfl⟩
      | some answer =>
        obtain ⟨reply, hreply⟩ := exists_readReply (h p (List.mem_singleton_self p) answer hanswer)
        refine ⟨reply, hreply, fun hnone => ?_⟩
        exact absurd (hanswer.symm.trans (hnone p (List.mem_singleton_self p))) nofun

/-- A service that answers with an object, and one that fails. -/
theorem consult_outcome_sample :
    let answering : Consultant := { service := some fun _ => some "\x7b\x7d" }
    let failing : Consultant := { service := some fun _ => none }
    (IsModerate "\x7b\x7d" ∧
        ∃ reply, (answering.consult "x" "python" []).outcome = .ok reply) ∧
      failing.answerTo "" = none ∧
        ∃ reply, (failing.consult "x" "python" []).outcome = .ok reply ∧
          reply = { explanation := none, suggestion := none, fixedCode := none } := by
  have hmoderate : IsModerate "\x7b\x7d" := .of_length (by decide)
  obtain ⟨answered, hanswered, -⟩ :=
    consult_outcome { service := some fun _ => some "\x7b\x7d" } "x" "python" []
      fun _ _ _ h => Option.some.inj h ▸ hmoderate
  obtain ⟨reply, hreply, hnone⟩ :=
    consult_outcome { service := some fun _ => none } "x" "python" [] fun _ _ _ h => absurd h nofun
  exact ⟨⟨hmoderate, answered, hanswered⟩, rfl, reply, hreply, hnone fun _ _ => rfl⟩

end Consultant

/-! ## Answers that miss a limit -/

/-- **One number can make consulting fail**: the object that holds it is read in vain. -/
theorem Consultant.consult_numericObject {ds : List Char} (hds : ∀ c ∈ ds, c.isDigit = true)
    (hfirst : ds.head? ≠ some '0') (hlength : numeralLimit < ds.length) (code language : String)
    (diagnostics : List Diagnostic) :
    (({ service := some fun _ => some (String.ofList (Json.numericObject ds)) } :
      Consultant).consult code language diagnostics).outcome =
        .error (.tooManyDigits ds.length) := by
  have hbackquote : '\x60' ∉ Json.numericObject ds := by
    intro h
    have hmem : '\x60' ∈ ds := by simpa [Json.numericObject] using h
    exact Bool.false_ne_true (hds _ hmem)
  have hisolate : isolate? (String.ofList (Json.numericObject ds)) =
      some (String.ofList (Json.numericObject ds)) := by
    have hcandidate : candidate (Json.numericObject ds) = Json.numericObject ds := by
      rw [candidate, fenced?_eq_none hbackquote]
      exact braced_append (List.not_mem_nil) ('"' :: 'a' :: '"' :: ':' :: ds) (List.not_mem_nil)
    rw [isolate?, String.toList_ofList, hcandidate]
    rfl
  change readReply _ = _
  rw [readReply, hisolate]
  dsimp only
  rw [Json.read_numericObject hds hfirst hlength]

end Diagnosis.Explain
