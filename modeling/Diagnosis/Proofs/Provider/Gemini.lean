import Diagnosis.Proofs.Steps
import Diagnosis.Proofs.Text.Numeral
import Diagnosis.Provider.Gemini

/-!
# Which answers of Gemini are understood

A service promises three failures: the call has failed, there were too many calls, or there was no
answer in time (`Failure.IsDeclared`). The reader of Gemini's answers takes an answer apart without a
look at its shape, and takes what consists of digits of any kind for a number, so it has other failures
as well.

* **Where the promise is kept** (`isRegular_iff`): for what comes back of a call, there is a text that is
  neither empty nor too long, or one of the promised failures, if and only if what came back is regular.
  That is said of the answer alone: what its header may hold, and which values of which keys must have
  which form.
* What is left of an answer that is no error is taken apart key by key (`handled_fieldOr_bind_iff`): a
  chain of steps has promised failures only if each of its steps has, on the values that come to it
  (`handled_bind_iff`).
* A text that is given is neither empty nor too long (`bounds_of_readResponse`).
-/

namespace Diagnosis.Provider

open Text

/-! ## Promised failures -/

/-- Whether a failure is one that a service promises. -/
def Failure.IsDeclared : Failure → Prop
  | failed _ => True
  | rateLimited _ _ => True
  | timedOut _ => True
  | badDelay _ => False
  | notAnObject => False
  | noItem => False
  | wrongType => False
  | tooDeep => False

variable {α β : Type}

/-- Whether a step does not fail, or fails as a service promises. -/
def Handled (x : Except Failure α) : Prop := ∀ failure, x = .error failure → failure.IsDeclared

/-- A success is handled. -/
@[simp]
lemma handled_ok (a : α) : Handled (.ok a) := nofun

/-- A result without a step is handled. -/
@[simp]
lemma handled_pure (a : α) : Handled (pure a) := nofun

/-- A failure is handled if it is declared. -/
@[simp]
lemma handled_error_iff {failure : Failure} :
    Handled (.error failure : Except Failure α) ↔ failure.IsDeclared := by
  constructor
  · intro h
    exact h failure rfl
  · rintro h _ ⟨⟩
    exact h

/-- What follows a step has to do with the values of the step alone. -/
lemma handled_bind_iff {x : Except Failure α} {f : α → Except Failure β} :
    Handled (x >>= f) ↔ Handled x ∧ ∀ a, x = .ok a → Handled (f a) := by
  cases x with
  | error failure =>
    change Handled (.error failure : Except Failure β) ↔ _
    simp
  | ok a =>
    change Handled (f a) ↔ _
    simp

/-- Changing what a step gives makes no difference to whether it is handled. -/
@[simp]
lemma handled_map_iff {x : Except Failure α} {f : α → β} : Handled (f <$> x) ↔ Handled x := by
  rw [map_eq_pure_bind, handled_bind_iff]
  simp

/-- If no failure of a step is promised, then each item must go through. -/
lemma handled_mapM_iff {f : α → Except Failure β} (hf : ∀ a, Handled (f a) → ∃ b, f a = .ok b)
    (xs : List α) : Handled (xs.mapM f) ↔ ∀ a ∈ xs, Handled (f a) := by
  induction xs with
  | nil => simp
  | cons a xs ih =>
    rw [List.mapM_cons, handled_bind_iff, List.forall_mem_cons, and_congr_right_iff]
    intro ha
    obtain ⟨b, hb⟩ := hf a ha
    simp [hb, ih]

/-! ## When to try again -/

/-- Whether a header that consists of digits is a number: its digits are decimal, and not too many. -/
def IsDelay (header : Option String) : Prop :=
  ∀ s, header = some s → s ≠ "" → (∀ c ∈ s.toList, isAnyDigit c = true) →
    (∀ c ∈ s.toList, isDigit c = true) ∧ s.toList.length ≤ numeralLimit

/-- No character of a numeral but its digits is a digit of any kind. -/
lemma isAnyDigit_eq_false {c : Char} (h : isNumeralBlank c = true ∨ c ∈ ['_', '-', '+']) :
    isAnyDigit c = false := by
  have hmarks : (blankCodes.map Char.ofNat ++ ['_', '-', '+']).all (!isAnyDigit ·) = true := by
    decide +kernel
  have hc : c ∈ blankCodes.map Char.ofNat ++ ['_', '-', '+'] := by
    rw [List.mem_append]
    refine h.imp_left fun hblank => mem_blanks ?_
    rw [isNumeralBlank, Bool.and_eq_true] at hblank
    exact hblank.1
  have hnone := List.all_eq_true.mp hmarks c hc
  simpa using hnone

/-- Digits of any script are read if they are ASCII ones and not too many. -/
lemma exists_readWhole_iff_of_isAnyDigit {s : List Char} (hne : s ≠ [])
    (h : ∀ c ∈ s, isAnyDigit c = true) :
    (∃ n, readWhole s = .ok n) ↔ (∀ c ∈ s, isDigit c = true) ∧ s.length ≤ numeralLimit := by
  have hmark : ∀ c ∈ s, ¬ (isNumeralBlank c = true ∨ c ∈ ['_', '-', '+']) := by
    intro c hc hmark
    have hdigit := h c hc
    rw [isAnyDigit_eq_false hmark] at hdigit
    exact Bool.false_ne_true hdigit
  apply exists_readWhole_iff hne
  · intro c hc
    exact Bool.eq_false_iff.mpr fun hblank => hmark c hc (.inl hblank)
  · intro c hc
    constructor
    · rintro rfl
      exact hmark '-' hc (.inr (by decide))
    · rintro rfl
      exact hmark '+' hc (.inr (by decide))
  · intro hc
    exact hmark '_' hc (.inr (by decide))

/-- A delay is handled if its number is read. -/
lemma handled_badDelay_iff (x : Except NumeralFault Int) :
    Handled ((some <$> x).mapError Failure.badDelay) ↔ ∃ n, x = .ok n := by
  cases x with
  | error fault =>
    change Handled (.error (.badDelay fault) : Except Failure (Option Int)) ↔ _
    simp [Failure.IsDeclared]
  | ok n =>
    change Handled (.ok (some n)) ↔ _
    simp

/-- A header says nothing, or is a number. -/
lemma handled_readDelay_iff (header : Option String) :
    Handled (readDelay header) ↔ IsDelay header := by
  cases header with
  | none => simp [readDelay, IsDelay]
  | some s =>
    simp only [readDelay, IsDelay, Option.some.injEq, forall_eq']
    split
    case isTrue hnothing =>
      have : ¬ (s ≠ "" ∧ ∀ c ∈ s.toList, isAnyDigit c = true) := by
        simpa [or_iff_not_imp_left] using hnothing
      simp only [handled_ok, true_iff]
      intro hne hdigits
      exact absurd ⟨hne, hdigits⟩ this
    case isFalse hdigits =>
      have hdigits : s ≠ "" ∧ ∀ c ∈ s.toList, isAnyDigit c = true := by
        simpa using hdigits
      have hne : s.toList ≠ [] := by
        simpa using hdigits.1
      rw [handled_badDelay_iff, exists_readWhole_iff_of_isAnyDigit hne hdigits.2]
      exact ⟨fun h _ _ => h, fun h => h hdigits.1 hdigits.2⟩

/-- A rate limit is handled if its header says a delay, or nothing of the sort. -/
lemma handled_rateLimit_iff (message : String) (header : Option String) :
    Handled (rateLimit message header : Except Failure α) ↔ IsDelay header := by
  rw [rateLimit, handled_bind_iff, handled_readDelay_iff, and_iff_left_iff_imp]
  intro _ delay _
  exact handled_error_iff.mpr trivial

/-! ## The text of an answer -/

/-- Whether a value is a text, well-formed or not. -/
def IsText : Json → Prop
  | .string _ => True
  | .illFormed _ => True
  | _ => False

/-- Texts are joined if all of them are texts. -/
lemma handled_joinTexts_iff (pieces : List Json) :
    Handled (joinTexts pieces) ↔ ∀ piece ∈ pieces, IsText piece := by
  rw [joinTexts, handled_bind_iff]
  simp only [handled_pure, implies_true, and_true]
  rw [handled_mapM_iff]
  · refine forall₂_congr fun piece _ => ?_
    cases piece <;> simp [IsText, Failure.IsDeclared]
  · intro piece
    cases piece <;> simp [Failure.IsDeclared]

/-- An answer that is too long is a declared failure. -/
lemma handled_limited (answer : String) : Handled (limited answer) := by
  unfold limited
  split
  · exact handled_error_iff.mpr trivial
  · exact handled_ok answer

/-- An answer within the limit is passed on as it is. -/
lemma eq_of_limited {answer text : String} (h : limited answer = .ok text) :
    text = answer ∧ text.length ≤ answerLimit := by
  unfold limited at h
  split at h
  · exact absurd h nofun
  case isFalse hlimit =>
    obtain rfl := Except.ok.inj h
    exact ⟨rfl, Nat.le_of_not_lt hlimit⟩

namespace Gemini

/-! ## The shape of an answer -/

/-- Whether a value is an object, and what it has for a key has a form, unless that is missing or empty.
-/
def Fits (key : String) (form : Json → Prop) (v : Json) : Prop :=
  ∃ fields, v = .object fields ∧
    ∀ x, Json.find? key fields = some x → x.isTruthy = true → form x

/-- Whether a part has a text, or none; what is no object counts as having none. -/
def IsPart (part : Json) : Prop :=
  ∀ fields, part = .object fields → ∀ x, Json.find? "text" fields = some x → IsText x

/-- Whether values are the parts of a candidate. Of an object and of a text no item is an object. -/
def AreParts : Json → Prop
  | .array parts => ∀ part ∈ parts, IsPart part
  | .object _ => True
  | .string _ => True
  | .illFormed _ => True
  | _ => False

/-- Whether the first of some values is a candidate. Nobody looks at the others. -/
def AreCandidates : Json → Prop
  | .array (candidate :: _) => Fits "content" (Fits "parts" AreParts) candidate
  | _ => False

/-- Whether a value has the form of an answer, so far as it is looked at. -/
def IsPayload (payload : Json) : Prop := Fits "candidates" AreCandidates payload

/-- Whether an answer keeps to what can be expected of it: if there were too many calls, then what it
tells of a delay in digits is a number; if it is no error, then its body nests not too deep, and a value
in it has the form of an answer. -/
def Response.IsRegular : Response → Prop
  | .answer status body retryAfter =>
    (status = 429 → IsDelay retryAfter) ∧
      (status < 400 → Json.readBytes body ≠ .error (.unreadable .tooDeep) ∧
        ∀ payload, Json.readBytes body = .ok payload → IsPayload payload)
  | .timedOut _ => True
  | .broken _ => True

/-! ### The steps -/

/-- A step that looks at a key sees an object, and what it gives has the form that the next step needs.
-/
lemma handled_fieldOr_bind_iff {key : String} {default v : Json} {f : Json → Except Failure α}
    {form : Json → Prop} (hdefault : v.asObject?.isSome = true → Handled (f default))
    (hf : v.asObject?.isSome = true → ∀ x, x.isTruthy = true → (Handled (f x) ↔ form x)) :
    Handled (fieldOr key default v >>= f) ↔ Fits key form v := by
  cases v with
  | object fields =>
    cases h : Json.find? key fields with
    | none =>
      have hfield : fieldOr key default (.object fields) = .ok default := by
        simp only [fieldOr, fieldOf, h]
        rfl
      rw [hfield]
      change Handled (f default) ↔ _
      simp [Fits, h, hdefault rfl]
    | some x =>
      have hfield : fieldOr key default (.object fields) =
          .ok (if x.isTruthy = true then x else default) := by
        simp only [fieldOr, fieldOf, h]
        rfl
      rw [hfield]
      change Handled (f _) ↔ _
      by_cases hx : x.isTruthy = true
      · simp [Fits, h, hx, hf rfl]
      · simp [Fits, h, hx, hdefault rfl]
  | _ =>
    -- the step fails at once
    apply iff_of_false
    · intro h
      exact h .notAnObject rfl
    · rintro ⟨fields, ⟨⟩, -⟩

/-- The failure of an answer that holds no text; what is said of it stands in the answer. -/
def refuse (key : String) (message : Option Json → String) (v : Json) : Except Failure α :=
  fieldOf key v >>= fun reason => .error (.failed (message reason))

/-- Refusing an object is a declared failure. -/
lemma handled_refuse {v : Json} (hv : v.asObject?.isSome = true) (key : String)
    (message : Option Json → String) : Handled (refuse key message v : Except Failure α) := by
  obtain ⟨fields, hfields⟩ := Option.isSome_iff_exists.mp hv
  cases v with
  | object fields => exact handled_error_iff.mpr trivial
  | _ => exact absurd hfields nofun

/-- Refusing something is never a success. -/
lemma refuse_ne_ok {key : String} {message : Option Json → String} {v : Json} {a : α} :
    refuse key message v ≠ .ok a := by
  intro h
  obtain ⟨_, _, h⟩ := bind_eq_ok_iff.mp h
  exact absurd h nofun

/-- The text in a part is one, if the part is an object. -/
lemma isText_partText_iff (fields : List (String × Json)) :
    IsText (partText (.object fields)) ↔ IsPart (.object fields) := by
  cases h : Json.find? "text" fields <;> simp [partText, Json.get?, IsPart, IsText, h]

/-- The texts of parts. -/
def textOfParts (v : Json) : Except Failure String :=
  partsOf v >>= fun parts => joinTexts (parts.map partText)

/-- The parts of an answer are handled if they are as they should be. -/
lemma handled_textOfParts_iff (v : Json) : Handled (textOfParts v) ↔ AreParts v := by
  rw [textOfParts, handled_bind_iff]
  cases v with
  | array parts =>
    simp only [partsOf, handled_ok, true_and, Except.ok.injEq, forall_eq', handled_joinTexts_iff,
      List.forall_mem_map, List.mem_filter, and_imp, AreParts]
    refine forall₂_congr fun part _ => ?_
    cases part with
    | object fields => simp [Json.asObject?, isText_partText_iff]
    | _ => simp [Json.asObject?, IsPart]
  | _ => simp [partsOf, AreParts, Failure.IsDeclared, handled_joinTexts_iff]

/-- The answer of a candidate, unless it is empty. -/
def nonempty (candidate : Json) (answer : String) : Except Failure String :=
  if answer.isEmpty then
    refuse "finishReason" (fun reason => "Gemini returned an empty response (finish reason: "
      ++ (reason.getD (.string "unknown")).display ++ ")") candidate
  else .ok answer

/-- An empty answer is a declared failure. -/
lemma handled_nonempty {candidate : Json} (h : candidate.asObject?.isSome = true)
    (answer : String) : Handled (nonempty candidate answer) := by
  unfold nonempty
  split
  · exact handled_refuse h _ _
  · exact handled_ok answer

/-- An answer that is passed on is not empty. -/
lemma ne_empty_of_nonempty {candidate : Json} {answer text : String}
    (h : nonempty candidate answer = .ok text) : text ≠ "" := by
  unfold nonempty at h
  split at h
  · exact absurd h refuse_ne_ok
  case isFalse hempty =>
    obtain rfl := Except.ok.inj h
    simpa using hempty

/-- The answer in a candidate. -/
def textOfCandidate (candidate : Json) : Except Failure String := do
  let content ← fieldOr "content" (.object []) candidate
  let parts ← fieldOr "parts" (.array []) content
  nonempty candidate (← textOfParts parts)

/-- A candidate is handled if its content has parts as they should be. -/
lemma handled_textOfCandidate_iff (candidate : Json) :
    Handled (textOfCandidate candidate) ↔ Fits "content" (Fits "parts" AreParts) candidate := by
  -- the answer of a candidate that is an object is that of its parts
  have hparts : candidate.asObject?.isSome = true → ∀ content,
      (Handled (do
        let parts ← fieldOr "parts" (.array []) content
        nonempty candidate (← textOfParts parts)) ↔ Fits "parts" AreParts content) := by
    intro hcandidate content
    have htext : ∀ parts, Handled (textOfParts parts >>= nonempty candidate) ↔ AreParts parts := by
      intro parts
      simp [handled_bind_iff, handled_textOfParts_iff, handled_nonempty hcandidate]
    apply handled_fieldOr_bind_iff
    · intro _
      simp [htext, AreParts]
    · intro _ parts _
      exact htext parts
  apply handled_fieldOr_bind_iff
  · intro hcandidate
    rw [hparts hcandidate]
    exact ⟨[], rfl, nofun⟩
  · intro hcandidate content _
    exact hparts hcandidate content

/-- The text of an answer is that of its first candidate, if it has candidates. -/
lemma extractText_eq (payload : Json) :
    extractText payload = fieldOr "candidates" (.array []) payload >>= fun candidates =>
      if candidates.isTruthy then firstCandidate candidates >>= textOfCandidate
      else refuse "promptFeedback" (fun feedback => "Gemini returned no candidates: "
        ++ (feedback.getD (.object [])).display) payload := by
  unfold extractText textOfCandidate nonempty textOfParts refuse
  refine congrArg _ (funext fun candidates => ?_)
  cases candidates.isTruthy with
  | false => cases fieldOf "promptFeedback" payload <;> rfl
  | true =>
    simp only [Bool.not_true, Bool.false_eq_true, if_false, if_true, bind_assoc]
    refine bind_congr fun candidate => bind_congr fun content => bind_congr fun parts =>
      bind_congr fun items => bind_congr fun answer => ?_
    split
    · cases fieldOf "finishReason" candidate <;> rfl
    · rfl

/-- **Which values have a text or a promised failure.** -/
theorem handled_extractText_iff (payload : Json) :
    Handled (extractText payload) ↔ IsPayload payload := by
  rw [extractText_eq]
  apply handled_fieldOr_bind_iff
  · intro hpayload
    exact handled_refuse hpayload _ _
  · intro _ candidates hcandidates
    rw [if_pos hcandidates, handled_bind_iff]
    cases candidates with
    | array items =>
      cases items with
      | nil => exact absurd hcandidates nofun
      | cons candidate rest =>
        simp [firstCandidate, AreCandidates, handled_textOfCandidate_iff]
    | _ => simp [firstCandidate, AreCandidates, Failure.IsDeclared]

/-- The text of an answer is not empty. -/
lemma ne_empty_of_extractText {payload : Json} {text : String}
    (h : extractText payload = .ok text) : text ≠ "" := by
  rw [extractText_eq] at h
  obtain ⟨candidates, -, h⟩ := bind_eq_ok_iff.mp h
  split at h
  · obtain ⟨candidate, -, h⟩ := bind_eq_ok_iff.mp h
    obtain ⟨content, -, h⟩ := bind_eq_ok_iff.mp h
    obtain ⟨parts, -, h⟩ := bind_eq_ok_iff.mp h
    obtain ⟨answer, -, h⟩ := bind_eq_ok_iff.mp h
    exact ne_empty_of_nonempty h
  · exact absurd h refuse_ne_ok

/-! ### What comes back -/

/-- A body that is no JSON is a declared failure, unless it is nested too deeply. -/
lemma handled_readBytes_iff (body : Text.Bytes) :
    Handled ((Json.readBytes body).mapError badBody) ↔
      Json.readBytes body ≠ .error (.unreadable .tooDeep) := by
  cases Json.readBytes body with
  | ok payload => exact iff_of_true (handled_ok payload) nofun
  | error fault =>
    change Handled (.error (badBody fault) : Except Failure Json) ↔ _
    rw [handled_error_iff, ne_eq, Except.error.injEq]
    constructor
    · rintro h rfl
      exact h
    · intro h
      unfold badBody
      split
      · exact absurd rfl h
      · trivial

/-- A response is handled if it is regular. -/
theorem handled_readResponse_iff (r : Response) : Handled (readResponse r) ↔ r.IsRegular := by
  cases r with
  | timedOut message => exact iff_of_true (handled_error_iff.mpr trivial) trivial
  | broken message => exact iff_of_true (handled_error_iff.mpr trivial) trivial
  | answer status body retryAfter =>
    unfold readResponse Response.IsRegular
    dsimp only
    split
    case isTrue hstatus =>
      simp [handled_rateLimit_iff, hstatus]
    case isFalse hstatus =>
      split
      case isTrue herror =>
        have hlow : ¬ status < 400 := by omega
        simp [hstatus, hlow, Failure.IsDeclared]
      case isFalse herror =>
        have hlow : status < 400 := by omega
        simp [hstatus, hlow, handled_bind_iff, handled_readBytes_iff, handled_extractText_iff,
          handled_limited, mapError_eq_ok_iff]

/-- A text that is given is neither empty nor too long. -/
lemma bounds_of_readResponse {r : Response} {text : String} (h : readResponse r = .ok text) :
    text ≠ "" ∧ text.length ≤ answerLimit := by
  cases r with
  | timedOut message => exact absurd h nofun
  | broken message => exact absurd h nofun
  | answer status body retryAfter =>
    unfold readResponse at h
    dsimp only at h
    split at h
    · obtain ⟨_, _, h⟩ := bind_eq_ok_iff.mp h
      exact absurd h nofun
    split at h
    · exact absurd h nofun
    obtain ⟨payload, -, h⟩ := bind_eq_ok_iff.mp h
    obtain ⟨answer, hanswer, h⟩ := bind_eq_ok_iff.mp h
    obtain ⟨rfl, hlimit⟩ := eq_of_limited h
    exact ⟨ne_empty_of_extractText hanswer, hlimit⟩

/-- **When the promise is kept**: there is a text that is neither empty nor too long, or a promised
failure, if and only if what has come back is regular. -/
theorem isRegular_iff (r : Response) :
    r.IsRegular ↔
      (∃ text, readResponse r = .ok text ∧ text ≠ "" ∧ text.length ≤ answerLimit) ∨
        ∃ failure, readResponse r = .error failure ∧ failure.IsDeclared := by
  rw [← handled_readResponse_iff]
  cases hr : readResponse r with
  | ok text =>
    have hbounds := bounds_of_readResponse hr
    simp [hbounds]
  | error failure => simp

/-- An answer with a part whose text is null is not regular. -/
example :
    let body := "\x7b\"candidates\": [\x7b\"content\": \x7b\"parts\": "
      ++ "[\x7b\"text\": null\x7d]\x7d\x7d]\x7d"
    readResponse (.answer 200 (encode body.toList) none) = .error .wrongType := by
  decide +kernel

end Gemini

end Diagnosis.Provider
