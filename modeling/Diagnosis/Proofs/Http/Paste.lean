import Diagnosis.Http.App
import Diagnosis.Proofs.Json.Bytes

/-!
# Requests with JSON

Whoever asks for an analysis without a form hands in JSON: an object with the code, and perhaps its
language.

* **When such a request is answered as it should be** (`keepsLimits_iff`): the code of the object is
  submitted in its language, or there is no such code and the request is refused with status 400. This
  is so if and only if reading the body misses no limit of the reader.
* That the limits are kept shows in the text of the body (`keepsLimits_of_text`).
* **Where a limit is missed** the service does not answer: the fault of the reader escapes
  (`handle_of_not_keepsLimits`), and a client sees an error of which no more is said
  (`respond_of_not_keepsLimits`). A number of too many digits misses a limit
  (`not_keepsLimits_numericObject`).
-/

namespace Diagnosis

open Text

/-! ## Pasted texts -/

namespace Submission

/-- The language of a text: what is declared without the blanks at its ends, and JavaScript if nothing
is left of that. -/
def declared (language : Option LooseText) : LooseText :=
  match language.map LooseText.strip with
  | some language => if language.codes = [] then .text "javascript" else language
  | none => .text "javascript"

/-- Pasted code is refused if it is blank, and is a submission otherwise. -/
lemma ofPaste_some (code : LooseText) (language : Option LooseText) :
    ofPaste (some code) language =
      if code.isBlank = true then .error .noCode else .ok ⟨code, declared language, .paste⟩ := by
  unfold ofPaste requireCode
  by_cases hblank : code.isBlank = true
  · simp [hblank]
  · simp only [Option.getD_some, hblank, Bool.false_eq_true, if_false]
    cases language with
    | none => rfl
    | some language => simp [declared, defaultLanguage]

/-- What is not there counts as blank. -/
lemma ofPaste_none (language : Option LooseText) : ofPaste none language = .error .noCode := rfl

end Submission

namespace Http

open Submission

namespace Request

/-! ## What a body hands in -/

/-- Whether the body is an object with a code that is not blank, and which language goes with it. -/
def HandsIn (r : Request) (code language : LooseText) : Prop :=
  ∃ fields, Json.readBytes r.body = .ok (.object fields) ∧ textIn fields "code" = some code ∧
    code.isBlank = false ∧ language = declared (textIn fields "language")

/-- Whether reading the body misses no limit: if there is a fault in its text, then one of syntax. -/
def KeepsLimits (r : Request) : Prop :=
  ∀ fault, Json.readBytes r.body = .error (.unreadable fault) → fault.IsSyntax

/-- Whether a request asks for an analysis and announces no form. -/
structure IsPaste (r : Request) : Prop where
  method : r.method = "POST"
  route : Route.at? r.path = some .debug
  noForm : r.holdsForm = false

variable {r : Request} {code language : LooseText}

/-- The body is an object, or something else, or a limit is missed. -/
lemma fields_cases (r : Request) :
    (∃ fields, Json.readBytes r.body = .ok (.object fields) ∧ r.fields = .ok fields) ∨
    ((∀ fields, Json.readBytes r.body ≠ .ok (.object fields)) ∧ r.KeepsLimits ∧
      r.fields = .error .noCode) ∨
    ((∀ fields, Json.readBytes r.body ≠ .ok (.object fields)) ∧ ¬ r.KeepsLimits ∧
      ∃ fault, r.fields = .error (.badJson fault)) := by
  unfold fields KeepsLimits
  cases Json.readBytes r.body with
  | ok v =>
    cases v with
    | object fields => exact .inl ⟨fields, rfl, rfl⟩
    | _ => exact .inr (.inl ⟨nofun, nofun, rfl⟩)
  | error fault =>
    cases fault with
    | undecodable fault => exact .inr (.inl ⟨nofun, nofun, rfl⟩)
    | unreadable fault =>
      cases fault with
      | malformed =>
        refine .inr (.inl ⟨nofun, ?_, rfl⟩)
        rintro _ ⟨⟩
        trivial
      | tooManyDigits n => exact .inr (.inr ⟨nofun, fun h => h _ rfl, _, rfl⟩)
      | tooDeep => exact .inr (.inr ⟨nofun, fun h => h _ rfl, _, rfl⟩)

/-- Without a form, a submission is made of the fields of the body. -/
lemma submission_eq (h : r.holdsForm = false) (limit : Int) :
    r.submission limit = r.fields >>= fun fields =>
      (ofPaste (textIn fields "code") (textIn fields "language")).mapError fun .noCode => .noCode := by
  simp [submission, h]

/-- An object hands in a code that is not blank, or none. -/
lemma submission_object {fields : List (String × Json)}
    (hbody : Json.readBytes r.body = .ok (.object fields)) :
    (∃ code language, r.HandsIn code language ∧
      ofPaste (textIn fields "code") (textIn fields "language") = .ok ⟨code, language, .paste⟩) ∨
    ((∀ code language, ¬ r.HandsIn code language) ∧
      ofPaste (textIn fields "code") (textIn fields "language") = .error .noCode) := by
  have hobject : ∀ {code language}, r.HandsIn code language →
      textIn fields "code" = some code ∧ code.isBlank = false := by
    rintro code language ⟨fields', hbody', hcode, hblank, -⟩
    obtain rfl := Json.object.inj (Except.ok.inj (hbody.symm.trans hbody'))
    exact ⟨hcode, hblank⟩
  cases hcode : textIn fields "code" with
  | none =>
    refine .inr ⟨?_, ofPaste_none _⟩
    intro code language hin
    exact absurd (hcode.symm.trans (hobject hin).1) nofun
  | some code =>
    rw [ofPaste_some]
    by_cases hblank : code.isBlank = true
    · refine .inr ⟨?_, if_pos hblank⟩
      intro code' language hin
      obtain ⟨hcode', hnot⟩ := hobject hin
      obtain rfl := Option.some.inj (hcode.symm.trans hcode')
      exact Bool.false_ne_true (hnot.symm.trans hblank)
    · have hnot : code.isBlank = false := by simpa using hblank
      exact .inl ⟨code, _, ⟨fields, hbody, hcode, hnot, rfl⟩, if_neg hblank⟩

/-- A request without a form is a submission, or is refused, or misses a limit. -/
lemma submission_cases (h : r.holdsForm = false) (limit : Int) :
    (r.KeepsLimits ∧ ∃ code language, r.HandsIn code language ∧
      r.submission limit = .ok ⟨code, language, .paste⟩) ∨
    (r.KeepsLimits ∧ (∀ code language, ¬ r.HandsIn code language) ∧
      r.submission limit = .error .noCode) ∨
    (¬ r.KeepsLimits ∧ ∃ fault, r.submission limit = .error (.badJson fault)) := by
  rw [submission_eq h]
  obtain ⟨fields, hbody, hfields⟩ | ⟨hbody, hlimits, hfields⟩ | ⟨hbody, hlimits, fault, hfields⟩ :=
    r.fields_cases
  · have hlimits : r.KeepsLimits := by
      intro fault hfault
      rw [hbody] at hfault
      exact absurd hfault nofun
    rw [hfields]
    obtain ⟨code, language, hin, hpaste⟩ | ⟨hnone, hpaste⟩ := submission_object hbody
    · refine .inl ⟨hlimits, code, language, hin, ?_⟩
      change (ofPaste _ _).mapError _ = _
      rw [hpaste]
      rfl
    · refine .inr (.inl ⟨hlimits, hnone, ?_⟩)
      change (ofPaste _ _).mapError _ = _
      rw [hpaste]
      rfl
  · rw [hfields]
    refine .inr (.inl ⟨hlimits, ?_, rfl⟩)
    rintro code language ⟨fields, hobject, -⟩
    exact hbody fields hobject
  · rw [hfields]
    exact .inr (.inr ⟨hlimits, fault, rfl⟩)

/-! ## Limits in the text of a body -/

/-- **A body keeps the limits** if not too many digits stand in a row in its text, and not more brackets
open values than may nest. -/
theorem keepsLimits_of_text
    (h : ∀ codes, (Encoding.detect r.body).decode r.body = .ok codes →
      (∀ n, HasRun Char.isDigit n (Json.spelled codes) → n ≤ numeralLimit) ∧
        (Json.spelled codes).countP Json.isOpening ≤ Json.defaultNesting) : r.KeepsLimits := by
  intro fault hfault
  obtain ⟨codes, hcodes, hread⟩ := Json.exists_codes_of_readBytes hfault
  obtain ⟨hdigits, hopenings⟩ := h codes hcodes
  cases fault with
  | malformed => trivial
  | tooManyDigits n =>
    obtain ⟨hlimit, hrun⟩ := Json.hasRun_of_readNested hread
    exact absurd (hdigits n hrun) (Nat.not_le_of_lt hlimit)
  | tooDeep => exact absurd hopenings (Nat.not_le_of_lt (Json.lt_countP_of_readNested hread))

/-- An object with a number is plain text. -/
lemma isPlain_numericObject {ds : List Char} (hds : ∀ c ∈ ds, c.isDigit = true) :
    Json.IsPlain (Json.numericObject ds) := by
  have hdigits : Json.IsPlain ds := Json.isPlain_of_isDigit hds
  simp only [Json.numericObject, Json.isPlain_cons, Json.isPlain_append]
  exact ⟨by decide, by decide, by decide, by decide, by decide, hdigits, by decide, List.forall_mem_nil _⟩

/-- **A number of too many digits misses a limit.** -/
theorem not_keepsLimits_numericObject {ds : List Char} (hds : ∀ c ∈ ds, c.isDigit = true)
    (hfirst : ds.head? ≠ some '0') (hlength : numeralLimit < ds.length)
    (hbody : r.body = encode (Json.numericObject ds)) : ¬ r.KeepsLimits := by
  intro hlimits
  have hread := Json.read_numericObject hds hfirst hlength
  rw [Json.read, String.toList_ofList] at hread
  have hfault : Json.readBytes r.body = .error (.unreadable (.tooManyDigits ds.length)) := by
    rw [hbody, Json.readBytes_encode (isPlain_numericObject hds), hread]
    rfl
  exact hlimits _ hfault

end Request

/-! ## Answers -/

variable {m : Type → Type} [Monad m] [LawfulMonad m]

/-- A paste goes to the debugger. -/
lemma handle_paste (app : App m) {r : Request} (h : r.IsPaste) : app.handle r = app.debug r := by
  have hupper : ("POST" : String).toUpper = "POST" := by decide +kernel
  have hmethod : Route.debug.method = "POST" := rfl
  simp [App.handle, h.method, h.route, hupper, hmethod, App.serve]

/-- **When a limit is missed**, the request is not answered: the fault of the reader escapes. -/
theorem handle_of_not_keepsLimits (app : App m) {r : Request} (h : r.IsPaste)
    (hlimits : ¬ r.KeepsLimits) : ∃ fault, app.handle r = pure (.error (.unreadable fault)) := by
  obtain ⟨hkeeps, -⟩ | ⟨hkeeps, -⟩ | ⟨-, fault, hsubmission⟩ :=
    Request.submission_cases h.noForm app.uploadLimit
  · exact absurd hkeeps hlimits
  · exact absurd hkeeps hlimits
  · refine ⟨fault, ?_⟩
    rw [handle_paste app h, App.debug, hsubmission]
    rfl

/-- A client then sees an error of the service, of which no more is said. -/
theorem respond_of_not_keepsLimits (app : App m) {r : Request} (h : r.IsPaste)
    (hlimits : ¬ r.KeepsLimits) : app.respond r = pure .broken := by
  obtain ⟨fault, hfault⟩ := handle_of_not_keepsLimits app h hlimits
  rw [App.respond, hfault, pure_bind]

/-- **When a request with JSON is answered as it should be.** The code that it hands in is submitted in
its language, or it hands in none and is refused with status 400, if and only if no limit is missed. -/
theorem keepsLimits_iff (app : App m) {r : Request} (h : r.IsPaste) :
    r.KeepsLimits ↔
      (∃ code language, r.HandsIn code language ∧
        r.submission app.uploadLimit = .ok ⟨code, language, .paste⟩) ∨
      (∀ code language, ¬ r.HandsIn code language) ∧
        r.submission app.uploadLimit = .error .noCode ∧
        app.handle r = pure (.ok (.error 400 "No code provided for debugging.")) := by
  obtain ⟨hlimits, hsubmitted⟩ | ⟨hlimits, hnone, hrefused⟩ | ⟨hlimits, fault, hsubmission⟩ :=
    Request.submission_cases h.noForm app.uploadLimit
  · exact iff_of_true hlimits (.inl hsubmitted)
  · have hanswer : app.handle r = pure (.ok (.error 400 "No code provided for debugging.")) := by
      rw [handle_paste app h, App.debug, hrefused]
      rfl
    exact iff_of_true hlimits (.inr ⟨hnone, hrefused, hanswer⟩)
  · refine iff_of_false hlimits ?_
    rintro (⟨code, language, -, hok⟩ | ⟨-, hrefused, -⟩)
    · exact absurd (hsubmission.symm.trans hok) nofun
    · exact absurd (hsubmission.symm.trans hrefused) nofun

/-- A service that analyses nothing. -/
def bareApp : App Id where
  router := ⟨[]⟩
  uploadLimit := 0
  recognize _ := .ok ""
  health := .null

/-- A request whose code is blank. -/
def blankRequest : Request where
  method := "POST"
  path := "/api/debug"
  contentType := "application/json"
  body := encode "\x7b\"code\": \" \"\x7d".toList

/-- Blank code is refused. -/
theorem keepsLimits_iff_blank :
    blankRequest.IsPaste ∧ blankRequest.KeepsLimits ∧
      bareApp.handle blankRequest = pure (.ok (.error 400 "No code provided for debugging.")) := by
  have hpaste : blankRequest.IsPaste := ⟨rfl, by decide +kernel, by decide +kernel⟩
  have hlimits : blankRequest.KeepsLimits := by
    apply Request.keepsLimits_of_text
    intro codes hcodes
    have hcode : (Encoding.detect blankRequest.body).decode blankRequest.body =
        .ok ("\x7b\"code\": \" \"\x7d".toList.map (·.toNat)) := by
      decide +kernel
    obtain rfl := Except.ok.inj (hcode.symm.trans hcodes)
    rw [Json.spelled_map_toNat]
    refine ⟨?_, by decide⟩
    intro n hn
    exact Nat.le_trans hn.le_length (by decide)
  obtain ⟨code, language, -, hok⟩ | ⟨-, -, hanswer⟩ := (keepsLimits_iff bareApp hpaste).mp hlimits
  · have hrefused : blankRequest.submission bareApp.uploadLimit = .error .noCode := by
      decide +kernel
    exact absurd (hrefused.symm.trans hok) nofun
  · exact ⟨hpaste, hlimits, hanswer⟩

end Http

end Diagnosis
