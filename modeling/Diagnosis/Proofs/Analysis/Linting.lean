import Diagnosis.Proofs.Analysis.Explanation
import Diagnosis.Proofs.Lint.Location
import Diagnosis.Proofs.Text.Search

/-!
# What linter messages are explained by

Whoever sees a linter message is told what is wrong and what to do about it. Messages of rules are
explained by the name of the rule, whatever they say. The message for a text that does not parse has
no rule; it is explained by its words, and its words may quote the text.

* **What is quoted makes no difference** (`SyntaxError.lookup_of_states`). A quoted token has no blanks.
  So it does not complete the one key of the table that comes before the key for such messages, and
  the keys after that one are not looked at.
* **Every message has an explanation of its own** (`diagnostics_explained`), and none gets the one for
  problems that nothing is known of.
-/

namespace Diagnosis

open Text Explain

/-! ## Texts that do not parse -/

namespace Lint.SyntaxError

open Syntax

/-- What a message for a text that does not parse is about. -/
inductive Kind where
  /-- A string is left open. -/
  | openString
  /-- A token does not belong. -/
  | badToken
  /-- The text ends too early. -/
  | endOfInput
  deriving Repr, DecidableEq

/-- The words for a kind. -/
def Kind.words : Kind → String
  | openString => "Unterminated string constant"
  | badToken => "Unexpected token"
  | endOfInput => "Unexpected end of input"

/-- Whether a message says that a text does not parse for a cause of the given kind. The token that does
not belong may be quoted; it is any text without blanks. -/
inductive States : Kind → String → Prop where
  /-- It names the kind. -/
  | named (kind : Kind) : States kind ("Parsing error: " ++ kind.words)
  /-- It quotes the token. -/
  | quoted (token : List Char) : (∀ c ∈ token, isBlank c = false) →
      States .badToken ("Parsing error: " ++ ("Unexpected token " ++ String.ofList token))

/-- The message for a text that does not parse names its kind. -/
theorem states_message (src : Source) (sites : List Site) (root : Tree) :
    ∃ kind, States kind (message src sites root).message := by
  obtain ⟨k, p, hexplains, hmessage⟩ :
      ∃ k p, Explains src (culprit sites root) k p ∧
        message src sites root = fatal k p :=
    ⟨_, _, explains_iff.mpr ⟨rfl, rfl⟩, message_eq src sites root⟩
  rw [hmessage]
  cases hexplains with
  | openString => exact ⟨.openString, .named .openString⟩
  | atStart _ describes =>
    cases describes with
    | endOfInput => exact ⟨.endOfInput, .named .endOfInput⟩
    | token _ word =>
      obtain ⟨_, _, -, -, -, hblank, -⟩ := word
      exact ⟨.badToken, .quoted _ hblank⟩
    | unquoted => exact ⟨.badToken, .named .badToken⟩

/-- The words for an open string do not come about by quoting a token. -/
lemma not_occurs_openString {token : List Char} (h : ∀ c ∈ token, isBlank c = false) :
    stringOccurs Kind.openString.words
      ("Parsing error: " ++ ("Unexpected token " ++ String.ofList token)) = false := by
  have hblank : ' ' ∉ token := fun hmem => absurd (h ' ' hmem) (by decide)
  rw [stringOccurs, Bool.eq_false_iff, Ne, occurs_iff]
  intro hinfix
  -- the words up to their first blank would have to stand in front of the token
  have hwords : "Unterminated".toList ++ [' '] <:+: Kind.openString.words.toList := by decide
  have hstart : "Unterminated".toList ++ [' '] <:+:
      "Parsing error: Unexpected token ".toList ++ token := by
    refine hwords.trans ?_
    simpa [String.toList_append] using hinfix
  exact absurd (infix_of_infix_append hblank hstart) (by decide)

/-- **What is quoted makes no difference**: the explanation is the one for the kind. -/
theorem lookup_of_states {kind : Kind} {message : String} (h : States kind message) :
    table.lookup kind.words = some (lookup none message) := by
  cases h with
  | named kind => cases kind <;> decide +kernel
  | quoted token htoken =>
    have hopen := not_occurs_openString htoken
    have hbad : stringOccurs Kind.badToken.words
        ("Parsing error: " ++ ("Unexpected token " ++ String.ofList token)) = true := by
      rw [stringOccurs, occurs_iff]
      refine ⟨"Parsing error: ".toList, ' ' :: token, ?_⟩
      simp [Kind.words, String.toList_append]
    obtain ⟨openString, badToken, others, htable⟩ : ∃ openString badToken others,
        table = (Kind.openString.words, openString) :: (Kind.badToken.words, badToken) :: others :=
      ⟨_, _, _, rfl⟩
    have hfound : lookup none
        ("Parsing error: " ++ ("Unexpected token " ++ String.ofList token)) = badToken := by
      rw [lookup, lookupIn, htable]
      simp [hopen, hbad]
    have hentry : table.lookup Kind.badToken.words = some badToken := by
      rw [htable]
      rfl
    rw [hfound, hentry]

end Lint.SyntaxError

/-! ## Messages -/

namespace Analysis

open Report Lint.SyntaxError

/-- Whether an explanation is the one that the table has for a linter message: under the name of its
rule, or under the words for its kind if the text does not parse. -/
inductive Explains (e : Explanation) (m : Lint.Message) : Prop where
  /-- A rule has made the message. -/
  | rule (name : String) (rule : m.rule = some name) (fatal : m.fatal = false)
      (entry : table.lookup name = some e)
  /-- The text does not parse. -/
  | kind (kind : Kind) (rule : m.rule = none) (fatal : m.fatal = true) (states : States kind m.message)
      (entry : table.lookup kind.words = some e)

/-- The table says something of its own about everything that it knows. -/
lemma ne_generic_of_lookup {key : String} {e : Explanation} (h : table.lookup key = some e) :
    e ≠ generic := by
  have htable : ∀ entry ∈ table, entry.2 ≠ generic := by decide
  obtain ⟨before, after, hsplit, -⟩ := List.lookup_eq_some_iff.mp h
  exact htable (key, e) (hsplit ▸ List.mem_append_right _ List.mem_cons_self)

/-- An explanation of a message is never the one for everything else. -/
lemma Explains.ne_generic {e : Explanation} {m : Lint.Message} (h : Explains e m) : e ≠ generic := by
  cases h with
  | rule name _ _ entry => exact ne_generic_of_lookup entry
  | kind kind _ _ _ entry => exact ne_generic_of_lookup entry

/-- The table knows every rule, so what a rule says does not matter. -/
lemma lookup_name (check : Lint.Check) (message : String) :
    table.lookup check.name = some (lookup (some check.name) message) := by
  obtain ⟨e, he⟩ : ∃ e, table.lookup check.name = some e := by
    cases check <;> exact ⟨_, rfl⟩
  have hlookup : lookup (some check.name) message = e := by
    rw [lookup, lookupIn]
    simp [he]
  rw [he, hlookup]

/-- A message that a rule has made is explained by the name of the rule. -/
lemma explains_of_mem_messages {rule : Lint.Rule} {subject : Lint.Subject} {m : Lint.Message}
    (h : m ∈ rule.messages subject) : Explains (lookup m.rule m.message) m := by
  obtain ⟨finding, -, rfl⟩ := List.mem_map.mp h
  exact .rule rule.check.name rfl rfl (lookup_name rule.check finding.message)

/-- The message for a text that does not parse is explained by its kind. -/
lemma explains_message (src : Syntax.Source) (sites : List Syntax.Site) (root : Syntax.Tree) :
    Explains (lookup (message src sites root).rule (message src sites root).message)
      (message src sites root) := by
  obtain ⟨kind, hstates⟩ := states_message src sites root
  have hrule : (message src sites root).rule = none := by rw [message_eq]; rfl
  refine .kind kind hrule (by rw [message_eq]; rfl) hstates ?_
  rw [hrule]
  exact lookup_of_states hstates

/-- Whatever the tree, every message of a run of the rules is explained. -/
lemma explains_of_mem_verifyTree {rules : List Lint.Rule} {data : Bytes} {tree : Syntax.Tree}
    {m : Lint.Message} (h : m ∈ (Lint.verifyTree rules data tree).messages) :
    Explains (lookup m.rule m.message) m := by
  cases herror : tree.hasError with
  | true =>
    rw [Lint.verifyTree] at h
    dsimp only at h
    rw [if_pos herror, List.mem_singleton] at h
    rw [h]
    exact explains_message _ _ _
  | false =>
    obtain ⟨rule, -, hm⟩ := (Lint.mem_messages_of_parsed herror).mp h
    exact explains_of_mem_messages hm

/-- What is found in a text that can be linted is what the linter says of it. -/
lemma diagnostics_analyze {l : Lint.Linter} {consultant : Consultant} {source : String} {r : Result}
    (h : (JavaScriptAnalyzer.analyze ⟨.ok l, consultant⟩ (.text source)).result = .ok r) :
    r.diagnostics = (l.lint source).messages.map diagnosticOfMessage :=
  (of_result_explained h).2

/-- **Every message has an explanation of its own.** Whatever the rules, the text and its tree, and
whatever a message quotes, its diagnostic tells what the table has for the rule, or for the kind of
fault if the text does not parse. An analysis that comes to a result has these diagnostics. -/
theorem diagnostics_explained (l : Lint.Linter) (consultant : Consultant) (source : String) :
    (∀ m ∈ (l.lint source).messages,
      Explains ⟨(diagnosticOfMessage m).explanation, (diagnosticOfMessage m).suggestion⟩ m ∧
        (⟨(diagnosticOfMessage m).explanation, (diagnosticOfMessage m).suggestion⟩ : Explanation) ≠
          generic) ∧
      ∀ r, (JavaScriptAnalyzer.analyze ⟨.ok l, consultant⟩ (.text source)).result = .ok r →
        r.diagnostics = (l.lint source).messages.map diagnosticOfMessage := by
  refine ⟨fun m hm => ?_, fun r hr => diagnostics_analyze hr⟩
  have hexplains : Explains (lookup m.rule m.message) m := explains_of_mem_verifyTree hm
  exact ⟨hexplains, hexplains.ne_generic⟩

/-- A linter whose parser takes every text for a token that does not belong. -/
def baffledLinter : Lint.Linter where
  rules := [⟨.error, .semi .always⟩]
  parse data := { kind := Syntax.Tree.errorKind, start := 0, stop := data.length }

/-- A token that is the name of a rule. -/
theorem diagnostics_explained_semi :
    let m := fatal "Unexpected token semi" ⟨1, 1⟩
    m ∈ (baffledLinter.lint "semi").messages ∧
      Explains ⟨(diagnosticOfMessage m).explanation, (diagnosticOfMessage m).suggestion⟩ m ∧
      ∃ r, (JavaScriptAnalyzer.analyze ⟨.ok baffledLinter, {}⟩ (.text "semi")).result = .ok r ∧
        r.diagnostics = (baffledLinter.lint "semi").messages.map diagnosticOfMessage := by
  intro m
  have hmem : m ∈ (baffledLinter.lint "semi").messages := by decide +kernel
  obtain ⟨hexplains, hresult⟩ := diagnostics_explained baffledLinter {} "semi"
  exact ⟨hmem, (hexplains m hmem).1, _, rfl, hresult _ rfl⟩

end Analysis

end Diagnosis
