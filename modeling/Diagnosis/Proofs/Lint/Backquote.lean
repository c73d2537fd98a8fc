import Diagnosis.Proofs.Lint.Requote
import Diagnosis.Proofs.Lint.RuleFix

/-!
# Strings as templates

A string literal rewritten for backticks. What comes out can always be read as a template: no quote in it
ends it, and nothing opens a substitution (`isTemplateBody_requoteBody`), since a dollar sign gets a
backslash exactly where a brace follows, and rewriting puts no brace behind one
(`head?_requoteBody`).

Its escapes are those of the string. So the template stands for the same string if the literal has no
octal escape, and for nothing if it has one: strings allow these in sloppy code, templates never
(`requote_template`).

A template can stand for a string in an expression, but not everywhere: the source of an import or export, the
key of a property and the name of a class member have to be strings, and a directive is one only as a string
(`DemandsString`). The rule `quotes` knows of one such place, the attributes of JSX elements, which it passes
over.

* Whether a string gets a fix depends on what is written there and on the options (`exists_fix_iff`), wherever
  else the string stands, and so does what the fix puts there (`text_of_covers`).
* **Templates are put where strings are demanded** (`exists_template_fix_iff`): for backticks, a string in one
  of the other places gets a fix unless a backtick in it is to be spared, and the fix makes it a template.
-/

namespace Diagnosis.Lint

open Diagnosis.JavaScript Diagnosis.Syntax Diagnosis.Text
open Diagnosis.Pattern (isAsciiDigit)

namespace Quotes

/-! ## Rewriting for backticks -/

section rewriting

variable {old new : QuoteStyle} {c k : Char} {s rest body : List Char}

/-- A character that is never rewritten is the first one after rewriting only if it was before. -/
lemma head?_requoteBody (hk : k ∉ rewritten)
    (h : (requoteBody old.char new.char s).head? = some k) : s.head? = some k := by
  cases s with
  | nil => exact absurd h nofun
  | cons c s =>
    obtain ⟨d, more, heq, hd⟩ : ∃ d more, requoteBody old.char new.char (c :: s) = d :: more ∧
        (d = c ∨ d ∈ rewritten) := exists_requoteBody_eq_cons old c s
    rw [heq, List.head?_cons, Option.some.injEq] at h
    obtain rfl | hd := hd
    · exact congrArg some h
    · exact absurd (h ▸ hd) hk

/-- A string literal, rewritten, may stand between backticks. -/
lemma isTemplateBody_requoteBody (hold : old ≠ .backtick) (h : IsBody old body) :
    IsTemplateBody (requoteBody old.char QuoteStyle.backtick.char body) := by
  induction h with
  | nil => exact .nil
  | @plain c rest _ hslash _ hreturn _ _ ih =>
    rw [requoteBody_cons hslash]
    split
    case isTrue => exact .escape ih
    case isFalse hescape =>
      rw [needsEscape_iff, not_or] at hescape
      refine .plain hescape.1 hslash hreturn ?_ ih
      rintro ⟨hdollar, hbrace⟩
      exact hescape.2 ⟨rfl, hdollar, head?_requoteBody (by decide) hbrace⟩
  | @escape c rest _ _ ih =>
    rw [requoteBody_backslash]
    split
    case isTrue hquote =>
      -- the quote of the string loses its backslash
      obtain ⟨hreturn, hdollar⟩ : old.char ≠ '\r' ∧ old.char ≠ '$' := by cases old <;> decide
      rw [hquote.1]
      exact .plain (hquote.1 ▸ hquote.2) (char_ne_backslash old) hreturn (fun h => hdollar h.1) ih
    case isFalse => exact .escape ih
  | @lineEnd rest _ _ ih =>
    have hreturn : '\r' ≠ old.char := by cases old <;> decide
    rw [requoteBody_backslash, if_neg fun h => hreturn h.1, requoteBody_cons_plain (by decide)]
    exact .escape (.plain (by decide) (by decide) (by decide) (fun h => absurd h.1 (by decide)) ih)

/-- A string literal, rewritten, is a template with the same escapes. -/
lemma exists_template (l : Literal) (hl : l.quote ≠ .backtick) :
    ∃ t : Template, requote QuoteStyle.backtick.char l.text = t.text ∧ t.value? = l.value? false := by
  refine ⟨⟨_, isTemplateBody_requoteBody hl l.isBody⟩, ?_, value?_requoteBody false l.body⟩
  rw [Literal.text, List.cons_append, requote, List.dropLast_concat]
  rfl

/-- **A string as a template.** Rewritten for backticks, a string literal is a template without
substitutions. It stands for the string of the literal as strict code reads it, so its escapes are legal
exactly if the literal has no octal escapes; and then sloppy code reads the same string. -/
theorem requote_template (l : Literal) (hl : l.quote ≠ .backtick) :
    ∃ t : Template, requote QuoteStyle.backtick.char l.text = t.text ∧ t.value? = l.value? false ∧
      ∀ units, t.value? = some units → ∀ sloppy, l.value? sloppy = some units := by
  obtain ⟨t, htext, hvalue⟩ := exists_template l hl
  refine ⟨t, htext, hvalue, fun units hunits sloppy => ?_⟩
  rw [hvalue] at hunits
  exact value?_legacy hunits _

/-- A string with an escaped apostrophe, with characters that are special in templates, and with an escaped
line end. -/
def bracedString : Literal where
  quote := .single
  body := ['\\', '\'', '$', '\x7b', '\x60', '\\', '\r', '\n']
  isBody := .escape (by decide) <| .plain (by decide) (by decide) (by decide) (by decide) (by decide) <|
    .plain (by decide) (by decide) (by decide) (by decide) (by decide) <|
      .plain (by decide) (by decide) (by decide) (by decide) (by decide) <| .lineEnd (by decide) .nil
  isLegal := fun h => absurd h (by decide)

/-- The apostrophe loses its backslash; the dollar sign and the backtick get one. -/
theorem requote_template_braced :
    bracedString.quote ≠ .backtick ∧ ∃ t : Template,
      t.text = ['\x60', '\'', '\\', '$', '\x7b', '\\', '\x60', '\\', '\r', '\n', '\x60'] ∧
      t.value? = some [39, 36, 123, 96] ∧ ∀ sloppy, bracedString.value? sloppy = t.value? := by
  have hquote : bracedString.quote ≠ .backtick := by decide
  obtain ⟨t, htext, hvalue, hsame⟩ := requote_template bracedString hquote
  have hunits : t.value? = some [39, 36, 123, 96] := hvalue.trans (by decide +kernel)
  exact ⟨hquote, t, htext.symm.trans (by decide), hunits, fun sloppy =>
    (hsame _ hunits sloppy).trans hunits.symm⟩

/-- A string that begins with an octal escape becomes a template that stands for nothing. -/
theorem requote_octal {l : Literal} (hl : l.quote ≠ .backtick) (hbody : l.body = '\\' :: c :: rest)
    (hdigit : isAsciiDigit c = true) (hzero : c ≠ '0') :
    ∃ t : Template, requote QuoteStyle.backtick.char l.text = t.text ∧ t.value? = none := by
  obtain ⟨t, htext, hvalue⟩ := exists_template l hl
  refine ⟨t, htext, hvalue.trans ?_⟩
  rw [Literal.value?, Bool.false_and, hbody]
  exact value?_digit hdigit hzero rest

/-- In sloppy code the string has a value. -/
example : value? true ['\\', '1'] = some [1] := by decide +kernel

end rewriting

/-! ## Where only a string may stand -/

/-- Parents and the roles in which they take no expression but only a string, if it has quotes. -/
def stringRoles : List (String × String) :=
  [("import_statement", "source"), ("export_statement", "source"), ("pair", "key"),
    ("pair_pattern", "key"), ("method_definition", "name"), ("field_definition", "property")]

/-- Nodes between directives that are no statements. -/
def betweenDirectives : List String := ["comment", "html_comment", "hash_bang_line"]

/-- Whether a statement is nothing but a string. -/
def isStringStatement (t : Tree) : Bool :=
  t.kind == "expression_statement" &&
    (t.namedChildren.filter (!betweenDirectives.contains ·.kind)).map (·.kind) == ["string"]

/-- Whether a site holds the statements of a program or of the body of a function. -/
def holdsDirectives (s : Site) : Bool :=
  s.kind == "program" || s.kind == "statement_block" && s.hasRole "body" &&
    s.parentKind?.any functionKinds.contains

/-- Whether a string is a directive: alone in a statement at the start of a program or of the body of a
function, where only other directives are before it. -/
def IsDirective (s : Site) : Prop :=
  ∃ block i statement k node, s = .child (.child block i statement) k node ∧ node.kind = "string" ∧
    isStringStatement statement = true ∧ holdsDirectives block = true ∧
    ∀ t ∈ block.node.children.take i,
      t.named = true → t.kind ∉ betweenDirectives → isStringStatement t = true

/-- Whether the language demands a string at a place. -/
def DemandsString (s : Site) : Prop :=
  (∃ r ∈ stringRoles, s.isBelow r.1 = true ∧ s.hasRole r.2 = true) ∨ IsDirective s

/-- None of these places is the one that the rule passes over. -/
lemma DemandsString.not_isBelow {s : Site} (h : DemandsString s) : s.isBelow "jsx_attribute" = false := by
  obtain ⟨r, hr, hbelow, -⟩ | ⟨block, i, statement, k, node, rfl, -, hstatement, -⟩ := h
  · have hne : ∀ r ∈ stringRoles, r.1 ≠ "jsx_attribute" := by decide
    rw [Site.isBelow, beq_iff_eq] at hbelow
    rw [Site.isBelow, hbelow, beq_eq_false_iff_ne]
    exact fun heq => hne r hr (Option.some.inj heq)
  · rw [isStringStatement, Bool.and_eq_true, beq_iff_eq] at hstatement
    have hkind : Site.parentKind? (.child (.child block i statement) k node) =
        some "expression_statement" := congrArg some hstatement.1
    rw [Site.isBelow, hkind]
    decide

/-! ## What is proposed there -/

section fixes

variable {data : Bytes} {tree : Tree} {o : QuoteOptions} {s : Site} {f : Fix} {literal : List Char}

/-- A literal is wrong if it has another quote than the one to use, and would not need an escape with that. -/
lemma isFine_eq_false_iff : isFine o literal = false ↔ 2 ≤ literal.length ∧
    literal.head? ≠ some o.style.char ∧ (o.avoidEscape = true → o.style.char ∉ literal.tail.dropLast) := by
  simp only [isFine, Bool.or_eq_false_iff, decide_eq_false_iff_not, Nat.not_lt, beq_eq_false_iff_ne,
    Bool.and_eq_false_imp, List.contains_eq_mem, and_assoc]

/-- What a fix for the range of a node puts there. -/
lemma text_of_covers (hf : f ∈ (check o (.of (.ofBytes data) tree)).filterMap (·.fix))
    (hcovers : f.Covers s.node.start s.node.stop) :
    isFine o ((Source.ofBytes data).chars s.node) = false ∧
      f.text = encode (requote o.style.char ((Source.ofBytes data).chars s.node)) := by
  obtain ⟨finding, hmem, hfix⟩ := List.mem_filterMap.mp hf
  obtain ⟨u, -, hwrong, rfl⟩ := exists_of_mem (fun s => Site.mem_walk_iff.mp) hmem
  obtain rfl := Option.some.inj hfix
  -- two nodes of one range cover one text
  have hchars : (Source.ofBytes data).chars u = (Source.ofBytes data).chars s.node := by
    obtain ⟨hstart, hstop⟩ := hcovers
    rw [Source.chars, Source.chars, Int.ofNat.inj hstart, Int.ofNat.inj hstop]
  have hwrong : ¬ isFine o ((Source.ofBytes data).chars u) = true := hwrong
  rw [hchars, Bool.not_eq_true] at hwrong
  exact ⟨hwrong, congrArg (fun cs => encode (requote o.style.char cs)) hchars⟩

/-- **Which strings get a fix**, outside the attributes of JSX elements: those that are at least quotes, not the
ones wanted, and hold nothing for which other quotes may be used. -/
theorem exists_fix_iff (hs : s ∈ Site.walk tree) (hkind : s.kind = "string")
    (hbelow : s.isBelow "jsx_attribute" = false) :
    (∃ f ∈ (check o (.of (.ofBytes data) tree)).filterMap (·.fix), f.Covers s.node.start s.node.stop) ↔
      isFine o ((Source.ofBytes data).chars s.node) = false := by
  constructor
  · rintro ⟨f, hf, hcovers⟩
    exact (text_of_covers hf hcovers).1
  · intro hwrong
    refine ⟨_, List.mem_filterMap.mpr ⟨_, List.mem_filterMap.mpr ⟨s, ?_, if_neg ?_⟩, rfl⟩, rfl, rfl⟩
    · apply List.mem_filter.mpr ⟨hs, _⟩
      rw [concerns, hkind, hbelow]
      rfl
    · rw [Bool.not_eq_true]
      exact hwrong

end fixes

/-- **Templates are put where strings are demanded.** With backticks wanted, a string at a place that demands one
gets a fix under the same conditions as any other: it is at least two quotes, not backticks, and there is no
backtick in it that is to be spared. For a string literal the last condition is all, and the fix puts a template
there, with the escapes of the literal. -/
theorem exists_template_fix_iff {data : Bytes} {tree : Tree} {o : QuoteOptions} {s : Site}
    (ho : o.style = .backtick) (hs : s ∈ Site.walk tree) (hkind : s.kind = "string")
    (hdemands : DemandsString s) :
    let fixes := (check o (.of (.ofBytes data) tree)).filterMap (·.fix)
    let literal := (Source.ofBytes data).chars s.node
    ((∃ f ∈ fixes, f.Covers s.node.start s.node.stop) ↔ 2 ≤ literal.length ∧
      literal.head? ≠ some '\x60' ∧ (o.avoidEscape = true → '\x60' ∉ literal.tail.dropLast)) ∧
    ∀ l : Literal, l.quote ≠ .backtick → literal = l.text →
      ((∃ f ∈ fixes, f.Covers s.node.start s.node.stop) ↔ (o.avoidEscape = true → '\x60' ∉ l.body)) ∧
      ∀ f ∈ fixes, f.Covers s.node.start s.node.stop →
        ∃ t : Template, f.text = encode t.text ∧ t.value? = l.value? false := by
  intro fixes literal
  have hiff : (∃ f ∈ fixes, f.Covers s.node.start s.node.stop) ↔ 2 ≤ literal.length ∧
      literal.head? ≠ some '\x60' ∧ (o.avoidEscape = true → '\x60' ∉ literal.tail.dropLast) := by
    rw [exists_fix_iff hs hkind hdemands.not_isBelow, isFine_eq_false_iff, ho]
    rfl
  refine ⟨hiff, fun l hl htext => ⟨?_, fun f hf hcovers => ?_⟩⟩
  · have hhead : l.quote.char ≠ '\x60' := by
      cases hquote : l.quote <;> first | decide | exact absurd hquote hl
    have hbody : l.text.tail.dropLast = l.body := List.dropLast_concat
    rw [hiff, htext, hbody]
    simp [Literal.text, hhead]
  · obtain ⟨t, hrequoted, hvalue⟩ := exists_template l hl
    refine ⟨t, ?_, hvalue⟩
    rw [(text_of_covers hf hcovers).2, ho, ← hrequoted, ← htext]

/-- A directive of one letter. -/
def directiveStatement : Tree where
  kind := "expression_statement"
  start := 0
  stop := 3
  children := [{ kind := "string", start := 0, stop := 3 }]

/-- A program that is nothing but the directive. -/
def directiveTree : Tree where
  kind := "program"
  start := 0
  stop := 3
  children := [directiveStatement]

/-- The place of its string. -/
def directiveSite : Site :=
  .child (.child (.root directiveTree) 0 directiveStatement) 0 { kind := "string", start := 0, stop := 3 }

/-- The letter between its quotes. -/
def letterString : Literal where
  quote := .double
  body := ['m']
  isBody := .plain (by decide) (by decide) (by decide) (by decide) (by decide) .nil
  isLegal := fun h => absurd h (by decide)

/-- The directive becomes a template. -/
theorem exists_template_fix_iff_directive :
    directiveSite ∈ Site.walk directiveTree ∧ directiveSite.kind = "string" ∧ DemandsString directiveSite ∧
      ∃ f ∈ (check ⟨.backtick, false, false⟩
        (.of (.ofBytes (encode letterString.text)) directiveTree)).filterMap (·.fix),
        f.Covers 0 3 ∧ ∃ t : Template, f.text = encode t.text ∧ t.value? = some [109] := by
  have hwalk : directiveSite ∈ Site.walk directiveTree := Site.mem_walk_iff.mpr (.child (.child .root rfl) rfl)
  have hdemands : DemandsString directiveSite :=
    .inr ⟨_, _, _, _, _, rfl, rfl, by decide, by decide, fun t ht => absurd ht List.not_mem_nil⟩
  obtain ⟨-, hliteral⟩ := @exists_template_fix_iff (encode letterString.text) directiveTree
    ⟨.backtick, false, false⟩ directiveSite rfl hwalk rfl hdemands
  obtain ⟨hiff, htemplate⟩ := hliteral letterString (by decide) (by decide)
  obtain ⟨f, hf, hcovers⟩ := hiff.mpr nofun
  obtain ⟨t, htext, hvalue⟩ := htemplate f hf hcovers
  exact ⟨hwalk, rfl, hdemands, f, hf, hcovers, t, htext, hvalue.trans (by decide +kernel)⟩

end Quotes

end Diagnosis.Lint
