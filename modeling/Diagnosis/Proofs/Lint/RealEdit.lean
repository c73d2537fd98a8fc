import Diagnosis.Proofs.Lint.Location
import Diagnosis.Proofs.Lint.Lookup
import Diagnosis.Proofs.Lint.Mending

/-!
# Fixes are real edits

What a run of the rules proposes can be done, and does something.

* `Fix.IsEdit`: a fix replaces a stretch of the text by other bytes. Every fix of a run does
  (`Check.isEdit_of_mem`), if the tree is one that a text can have (`Tree.IsRegular`).
* Of several fixes at least one is applied (`applyFixes_pos`), since the first is never left out. So
  mending never ends because no fix could be applied (`Linter.lastDraft_ne_unapplied`).

`verifyTree_isSafe` puts this together with the lookups of a run, none of which fails.
-/

namespace Diagnosis.Syntax

open Diagnosis.Text

/-- Whether a tree can be that of a text: its nodes cut no character, none begins after it ends, and a
semicolon takes one byte. -/
structure Tree.IsRegular (data : Bytes) (tree : Tree) : Prop where
  fits : tree.Fits data
  isOrdered : tree.IsOrdered
  semicolon : ∀ u, tree.IsNode u → u.kind = ";" → u.stop = u.start + 1

/-- A node is regular if its place is, it is as long as a semicolon if it is one, and its children are
regular. -/
lemma Tree.isRegular_of_children {data : Bytes} {t : Tree}
    (hfits : IsBoundary data t.start ∧ IsBoundary data t.stop) (hle : t.start ≤ t.stop)
    (hsemicolon : t.kind = ";" → t.stop = t.start + 1) (h : ∀ c ∈ t.children, c.IsRegular data) :
    t.IsRegular data := by
  refine ⟨fits_of_children hfits.1 hfits.2 fun c hc => (h c hc).fits, fun u hu => ?_, fun u hu => ?_⟩
  · obtain rfl | ⟨c, hc, hu⟩ := hu.eq_or_below
    · exact hle
    · exact (h c hc).isOrdered u hu
  · obtain rfl | ⟨c, hc, hu⟩ := hu.eq_or_below
    · exact hsemicolon
    · exact (h c hc).semicolon u hu

end Diagnosis.Syntax

namespace Diagnosis.Lint

open Diagnosis.Text Diagnosis.Syntax

/-! ## Real edits -/

/-- Whether a fix replaces a stretch of a text by other bytes. -/
def Fix.IsEdit (data : Bytes) (f : Fix) : Prop :=
  ∃ start stop, f.Covers start stop ∧ start ≤ stop ∧ stop ≤ data.length ∧
    f.text ≠ between data start stop

section edit

variable {data : Bytes} {tree : Tree} {finding : Finding} {fix : Fix}

/-- A fix that replaces a stretch by something else is an edit. -/
lemma Fix.Replaces.isEdit {before middle after : Bytes} (h : fix.Replaces data before middle after)
    (hne : fix.text ≠ middle) : fix.IsEdit data := by
  obtain ⟨rfl, hcovers⟩ := h
  refine ⟨_, _, hcovers, Nat.le_add_right _ _, ?_, ?_⟩
  · simp
  · rwa [between_append]

/-- A fix of `semi` puts a semicolon where nothing is replaced, or takes out the byte of one. -/
lemma Semi.isEdit_of_mem (htree : tree.IsRegular data) {style : Presence}
    (h : finding ∈ Semi.check style (.of (.ofBytes data) tree)) (hfix : finding.fix = some fix) :
    fix.IsEdit data := by
  obtain ⟨last, hnode, hfinding⟩ := Semi.exists_of_mem (fun s => Site.mem_walk_iff.mp) h
  have hle : last.stop ≤ data.length := (htree.fits last hnode).2.le
  rcases hfinding with rfl | ⟨rfl, hkind⟩
  · obtain rfl := Option.some.inj hfix
    refine ⟨last.stop, last.stop, ⟨rfl, rfl⟩, Nat.le_refl _, hle, ?_⟩
    rw [between, Nat.sub_self, List.take_zero]
    exact (by decide : encodeString ";" ≠ [])
  · obtain rfl := Option.some.inj hfix
    have hone : last.stop = last.start + 1 := htree.semicolon last hnode hkind
    refine ⟨last.start, last.stop, ⟨rfl, rfl⟩, by omega, hle, ?_⟩
    intro hnil
    have hlen := congrArg List.length hnil
    rw [between, List.length_take, List.length_drop, List.length_nil] at hlen
    omega

/-- A literal that may not keep its quotes begins with another one between the new quotes. -/
lemma Quotes.requote_ne {o : QuoteOptions} {literal : List Char} (h : ¬ Quotes.isFine o literal = true) :
    Quotes.requote o.style.char literal ≠ literal := by
  simp only [Quotes.isFine, Bool.or_eq_true, not_or, beq_iff_eq] at h
  obtain ⟨⟨hlong, hhead⟩, -⟩ := h
  intro heq
  apply hhead
  cases literal with
  | nil => exact absurd rfl hlong
  | cons old rest =>
    rw [← heq]
    rfl

/-- A fix of `quotes` changes the first character of a literal. -/
lemma Quotes.isEdit_of_mem (htree : tree.IsRegular data) {o : QuoteOptions}
    (h : finding ∈ Quotes.check o (.of (.ofBytes data) tree)) (hfix : finding.fix = some fix) :
    fix.IsEdit data := by
  obtain ⟨u, hnode, hfine, rfl⟩ := Quotes.exists_of_mem (fun s => Site.mem_walk_iff.mp) h
  obtain rfl := Option.some.inj hfix
  obtain ⟨hstart, hstop⟩ := htree.fits u hnode
  have hle : u.start ≤ u.stop := htree.isOrdered u hnode
  refine ⟨u.start, u.stop, ⟨rfl, rfl⟩, hle, hstop.le, ?_⟩
  intro heq
  have hsame : Quotes.requote o.style.char (decode (between data u.start u.stop)) =
      decode (between data u.start u.stop) := by
    rw [← decode_encode (Quotes.requote _ _)]
    exact congrArg decode heq
  exact Quotes.requote_ne hfine hsame

/-- **All rules.** What any rule proposes is a real edit. -/
lemma Check.isEdit_of_mem (htree : tree.IsRegular data) {check : Check}
    (h : finding ∈ check.findings (.of (.ofBytes data) tree)) (hfix : finding.fix = some fix) :
    fix.IsEdit data := by
  cases check with
  | semi style => exact Semi.isEdit_of_mem htree h hfix
  | quotes o => exact Quotes.isEdit_of_mem htree h hfix
  | indent o =>
    obtain ⟨s, -, n, hfound⟩ := Indent.exists_of_mem_checkFrom h
    obtain ⟨before, after, hf, -, -, hne⟩ :=
      Indent.replaces_of_finding? (Source.point_row_lt data _) hfound hfix
    exact hf.isEdit hne.symm
  | noUnusedVars => simp [Names.fix_eq_none (.inl rfl) h] at hfix
  | noUndef => simp [Names.fix_eq_none (.inr (.inl rfl)) h] at hfix
  | noConsole => simp [Names.fix_eq_none (.inr (.inr rfl)) h] at hfix
  | noTrailingSpaces =>
    obtain ⟨row, hrow, hfound⟩ := List.mem_filterMap.mp h
    have hrow := List.mem_range.mp (List.mem_of_mem_filter hrow)
    obtain ⟨before, tail, after, hf, hne, -, htext⟩ := Whitespace.replaces_of_trailing? hrow hfound hfix
    exact hf.isEdit (htext ▸ hne.symm)
  | eolLast style =>
    rcases Whitespace.replaces_of_mem_checkLast rfl h hfix with
      ⟨hf, htext⟩ | ⟨kept, tail, hf, hne, -, htext⟩
    · exact hf.isEdit (by rw [htext]; decide)
    · exact hf.isEdit (htext ▸ hne.symm)

end edit

/-! ## Applying at least one -/

section applied

variable {data : Bytes} {tree : Tree} {finding : Finding} {fix : Fix}

/-- Every fix of a rule counts its offsets from the start of the text, whatever the tree. -/
lemma Check.covers_of_mem {check : Check}
    (h : finding ∈ check.findings (.of (.ofBytes data) tree)) (hfix : finding.fix = some fix) :
    ∃ start stop, fix.Covers start stop := by
  cases hcheck : check.editsCode with
  | false =>
    obtain ⟨start, stop, hcovers, -⟩ := (Check.laysOut_of_mem hcheck h hfix).1
    exact ⟨start, stop, hcovers⟩
  | true =>
    cases check with
    | semi style =>
      obtain ⟨last, -, hfinding⟩ := Semi.exists_of_mem (fun s => Site.mem_walk_iff.mp) h
      rcases hfinding with rfl | ⟨rfl, -⟩
      · obtain rfl := Option.some.inj hfix
        exact ⟨_, _, rfl, rfl⟩
      · obtain rfl := Option.some.inj hfix
        exact ⟨_, _, rfl, rfl⟩
    | quotes o =>
      obtain ⟨u, -, -, rfl⟩ := Quotes.exists_of_mem (fun s => Site.mem_walk_iff.mp) h
      obtain rfl := Option.some.inj hfix
      exact ⟨_, _, rfl, rfl⟩
    | _ => exact Bool.noConfusion hcheck

/-- The first fix is never left out. -/
lemma applyFixes_pos {fixes : List Fix} (hne : fixes ≠ [])
    (h : ∀ f ∈ fixes, ∃ start stop, f.Covers start stop) : 0 < (applyFixes data fixes).2 := by
  unfold applyFixes
  cases hsorted : fixes.mergeSort Fix.le with
  | nil =>
    have hlength : (fixes.mergeSort Fix.le).length = fixes.length := List.length_mergeSort fixes
    rw [hsorted, List.length_nil] at hlength
    exact absurd (List.length_eq_zero_iff.mp hlength.symm) hne
  | cons f rest =>
    have hmem : f ∈ fixes := List.mem_mergeSort.mp (hsorted ▸ List.mem_cons_self)
    obtain ⟨start, stop, hstart, -⟩ := h f hmem
    rw [applyFrom, if_neg (by rw [hstart]; omega)]
    exact Nat.succ_pos _

/-- If a check has fixes, one of them at least is applied. -/
lemma applyFixes_verifyTree_pos {rules : List Rule}
    (hne : fixesOf (verifyTree rules data tree).messages ≠ []) :
    0 < (applyFixes data (fixesOf (verifyTree rules data tree).messages)).2 := by
  refine applyFixes_pos hne fun f hf => ?_
  obtain ⟨rule, -, finding, hfinding, hfix⟩ := exists_of_mem_fixesOf hf
  exact Check.covers_of_mem hfinding hfix

end applied

namespace Linter

variable {l : Linter} {d d' : Draft}

/-- A pass that starts from a run of the rules can apply a fix, if there is any. -/
lemma pass_ne_unapplied (h : d = .of d.data (l.verify d.data)) : l.pass d ≠ .error .unapplied := by
  have hpos : d.fixes ≠ [] → 0 < (applyFixes d.data d.fixes).2 := by
    rw [h]
    exact applyFixes_verifyTree_pos
  unfold pass
  intro hpass
  split at hpass
  case isTrue => cases hpass
  case isFalse hsome =>
    have happlied := hpos fun hnil => hsome (List.isEmpty_iff.mpr hnil)
    dsimp only at hpass
    rw [if_neg (Nat.ne_of_gt happlied)] at hpass
    split at hpass
    · cases hpass
    · split at hpass <;> cases hpass

/-- The drafts that passes come to all carry the fixes of a run of the rules. -/
lemma current_of_reaches (h : d = .of d.data (l.verify d.data)) (hreach : l.Reaches d d') :
    d' = .of d'.data (l.verify d'.data) := by
  induction hreach with
  | refl => exact h
  | tail _ hpass _ => exact (pass_eq_ok hpass).2.2

/-- Mending never ends because no fix could be applied. -/
lemma lastDraft_ne_unapplied (l : Linter) (source : String) : (l.lastDraft source).2 ≠ .unapplied := by
  intro hlast
  cases h : (l.parse (encodeString source)).hasError with
  | true =>
    rw [lastDraft_of_unparsed h] at hlast
    cases hlast
  | false =>
    have hcurrent := current_of_reaches (l := l) rfl (reaches_lastDraft source)
    rw [lastDraft_of_parsed h] at hlast hcurrent
    have hpass := pass_mend passLimit (l.firstDraft source) (by rw [hlast]; decide)
    rw [hlast] at hpass
    exact pass_ne_unapplied hcurrent hpass

end Linter

/-! ## A run of the rules -/

/-- **A run cannot fail, and proposes real edits only.** For any bytes and a tree that they can have, every
lookup of a run finds something; every fix replaces a stretch of the text by other bytes; if there is a
fix, then at least one is applied. Hence mending with the same rules, by whatever parser, never ends
because no fix could be applied. -/
theorem verifyTree_isSafe (rules : List Rule) {data : Bytes} {tree : Tree}
    (htree : tree.IsRegular data) :
    Strict.verifyTree rules data tree = some (verifyTree rules data tree) ∧
      (∀ fix ∈ fixesOf (verifyTree rules data tree).messages, fix.IsEdit data) ∧
      (fixesOf (verifyTree rules data tree).messages ≠ [] →
        0 < (applyFixes data (fixesOf (verifyTree rules data tree).messages)).2) ∧
      ∀ parse source, ((⟨rules, parse⟩ : Linter).lastDraft source).2 ≠ .unapplied := by
  refine ⟨Strict.verifyTree_eq rules data tree, fun fix hmem => ?_, applyFixes_verifyTree_pos,
    fun parse source => Linter.lastDraft_ne_unapplied ⟨rules, parse⟩ source⟩
  obtain ⟨rule, -, finding, hfinding, hfix⟩ := exists_of_mem_fixesOf hmem
  exact Check.isEdit_of_mem htree hfinding hfix

/-- A string with a semicolon behind it, and two spaces behind that. -/
def untidyText : Bytes := encodeString "'é';  "

/-- The tree of the text. -/
def untidyTree : Tree where
  kind := "program"
  start := 0
  stop := 7
  children := [
    { kind := "expression_statement", start := 0, stop := 5
      children := [{ kind := "string", start := 0, stop := 4 },
        { kind := ";", start := 4, stop := 5, named := false }] }]

/-- The untidy tree is regular. -/
lemma isRegular_untidyTree : untidyTree.IsRegular untidyText := by
  refine Tree.isRegular_of_children (by decide) (by decide) (by decide) fun c hc => ?_
  obtain rfl := List.mem_singleton.mp hc
  refine Tree.isRegular_of_children (by decide) (by decide) (by decide) fun c hc => ?_
  obtain rfl | hc := List.mem_cons.mp hc
  · exact Tree.isRegular_of_children (by decide +kernel) (by decide) (by decide) (by simp)
  · obtain rfl := List.mem_singleton.mp hc
    exact Tree.isRegular_of_children (by decide) (by decide) (by decide) (by simp)

/-- Rules that each have something to mend. -/
def untidyRules : List Rule :=
  [⟨.error, .semi .never⟩, ⟨.error, .quotes ⟨.double, false, false⟩⟩, ⟨.warning, .noTrailingSpaces⟩,
    ⟨.warning, .eolLast .always⟩]

/-- What the rules propose, the last of it behind the text. -/
def untidyFixes : List Fix := [⟨4, 5, []⟩, ⟨0, 4, encodeString "\"é\""⟩, ⟨5, 7, []⟩, ⟨7, 7, [10]⟩]

/-- The fixes of four rules. -/
theorem verifyTree_isSafe_untidy :
    untidyTree.IsRegular untidyText ∧
      Strict.verifyTree untidyRules untidyText untidyTree =
        some (verifyTree untidyRules untidyText untidyTree) ∧
      (∀ fix ∈ untidyFixes, fix.IsEdit untidyText) ∧
      0 < (applyFixes untidyText
        (fixesOf (verifyTree untidyRules untidyText untidyTree).messages)).2 := by
  have hmem : ∀ fix ∈ untidyFixes, fix ∈ fixesOf (verifyTree untidyRules untidyText untidyTree).messages := by
    have hfixes : ∀ fix ∈ untidyFixes, fix ∈ fixesOf (untidyRules.flatMap (·.messages (.of (.ofBytes untidyText) untidyTree))) := by
      decide +kernel
    intro fix hfix
    obtain ⟨m, hm, heq⟩ := List.mem_filterMap.mp (hfixes fix hfix)
    refine List.mem_filterMap.mpr ⟨m, ?_, heq⟩
    rw [mem_messages_of_parsed (by decide)]
    exact List.mem_flatMap.mp hm
  obtain ⟨hlookups, hedits, hpos, -⟩ := verifyTree_isSafe untidyRules isRegular_untidyTree
  exact ⟨isRegular_untidyTree, hlookups, fun fix hfix => hedits fix (hmem fix hfix),
    hpos (List.ne_nil_of_mem (hmem _ List.mem_cons_self))⟩

end Diagnosis.Lint
